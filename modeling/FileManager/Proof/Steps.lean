import FileManager.Model.Server

/-!
**What one step of the server can do.**

Every invariant of the server is proved from the facts of this module and never by unfolding
`step` again:

* which parts of the world each kind of segment writes (`enter` only the disk, `fileResume` the
  `File` collection, the disk and the ObjectId counter, `userResume` the `User` collection and the
  counter, `uploadResume` and `attemptJob` the queue and, for an attempt, the disk);
* `enter_eq_await`, `fileResume_cases`, `userResume_cases`, `uploadResume_cases`,
  `attemptJob_eq_some`: every way each kind of segment can end, with what it writes;
* `step_resume_eq_some`, `step_attempt_eq_some`: what an enabled step of each label is;
* `mem_afterEnter`, `mem_afterEnter_of_settled`: a restart drops the requests that wait, and
  keeps every other entry as it was;
* `threadsKeyed_reachable`: requests are numbered without repetition, below `nextRequestId`, so a
  new request's number is fresh.
-/

namespace FileManager

/-! ### The parts of the world a segment writes -/

section Segments

variable (P : Platform) (world : World) (now : Nat) (env : Env)

theorem enter_world (request : Request) :
    (enter P world now request).1 = { world with disk := (enter P world now request).1.disk } := by
  fun_cases enter P world now request <;> rfl

@[simp] theorem enter_files (request : Request) :
    (enter P world now request).1.files = world.files := by
  rw [enter_world]

@[simp] theorem enter_users (request : Request) :
    (enter P world now request).1.users = world.users := by
  rw [enter_world]

@[simp] theorem enter_nextObjectId (request : Request) :
    (enter P world now request).1.nextObjectId = world.nextObjectId := by
  rw [enter_world]

@[simp] theorem enter_jobs (request : Request) :
    (enter P world now request).1.jobs = world.jobs := by
  rw [enter_world]

@[simp] theorem enter_nextJobId (request : Request) :
    (enter P world now request).1.nextJobId = world.nextJobId := by
  rw [enter_world]

@[simp] theorem fileResume_users (wait : FileWait) :
    (fileResume P world env wait).1.users = world.users := by
  fun_cases fileResume P world env wait <;> rfl

@[simp] theorem fileResume_jobs (wait : FileWait) :
    (fileResume P world env wait).1.jobs = world.jobs := by
  fun_cases fileResume P world env wait <;> rfl

@[simp] theorem fileResume_nextJobId (wait : FileWait) :
    (fileResume P world env wait).1.nextJobId = world.nextJobId := by
  fun_cases fileResume P world env wait <;> rfl

@[simp] theorem userResume_files (wait : UserWait) :
    (userResume P world env wait).1.files = world.files := by
  fun_cases userResume P world env wait <;> rfl

@[simp] theorem userResume_disk (wait : UserWait) :
    (userResume P world env wait).1.disk = world.disk := by
  fun_cases userResume P world env wait <;> rfl

@[simp] theorem userResume_jobs (wait : UserWait) :
    (userResume P world env wait).1.jobs = world.jobs := by
  fun_cases userResume P world env wait <;> rfl

@[simp] theorem userResume_nextJobId (wait : UserWait) :
    (userResume P world env wait).1.nextJobId = world.nextJobId := by
  fun_cases userResume P world env wait <;> rfl

@[simp] theorem uploadResume_files (wait : UploadWait) :
    (uploadResume world env wait).1.files = world.files := by
  fun_cases uploadResume world env wait <;> rfl

@[simp] theorem uploadResume_users (wait : UploadWait) :
    (uploadResume world env wait).1.users = world.users := by
  fun_cases uploadResume world env wait <;> rfl

@[simp] theorem uploadResume_disk (wait : UploadWait) :
    (uploadResume world env wait).1.disk = world.disk := by
  fun_cases uploadResume world env wait <;> rfl

@[simp] theorem uploadResume_nextObjectId (wait : UploadWait) :
    (uploadResume world env wait).1.nextObjectId = world.nextObjectId := by
  fun_cases uploadResume world env wait <;> rfl

@[simp] theorem resumeWait_file (wait : FileWait) :
    resumeWait P world env (.file wait) =
      ((fileResume P world env wait).1, (fileResume P world env wait).2.map .file) := rfl

@[simp] theorem resumeWait_user (wait : UserWait) :
    resumeWait P world env (.user wait) =
      ((userResume P world env wait).1, (userResume P world env wait).2.map .user) := rfl

@[simp] theorem resumeWait_upload (wait : UploadWait) :
    resumeWait P world env (.upload wait) =
      ((uploadResume world env wait).1, (uploadResume world env wait).2.map .upload) := rfl

/-- **What an attempt can do.** The job is waiting; `processFileUpload` moves its file and the
job completes, or it throws and the job is retried or fails. -/
theorem attemptJob_eq_some {jobId : Nat} {world' : World}
    (attempted : attemptJob world jobId now = some world') :
    ∃ data attemptsMade, Table.get world.jobs jobId = some (jobId, ⟨data, .waiting attemptsMade⟩) ∧
      ((∃ disk result, processFileUpload world.disk data now = .ok (disk, result) ∧
          world' = { world with disk, jobs := Table.set world.jobs jobId ⟨data, .completed result⟩ }) ∨
        (∃ error, processFileUpload world.disk data now = .error error ∧
          world' = { world with
            jobs := Table.set world.jobs jobId ⟨data, if attemptsMade + 1 < maxAttempts then
              .waiting (attemptsMade + 1) else .failed error⟩ })) := by
  unfold attemptJob at attempted
  split at attempted
  · rename_i key data attemptsMade found
    have sameKey : key = jobId := (Table.get_eq_some found).2
    subst sameKey
    refine ⟨data, attemptsMade, found, ?_⟩
    split at attempted
    · rename_i disk result processed
      exact .inl ⟨disk, result, processed, (Option.some.inj attempted).symm⟩
    · rename_i error processed
      exact .inr ⟨error, processed, (Option.some.inj attempted).symm⟩
  · cases attempted

/-- An attempt writes the disk and the queue only. -/
theorem attemptJob_world {jobId : Nat} {world' : World}
    (attempted : attemptJob world jobId now = some world') :
    ∃ disk jobs, world' = { world with disk, jobs } := by
  obtain ⟨_, _, _, ⟨disk, _, _, rfl⟩ | ⟨_, _, rfl⟩⟩ := attemptJob_eq_some world now attempted
  · exact ⟨disk, _, rfl⟩
  · exact ⟨world.disk, _, rfl⟩

/-! ### What each segment can do -/

/-- The path multer's disk storage gives the part of a `POST /files` request. -/
def userFilePath (P : Platform) (now : Nat) (part : UploadPart) : String :=
  storagePath (uploadDirectory P.appDir) now part.originalname

/-- The job an upload request queues for the part multer stored with the timestamp `now`. -/
def uploadJobData (now : Nat) (part : UploadPart) : JobData :=
  ⟨part.originalname, storagePath uploadsDestination now part.originalname, part.mimetype,
    part.content.length, none⟩

/-- **Where a request can stand after its first segment**, and what multer wrote for it. -/
theorem enter_eq_await {P : Platform} {world : World} {now : Nat} {request : Request} {wait : Wait}
    (entered : (enter P world now request).2 = .await wait) :
    (∃ authorization body part fileName, request = .createFile authorization body (some part) ∧
      wait = .file (.createChecking fileName (userFilePath P now part)) ∧
      (enter P world now request).1.disk = world.disk.write (userFilePath P now part) part.content) ∨
    (∃ authorization, request = .readFile authorization ∧ wait = .file .readFinding) ∨
    (∃ authorization id, request = .readFileById authorization id ∧
      wait = .file (.readByIdFinding id)) ∨
    (∃ authorization id body fileName filePath, request = .updateFile authorization id body ∧
      wait = .file (.updateFinding id fileName filePath)) ∨
    (∃ authorization id, request = .deleteFile authorization id ∧ wait = .file (.deleteFinding id)) ∨
    (∃ username email password, request = .register (some username) (some email) (some password) ∧
      wait = .user (.registerFinding username email password)) ∨
    (∃ email password, request = .login email password ∧ wait = .user (.loginFinding email password)) ∨
    (∃ part, request = .upload (some part) ∧ wait = .upload (.queueAdding (uploadJobData now part)) ∧
      (enter P world now request).1.disk =
        world.disk.write (storagePath uploadsDestination now part.originalname) part.content) := by
  cases request with
  | createFile authorization body file =>
    refine .inl ?_
    cases authed : authenticateToken P authorization with
    | error response => simp [enter, authed] at entered
    | ok user =>
      cases multered : multerSingle "file" (uploadDirectory P.appDir) (fun _ => none) none now
          world.disk file with
      | mk disk outcome =>
        cases outcome with
        | error error => simp [enter, authed, multered] at entered
        | next stored =>
          simp only [enter, authed, multered] at entered ⊢
          obtain ⟨inner, handlerAwaits, rfl⟩ := Outcome.map_eq_await entered
          obtain ⟨stored', fileName, rfl, rfl⟩ := createFileEnter_eq_await handlerAwaits
          obtain ⟨part, rfl, rfl, written⟩ := multerSingle_eq_next_some (congrArg Prod.snd multered)
          rw [multered] at written
          exact ⟨authorization, body, part, fileName, rfl, rfl, written⟩
  | readFile authorization =>
    obtain ⟨inner, awaits, rfl⟩ := authorized_eq_await entered
    cases awaits
    exact .inr (.inl ⟨authorization, rfl, rfl⟩)
  | readFileById authorization id =>
    obtain ⟨inner, awaits, rfl⟩ := authorized_eq_await entered
    unfold readFileByIdEnter at awaits
    split at awaits
    · cases awaits
    · cases awaits
      exact .inr (.inr (.inl ⟨authorization, id, rfl, rfl⟩))
  | updateFile authorization id body =>
    obtain ⟨inner, awaits, rfl⟩ := authorized_eq_await entered
    unfold updateFileEnter at awaits
    split at awaits
    · cases awaits
    · split at awaits
      · cases awaits
      · cases awaits
        exact .inr (.inr (.inr (.inl ⟨authorization, id, body, _, _, rfl, rfl⟩)))
  | deleteFile authorization id =>
    obtain ⟨inner, awaits, rfl⟩ := authorized_eq_await entered
    unfold deleteFileEnter at awaits
    split at awaits
    · cases awaits
    · cases awaits
      exact .inr (.inr (.inr (.inr (.inl ⟨authorization, id, rfl, rfl⟩))))
  | register username email password =>
    obtain ⟨inner, awaits, rfl⟩ := Outcome.map_eq_await entered
    obtain ⟨name, address, secret, rfl, rfl, rfl, rfl⟩ := registerEnter_eq_await awaits
    exact .inr (.inr (.inr (.inr (.inr (.inl ⟨name, address, secret, rfl, rfl⟩)))))
  | login email password =>
    exact .inr (.inr (.inr (.inr (.inr (.inr (.inl ⟨email, password, rfl,
      (Outcome.await.inj entered).symm⟩))))))
  | upload file =>
    refine .inr (.inr (.inr (.inr (.inr (.inr (.inr ?_))))))
    cases multered : multerSingle "file" uploadsDestination fileFilter (some uploadSizeLimit) now
        world.disk file with
    | mk disk outcome =>
      cases outcome with
      | error error => simp [enter, multered] at entered
      | next stored =>
        simp only [enter, multered] at entered ⊢
        obtain ⟨inner, awaits, rfl⟩ := Outcome.map_eq_await entered
        obtain ⟨stored', rfl, _, rfl⟩ := initiateFileUploadEnter_eq_await awaits
        obtain ⟨part, rfl, rfl, written⟩ := multerSingle_eq_next_some (congrArg Prod.snd multered)
        rw [multered] at written
        exact ⟨part, rfl, rfl, written⟩

/-! ### A restart -/

/-- A request dropped at a restart keeps what it sent; a request that was not waiting stays as it
was. -/
theorem Thread.dropped_cases (thread : Thread) :
    thread.dropped = thread ∨ (∃ wait, thread.progress = .await wait) ∧
      thread.dropped = ⟨thread.request, .unhandled⟩ := by
  unfold Thread.dropped
  split
  · rename_i wait waiting
    exact .inr ⟨⟨wait, waiting⟩, rfl⟩
  · exact .inl rfl

theorem afterEnter_of_handled {progress : Outcome Wait} (handled : progress ≠ .unhandled)
    (threads : List (Nat × Thread)) : afterEnter progress threads = threads := by
  unfold afterEnter
  split
  · exact absurd rfl handled
  · rfl

@[simp] theorem keys_afterEnter (progress : Outcome Wait) (threads : List (Nat × Thread)) :
    Table.keys (afterEnter progress threads) = Table.keys threads := by
  unfold afterEnter
  split
  · exact Table.keys_mapRows _ _
  · rfl

/-- **What a restart leaves of the requests in flight**: each entry is one that was there, or one
that was waiting, dropped without an answer. -/
theorem mem_afterEnter {progress : Outcome Wait} {threads : List (Nat × Thread)}
    {entry : Nat × Thread} (member : entry ∈ afterEnter progress threads) :
    ∃ old ∈ threads, entry = old ∨ (∃ wait, old.2.progress = .await wait) ∧
      entry = (old.1, ⟨old.2.request, .unhandled⟩) := by
  unfold afterEnter at member
  split at member
  · obtain ⟨old, oldMember, rfl⟩ := Table.mem_mapRows.mp member
    refine ⟨old, oldMember, ?_⟩
    rcases Thread.dropped_cases old.2 with same | ⟨waiting, dropped⟩
    · exact .inl (by rw [same])
    · exact .inr ⟨waiting, by rw [dropped]⟩
  · exact ⟨entry, member, .inl rfl⟩

/-- A request that is not waiting is left as it is by a restart. -/
theorem mem_afterEnter_of_settled {progress : Outcome Wait} {threads : List (Nat × Thread)}
    {entry : Nat × Thread} (member : entry ∈ threads)
    (settled : ∀ wait, entry.2.progress ≠ .await wait) : entry ∈ afterEnter progress threads := by
  unfold afterEnter
  split
  · refine Table.mem_mapRows_of_fixed member ?_
    rcases Thread.dropped_cases entry.2 with same | ⟨⟨wait, waiting⟩, _⟩
    · exact same
    · exact absurd waiting (settled wait)
  · exact member

/-- What the requests in flight hold, read off where they stand, only shrinks at a restart when
a request dropped holds nothing. -/
theorem collect_afterEnter_sublist {β : Type} (g : Outcome Wait → Option β)
    (gone : g .unhandled = none) (progress : Outcome Wait) (threads : List (Nat × Thread)) :
    (Table.collect (fun thread : Thread => g thread.progress) (afterEnter progress threads)).Sublist
      (Table.collect (fun thread : Thread => g thread.progress) threads) := by
  unfold afterEnter
  split
  · refine Table.collect_mapRows_sublist (fun thread => ?_) threads
    rcases Thread.dropped_cases thread with same | ⟨_, dropped⟩
    · exact .inl (by rw [same])
    · exact .inr (by rw [dropped]; exact gone)
  · exact List.Sublist.refl _

/-- What the requests in flight hold only once they have answered is kept by a restart. -/
theorem collect_afterEnter {β : Type} (g : Outcome Wait → Option β)
    (waiting : ∀ wait, g (.await wait) = none) (gone : g .unhandled = none) (progress : Outcome Wait)
    (threads : List (Nat × Thread)) :
    Table.collect (fun thread : Thread => g thread.progress) (afterEnter progress threads) =
      Table.collect (fun thread : Thread => g thread.progress) threads := by
  unfold afterEnter
  split
  · refine Table.collect_mapRows_of_eq (fun thread => ?_) threads
    rcases Thread.dropped_cases thread with same | ⟨⟨wait, held⟩, dropped⟩
    · rw [same]
    · rw [dropped]
      show g .unhandled = g thread.progress
      rw [held, gone, waiting]
  · rfl

/-- **Invariant rule for a restart.** A property of every request in flight that holds of a
request dropped without an answer holds after a restart. -/
theorem forall_afterEnter {Φ : Nat × Thread → Prop} {progress : Outcome Wait}
    {threads : List (Nat × Thread)} (kept : ∀ entry ∈ threads, Φ entry)
    (dropped : ∀ entry ∈ threads, Φ (entry.1, ⟨entry.2.request, .unhandled⟩)) :
    ∀ entry ∈ afterEnter progress threads, Φ entry := by
  intro entry member
  obtain ⟨old, oldMember, same | ⟨_, restarted⟩⟩ := mem_afterEnter member
  · rw [same]
    exact kept old oldMember
  · rw [restarted]
    exact dropped old oldMember

section Unhandled

variable {P : Platform} {world : World} {now : Nat}

theorem authorized_unhandled {authorization : Option String} {handler : Outcome FileWait}
    (ended : authorized P authorization handler = .unhandled) : handler = .unhandled := by
  unfold authorized at ended
  split at ended
  · cases ended
  · cases handler with
    | await wait => cases ended
    | respond response => cases ended
    | unhandled => rfl

/-- `createFile` validates inside its `try`: its first segment never throws. -/
theorem createFileEnter_handled (body : Body) (file : Option StoredFile) :
    createFileEnter P body file ≠ .unhandled := by
  fun_cases createFileEnter P body file <;> intro ended <;> cases ended

theorem initiateFileUploadEnter_handled (disk : Disk) (file : Option StoredFile) :
    initiateFileUploadEnter disk file ≠ .unhandled := by
  fun_cases initiateFileUploadEnter disk file <;> intro ended <;> cases ended

/-- `updateFile` ends without an answer only when `validateFile` throws. -/
theorem updateFileEnter_unhandled {id : String} {body : Body}
    (ended : updateFileEnter P id body = .unhandled) : ∃ message, validateFile P body = .error message := by
  cases validated : validateFile P body with
  | error message => exact ⟨message, rfl⟩
  | ok value =>
    -- a valid body answers 400 or waits at `File.findById`
    exfalso
    by_cases missing : id = "" ∨ value.fileName = "" ∨ value.filePath = ""
    · simp [updateFileEnter, validated, missing] at ended
    · simp [updateFileEnter, validated, missing] at ended

/-- **What an unanswered first segment can be.** Only `updateFile`, whose body fails `validateFile`
before its `try`, leaves a request without an answer or an `await`. -/
theorem enter_eq_unhandled {P : Platform} {world : World} {now : Nat} {request : Request}
    (entered : (enter P world now request).2 = .unhandled) :
    ∃ authorization id body message,
      request = .updateFile authorization id body ∧ validateFile P body = .error message := by
  cases request with
  | updateFile authorization id body =>
    obtain ⟨message, invalid⟩ := updateFileEnter_unhandled (authorized_unhandled entered)
    exact ⟨authorization, id, body, message, rfl, invalid⟩
  | createFile authorization body file =>
    -- `createFile` validates inside its `try`
    exfalso
    cases authed : authenticateToken P authorization with
    | error response => simp [enter, authed] at entered
    | ok user =>
      cases multered : multerSingle "file" (uploadDirectory P.appDir) (fun _ => none) none now
          world.disk file with
      | mk disk outcome =>
        cases outcome with
        | error error => simp [enter, authed, multered] at entered
        | next stored =>
          simp only [enter, authed, multered] at entered
          cases handled : createFileEnter P body stored with
          | await wait => rw [handled] at entered; cases entered
          | respond response => rw [handled] at entered; cases entered
          | unhandled => exact createFileEnter_handled body stored handled
  | readFile authorization => cases authorized_unhandled entered
  | readFileById authorization id =>
    have inner := authorized_unhandled entered
    unfold readFileByIdEnter at inner
    split at inner <;> cases inner
  | deleteFile authorization id =>
    have inner := authorized_unhandled entered
    unfold deleteFileEnter at inner
    split at inner <;> cases inner
  | register username email password =>
    exfalso
    cases registered : registerEnter username email password with
    | await wait => simp [enter, registered, Outcome.map] at entered
    | respond response => simp [enter, registered, Outcome.map] at entered
    | unhandled =>
      unfold registerEnter at registered
      split at registered <;> cases registered
  | login email password => cases entered
  | upload file =>
    exfalso
    cases multered : multerSingle "file" uploadsDestination fileFilter (some uploadSizeLimit) now
        world.disk file with
    | mk disk outcome =>
      cases outcome with
      | error error => simp [enter, multered] at entered
      | next stored =>
        simp only [enter, multered] at entered
        cases initiated : initiateFileUploadEnter disk stored with
        | await wait => simp [initiated, Outcome.map] at entered
        | respond response => simp [initiated, Outcome.map] at entered
        | unhandled => exact initiateFileUploadEnter_handled disk stored initiated

/-- A request whose first segment does not throw leaves the other requests in flight as they
were. -/
theorem afterEnter_enter {request : Request}
    (valid : ∀ authorization id body, request = .updateFile authorization id body →
      ∃ value, validateFile P body = .ok value) (threads : List (Nat × Thread)) :
    afterEnter (enter P world now request).2 threads = threads := by
  refine afterEnter_of_handled (fun ended => ?_) threads
  obtain ⟨authorization, id, body, message, rfl, invalid⟩ := enter_eq_unhandled ended
  obtain ⟨value, passed⟩ := valid authorization id body rfl
  rw [invalid] at passed
  cases passed

/-- A request other than `updateFile` never throws: nothing is dropped when it arrives. -/
theorem afterEnter_enter_of_ne {request : Request}
    (notUpdate : ∀ authorization id body, request ≠ .updateFile authorization id body)
    (threads : List (Nat × Thread)) : afterEnter (enter P world now request).2 threads = threads :=
  afterEnter_enter (fun authorization id body same => absurd same (notUpdate authorization id body))
    threads

end Unhandled

/-- Whether a body is an error body: no document, user, token or job in it. -/
def Payload.isError : Payload → Bool
  | .file .. | .files .. | .user .. | .userToken .. | .queued .. => false
  | _ => true

theorem Outcome.map_eq_respond {α β : Type} {f : α → β} {outcome : Outcome α} {response : Response}
    (mapped : outcome.map f = .respond response) : outcome = .respond response := by
  cases outcome with
  | await inner => cases mapped
  | respond same => cases mapped; rfl
  | unhandled => cases mapped

theorem authenticateToken_error_isError {P : Platform} {authorization : Option String}
    {response : Response} (refused : authenticateToken P authorization = .error response) :
    response.payload.isError = true := by
  unfold authenticateToken at refused
  split at refused
  · cases refused; rfl
  · split at refused
    · cases refused; rfl
    · split at refused
      · cases refused; rfl
      · split at refused
        · cases refused; rfl
        · cases refused

theorem authorized_respond_error {P : Platform} {authorization : Option String}
    {handler : Outcome FileWait} {response : Response}
    (handled : ∀ response, handler = .respond response → response.payload.isError = true)
    (answered : authorized P authorization handler = .respond response) :
    response.payload.isError = true := by
  unfold authorized at answered
  split at answered
  · rename_i refused
    cases answered
    exact authenticateToken_error_isError refused
  · exact handled response (Outcome.map_eq_respond answered)

/-- **A first segment answers only with an error.** Every handler sends its success after an
`await`: what a request is answered before its first `await` is a refusal of `authenticateToken`,
of multer, or of the handler's own checks. -/
theorem enter_respond_error {P : Platform} {world : World} {now : Nat} {request : Request}
    {response : Response} (answered : (enter P world now request).2 = .respond response) :
    response.payload.isError = true := by
  cases request with
  | createFile authorization body file =>
    cases authed : authenticateToken P authorization with
    | error refusal =>
      simp only [enter, authed, Outcome.respond.injEq] at answered
      subst answered
      exact authenticateToken_error_isError authed
    | ok user =>
      cases multered : multerSingle "file" (uploadDirectory P.appDir) (fun _ => none) none now
          world.disk file with
      | mk disk outcome =>
        cases outcome with
        | error error =>
          -- Express's default error handler sends its error page
          simp only [enter, authed, multered, Outcome.respond.injEq] at answered
          subst answered
          rfl
        | next stored =>
          simp only [enter, authed, multered] at answered
          have handled := Outcome.map_eq_respond answered
          revert handled
          fun_cases createFileEnter P body stored <;> intro handled <;> cases handled <;> rfl
  | readFile authorization =>
    exact authorized_respond_error (fun _ handled => by cases handled) answered
  | readFileById authorization id =>
    refine authorized_respond_error (fun _ handled => ?_) answered
    unfold readFileByIdEnter at handled
    split at handled <;> cases handled
    rfl
  | updateFile authorization id body =>
    refine authorized_respond_error (fun _ handled => ?_) answered
    revert handled
    fun_cases updateFileEnter P id body <;> intro handled <;> cases handled
    rfl
  | deleteFile authorization id =>
    refine authorized_respond_error (fun _ handled => ?_) answered
    unfold deleteFileEnter at handled
    split at handled <;> cases handled
    rfl
  | register username email password =>
    have handled := Outcome.map_eq_respond answered
    unfold registerEnter at handled
    split at handled <;> cases handled
    rfl
  | login email password => cases answered
  | upload file =>
    cases multered : multerSingle "file" uploadsDestination fileFilter (some uploadSizeLimit) now
        world.disk file with
    | mk disk outcome =>
      cases outcome with
      | error error =>
        -- `uploadErrorHandler` answers 400 or 500 with `{ error, details }`
        simp only [enter, multered, Outcome.respond.injEq] at answered
        subst answered
        unfold uploadErrorHandler
        split <;> rfl
      | next stored =>
        simp only [enter, multered] at answered
        have handled := Outcome.map_eq_respond answered
        revert handled
        fun_cases initiateFileUploadEnter disk stored <;> intro handled <;> cases handled <;> rfl

/-- **What a segment of a file handler can do.** It sends a response and leaves the world as it
was, or it is one of the segments that write: drawing the new document's id, inserting it,
loading a document for `updateFile` or `deleteFile`, saving an update, unlinking a file that
`unlinkSync` may remove, removing a document. -/
theorem fileResume_cases (world : World) (env : Env) (wait : FileWait) :
    (∃ response, fileResume P world env wait = (world, .respond response)) ∨
    (∃ fileName filePath, wait = .createChecking fileName filePath ∧ env.settle = .resolve ∧
      checkIfFileExists world.files fileName = none ∧
      fileResume P world env wait = ({ world with nextObjectId := world.nextObjectId + 1 },
        .await (.createSaving world.nextObjectId ⟨fileName, filePath, env.now, none⟩))) ∨
    (∃ id file, wait = .createSaving id file ∧ env.settle = .resolve ∧
      fileResume P world env wait = ({ world with files := Table.insert world.files id file },
        .respond ⟨201, .file .fileUploadSuccess (id, file)⟩)) ∨
    (∃ id fileName filePath objectId loaded, wait = .updateFinding id fileName filePath ∧
      Table.get world.files objectId = some (objectId, loaded) ∧
      fileResume P world env wait =
        (world, .await (.updateSaving objectId loaded { loaded with fileName, filePath }))) ∨
    (∃ objectId loaded edited current, wait = .updateSaving objectId loaded edited ∧
      env.settle = .resolve ∧ Table.get world.files objectId = some current ∧
      fileResume P world env wait =
        ({ world with files := Table.modify world.files objectId (saveModified loaded edited) },
          .respond ⟨200, .file .fileUpdated (objectId, edited)⟩)) ∨
    (∃ id objectId file, wait = .deleteFinding id ∧
      findById world.files id env.settle = .ok (some (objectId, file)) ∧
      Table.get world.files objectId = some (objectId, file) ∧
      deleteFileFromSystem P world.disk file.filePath = .ok (world.disk.unlinkSync file.filePath) ∧
      fileResume P world env wait = ({ world with disk := world.disk.unlinkSync file.filePath },
        .await (.deleteDeleting objectId file))) ∨
    (∃ objectId file, wait = .deleteDeleting objectId file ∧ env.settle = .resolve ∧
      fileResume P world env wait = ({ world with files := Table.erase world.files objectId },
        .respond ⟨200, .file .fileDeleted (objectId, file)⟩)) := by
  cases wait with
  | createChecking fileName filePath =>
    cases settled : env.settle with
    | reject error =>
      exact .inl ⟨⟨400, .error (.literal error.message)⟩, by simp [fileResume, settled]⟩
    | resolve =>
      cases found : checkIfFileExists world.files fileName with
      | some existing =>
        exact .inl ⟨errorResponse 409 .fileAlreadyExists, by simp [fileResume, settled, found]⟩
      | none =>
        exact .inr (.inl ⟨fileName, filePath, rfl, rfl, found,
          by simp [fileResume, settled, found]⟩)
  | createSaving id file =>
    cases settled : env.settle with
    | reject error =>
      exact .inl ⟨⟨400, .error (.literal error.message)⟩, by simp [fileResume, settled]⟩
    | resolve => exact .inr (.inr (.inl ⟨id, file, rfl, rfl, by simp [fileResume, settled]⟩))
  | readFinding =>
    cases settled : env.settle with
    | reject error =>
      exact .inl ⟨errorResponse 500 .errorRetrievingFiles, by simp [fileResume, settled]⟩
    | resolve =>
      by_cases empty : world.files = []
      · exact .inl ⟨errorResponse 404 .noFilesFound, by simp [fileResume, settled, empty]⟩
      · exact .inl ⟨⟨200, .files .filesRetrieved world.files⟩,
          by simp [fileResume, settled, empty]⟩
  | readByIdFinding id =>
    cases found : findById world.files id env.settle with
    | error error =>
      exact .inl ⟨errorResponse 500 .errorRetrievingFiles, by simp [fileResume, found]⟩
    | ok loaded =>
      cases loaded with
      | none => exact .inl ⟨errorResponse 404 .fileNotFound, by simp [fileResume, found]⟩
      | some file =>
        exact .inl ⟨⟨200, .file .fileRetrieved file⟩, by simp [fileResume, found]⟩
  | updateFinding id fileName filePath =>
    cases found : findById world.files id env.settle with
    | error error => exact .inl ⟨errorResponse 500 .errorUpdatingFile, by simp [fileResume, found]⟩
    | ok loaded =>
      cases loaded with
      | none => exact .inl ⟨errorResponse 404 .fileNotFound, by simp [fileResume, found]⟩
      | some entry =>
        have lookedUp := (findById_eq_ok_some found).2.2
        exact .inr (.inr (.inr (.inl ⟨id, fileName, filePath, entry.1, entry.2, rfl, lookedUp,
          by simp [fileResume, found]⟩)))
  | updateSaving objectId loaded edited =>
    cases settled : env.settle with
    | reject error => exact .inl ⟨errorResponse 500 .errorUpdatingFile, by simp [fileResume, settled]⟩
    | resolve =>
      cases current : Table.get world.files objectId with
      | none =>
        exact .inl ⟨errorResponse 500 .errorUpdatingFile, by simp [fileResume, settled, current]⟩
      | some entry =>
        exact .inr (.inr (.inr (.inr (.inl ⟨objectId, loaded, edited, entry, rfl, rfl, current,
          by simp [fileResume, settled, current]⟩))))
  | deleteFinding id =>
    cases found : findById world.files id env.settle with
    | error error => exact .inl ⟨errorResponse 500 .errorDeletingFile, by simp [fileResume, found]⟩
    | ok loaded =>
      cases loaded with
      | none => exact .inl ⟨errorResponse 404 .fileNotFound, by simp [fileResume, found]⟩
      | some entry =>
        have lookedUp := (findById_eq_ok_some found).2.2
        -- `unlinkSync` may throw, and the `catch` answers 500 before `deleteOne` runs
        rcases deleteFileFromSystem_cases P world.disk entry.2.filePath with
          ⟨error, refused, _⟩ | unlinked
        · exact .inl ⟨errorResponse 500 .errorDeletingFile, by simp [fileResume, found, refused]⟩
        · exact .inr (.inr (.inr (.inr (.inr (.inl ⟨id, entry.1, entry.2, rfl, found, lookedUp,
            unlinked, by simp [fileResume, found, unlinked]⟩)))))
  | deleteDeleting objectId file =>
    cases settled : env.settle with
    | reject error => exact .inl ⟨errorResponse 500 .errorDeletingFile, by simp [fileResume, settled]⟩
    | resolve => exact .inr (.inr (.inr (.inr (.inr (.inr ⟨objectId, file, rfl, rfl,
        by simp [fileResume, settled]⟩)))))


/-- **What a segment of a user handler can do.** It sends a response and leaves the world as it
was, or it moves `register` past its check, its salt or its hash, inserts the new user, or loads
the user `login` compares against. -/
theorem userResume_cases (P : Platform) (world : World) (env : Env) (wait : UserWait) :
    (∃ response, userResume P world env wait = (world, .respond response)) ∨
    (∃ username email password, wait = .registerFinding username email password ∧
      env.settle = .resolve ∧
      Table.find world.users (fun user => decide (user.email = email ∨ user.username = username)) =
        none ∧
      userResume P world env wait = (world, .await (.registerSalting username email password))) ∨
    (∃ username email password, wait = .registerSalting username email password ∧
      userResume P world env wait =
        (world, .await (.registerHashing username email password env.salt))) ∨
    (∃ username email password salt, wait = .registerHashing username email password salt ∧
      userResume P world env wait = ({ world with nextObjectId := world.nextObjectId + 1 },
        .await (.registerSaving world.nextObjectId ⟨username, email, P.hash password salt⟩))) ∨
    (∃ id user, wait = .registerSaving id user ∧ env.settle = .resolve ∧
      Table.find world.users (fun other => decide (other.username = user.username)) = none ∧
      userResume P world env wait = ({ world with users := Table.insert world.users id user },
        .respond ⟨201, .user .userRegistered (id, user)⟩)) ∨
    (∃ email password user, wait = .loginFinding email password ∧ env.settle = .resolve ∧
      userByEmail world.users email = some user ∧
      userResume P world env wait = (world, .await (.loginComparing user password))) := by
  cases wait with
  | registerFinding username email password =>
    cases settled : env.settle with
    | reject error => exact .inl ⟨registrationError error, by simp [userResume, settled]⟩
    | resolve =>
      cases found : Table.find world.users
          (fun user => decide (user.email = email ∨ user.username = username)) with
      | some existing =>
        obtain ⟨key, existing⟩ := existing
        exact .inl ⟨⟨400, .message (.key
          (if existing.email = email then .emailInUse else .usernameExists))⟩,
          by simp only [userResume, settled, found]⟩
      | none =>
        exact .inr (.inl ⟨username, email, password, rfl, rfl, found,
          by simp only [userResume, settled, found]⟩)
  | registerSalting username email password =>
    exact .inr (.inr (.inl ⟨username, email, password, rfl, rfl⟩))
  | registerHashing username email password salt =>
    exact .inr (.inr (.inr (.inl ⟨username, email, password, salt, rfl, rfl⟩)))
  | registerSaving id user =>
    cases settled : env.settle with
    | reject error => exact .inl ⟨registrationError error, by simp [userResume, settled]⟩
    | resolve =>
      cases found : Table.find world.users
          (fun other => decide (other.username = user.username)) with
      | some existing =>
        exact .inl ⟨registrationError duplicateKeyError, by simp [userResume, settled, found]⟩
      | none =>
        exact .inr (.inr (.inr (.inr (.inl ⟨id, user, rfl, rfl, found,
          by simp [userResume, settled, found]⟩))))
  | loginFinding email password =>
    cases settled : env.settle with
    | reject error =>
      exact .inl ⟨⟨500, .messageError (.key .serverErrorLogin) error.message⟩,
        by simp [userResume, settled]⟩
    | resolve =>
      cases found : userByEmail world.users email with
      | none =>
        exact .inl ⟨⟨400, .message (.key .invalidCredentials)⟩,
          by simp [userResume, settled, found]⟩
      | some user =>
        exact .inr (.inr (.inr (.inr (.inr ⟨email, password, user, rfl, rfl, found,
          by simp [userResume, settled, found]⟩))))
  | loginComparing user password =>
    cases password with
    | none =>
      exact .inl ⟨⟨500, .messageError (.key .serverErrorLogin)
        "Illegal arguments: undefined, string"⟩, by simp [userResume]⟩
    | some password =>
      by_cases accepted : P.compare password user.2.password = true
      · exact .inl ⟨⟨200, .userToken .loginSuccessful user (generateToken P user.1)⟩,
          by simp [userResume, accepted]⟩
      · exact .inl ⟨⟨400, .message (.key .invalidCredentials)⟩, by simp [userResume, accepted]⟩

/-- **What a segment of the upload handler can do**: respond, or add the job to the queue. -/
theorem uploadResume_cases (world : World) (env : Env) (wait : UploadWait) :
    (∃ response, uploadResume world env wait = (world, .respond response)) ∨
    (∃ data, wait = .queueAdding data ∧ env.settle = .resolve ∧
      uploadResume world env wait =
        ({ world with
            jobs := Table.insert world.jobs world.nextJobId ⟨data, .waiting 0⟩
            nextJobId := world.nextJobId + 1 },
          .respond ⟨202, .queued world.nextJobId data.originalname⟩)) := by
  cases wait with
  | queueAdding data =>
    cases settled : env.settle with
    | reject error => exact .inl ⟨queueError error, by simp [uploadResume, settled]⟩
    | resolve => exact .inr ⟨data, rfl, rfl, by simp [uploadResume, settled]⟩

end Segments

@[simp] theorem Outcome.map_await {α β : Type} (f : α → β) (wait : α) :
    (Outcome.await wait).map f = .await (f wait) := rfl

@[simp] theorem Outcome.map_respond {α β : Type} (f : α → β) (response : Response) :
    (Outcome.respond response : Outcome α).map f = .respond response := rfl

/-! ### Routes -/

/-- The handler a request is routed to. -/
inductive Route
  | createFile | readFile | readFileById | updateFile | deleteFile | register | login | upload
  deriving DecidableEq, Repr

def Request.route : Request → Route
  | .createFile .. => .createFile
  | .readFile .. => .readFile
  | .readFileById .. => .readFileById
  | .updateFile .. => .updateFile
  | .deleteFile .. => .deleteFile
  | .register .. => .register
  | .login .. => .login
  | .upload .. => .upload

/-- The handler an `await` belongs to. -/
def Wait.route : Wait → Route
  | .file (.createChecking ..) | .file (.createSaving ..) => .createFile
  | .file .readFinding => .readFile
  | .file (.readByIdFinding ..) => .readFileById
  | .file (.updateFinding ..) | .file (.updateSaving ..) => .updateFile
  | .file (.deleteFinding ..) | .file (.deleteDeleting ..) => .deleteFile
  | .user (.registerFinding ..) | .user (.registerSalting ..) | .user (.registerHashing ..)
  | .user (.registerSaving ..) => .register
  | .user (.loginFinding ..) | .user (.loginComparing ..) => .login
  | .upload _ => .upload

/-- A request first waits at an `await` of its own handler. -/
theorem enter_route {P : Platform} {world : World} {now : Nat} {request : Request} {wait : Wait}
    (entered : (enter P world now request).2 = .await wait) : wait.route = request.route := by
  rcases enter_eq_await entered with
    ⟨_, _, _, _, rfl, rfl, _⟩ | ⟨_, rfl, rfl⟩ | ⟨_, _, rfl, rfl⟩ | ⟨_, _, _, _, _, rfl, rfl⟩ |
    ⟨_, _, rfl, rfl⟩ | ⟨_, _, _, rfl, rfl⟩ | ⟨_, _, rfl, rfl⟩ | ⟨_, rfl, rfl, _⟩ <;> rfl

/-- A resumed request waits next, if at all, at an `await` of the same handler. -/
theorem resumeWait_route {P : Platform} {world : World} {env : Env} {wait wait' : Wait}
    (resumed : (resumeWait P world env wait).2 = .await wait') : wait'.route = wait.route := by
  cases wait with
  | file wait =>
    rw [resumeWait_file] at resumed
    rcases fileResume_cases P world env wait with
      ⟨_, same⟩ | ⟨_, _, rfl, _, _, same⟩ | ⟨_, _, rfl, _, same⟩ | ⟨_, _, _, _, _, rfl, _, same⟩ |
      ⟨_, _, _, _, rfl, _, _, same⟩ | ⟨_, _, _, rfl, _, _, _, same⟩ | ⟨_, _, rfl, _, same⟩ <;>
    · rw [same] at resumed
      cases resumed <;> rfl
  | user wait =>
    rw [resumeWait_user] at resumed
    rcases userResume_cases P world env wait with
      ⟨_, same⟩ | ⟨_, _, _, rfl, _, _, same⟩ | ⟨_, _, _, rfl, same⟩ | ⟨_, _, _, _, rfl, same⟩ |
      ⟨_, _, rfl, _, _, same⟩ | ⟨_, _, _, rfl, _, _, same⟩ <;>
    · rw [same] at resumed
      cases resumed <;> rfl
  | upload wait =>
    rw [resumeWait_upload] at resumed
    rcases uploadResume_cases world env wait with ⟨_, same⟩ | ⟨_, rfl, _, same⟩ <;>
    · rw [same] at resumed
      cases resumed

/-! ### Enabled steps -/

section Step

variable {P : Platform} {server server' : Server}

theorem step_arrive (request : Request) (now : Nat) :
    step P server (.arrive request now) =
      some { world := (enter P server.world now request).1
             threads := Table.insert (afterEnter (enter P server.world now request).2 server.threads)
               server.nextRequestId ⟨request, (enter P server.world now request).2⟩
             nextRequestId := server.nextRequestId + 1 } := rfl

/-- A request resumes only from an `await`, and its entry keeps its request. -/
theorem step_resume_eq_some {id : Nat} {env : Env}
    (stepped : step P server (.resume id env) = some server') :
    ∃ request wait, Table.get server.threads id = some (id, ⟨request, .await wait⟩) ∧
      server' = { server with
        world := (resumeWait P server.world env wait).1
        threads := Table.set server.threads id ⟨request, (resumeWait P server.world env wait).2⟩ } := by
  simp only [step] at stepped
  split at stepped
  · rename_i key request wait found
    cases stepped
    have sameKey : key = id := (Table.get_eq_some found).2
    subst sameKey
    exact ⟨request, wait, found, rfl⟩
  · cases stepped

theorem step_attempt_eq_some {jobId now : Nat}
    (stepped : step P server (.attempt jobId now) = some server') :
    ∃ world, attemptJob server.world jobId now = some world ∧ server' = { server with world } := by
  simp only [step, Option.map_eq_some_iff] at stepped
  obtain ⟨world, attempted, rfl⟩ := stepped
  exact ⟨world, attempted, rfl⟩

/-- An arrival, seen through `get`: the new request is found under the next number, and every
other number finds what it found. -/
theorem step_arrive_get (fresh : server.nextRequestId ∉ Table.keys server.threads)
    {request : Request} {now : Nat} (handled : (enter P server.world now request).2 ≠ .unhandled) :
    ∃ server', step P server (.arrive request now) = some server' ∧
      server'.world = (enter P server.world now request).1 ∧
      server'.nextRequestId = server.nextRequestId + 1 ∧
      Table.get server'.threads server.nextRequestId =
        some (server.nextRequestId, ⟨request, (enter P server.world now request).2⟩) ∧
      ∀ other ≠ server.nextRequestId, Table.get server'.threads other = Table.get server.threads other :=
  ⟨_, step_arrive request now, rfl, rfl,
    Table.get_insert_of_not_mem _ (by rwa [keys_afterEnter]),
    fun _ differ => by rw [Table.get_insert_of_ne _ differ, afterEnter_of_handled handled]⟩

/-- A resume of a waiting request, seen through `get`: its entry moves on, and every other number
finds what it found. -/
theorem step_resume_get {id : Nat} {request : Request} {wait : Wait}
    (found : Table.get server.threads id = some (id, ⟨request, .await wait⟩)) (env : Env) :
    ∃ server', step P server (.resume id env) = some server' ∧
      server'.world = (resumeWait P server.world env wait).1 ∧
      server'.nextRequestId = server.nextRequestId ∧
      Table.get server'.threads id = some (id, ⟨request, (resumeWait P server.world env wait).2⟩) ∧
      ∀ other ≠ id, Table.get server'.threads other = Table.get server.threads other := by
  have present : id ∈ Table.keys server.threads := List.mem_map_of_mem (Table.get_eq_some found).1
  exact ⟨{ server with
      world := (resumeWait P server.world env wait).1
      threads := Table.set server.threads id ⟨request, (resumeWait P server.world env wait).2⟩ },
    by simp only [step, found], rfl, rfl, Table.get_set_of_mem _ present,
    fun _ differ => Table.get_set_of_ne _ differ⟩

end Step

/-! ### Request numbers -/

/-- The requests that have arrived are numbered without repetition, below `nextRequestId`. -/
structure ThreadsKeyed (server : Server) : Prop where
  distinct : (Table.keys server.threads).Nodup
  below : ∀ id ∈ Table.keys server.threads, id < server.nextRequestId

/-- After a resume, every request that had arrived is still there, with what it sent. -/
theorem request_mem_set {threads : List (Nat × Thread)} {id : Nat} {request : Request}
    {old : Outcome Wait} (distinct : (Table.keys threads).Nodup)
    (found : Table.get threads id = some (id, ⟨request, old⟩)) (progress : Outcome Wait)
    {thread : Nat × Thread} (member : thread ∈ threads) :
    ∃ thread' ∈ Table.set threads id ⟨request, progress⟩, thread'.2.request = thread.2.request := by
  by_cases same : thread.1 = id
  · have resumed : thread.2 = ⟨request, old⟩ :=
      Table.eq_of_get_of_mem distinct found (by rw [← same]; exact member)
    refine ⟨(id, ⟨request, progress⟩), Table.mem_set_self _ ?_, by rw [resumed]⟩
    exact List.mem_map_of_mem (Table.get_eq_some found).1
  · exact ⟨thread, Table.mem_set_of_ne _ member same, rfl⟩

theorem ThreadsKeyed.fresh {server : Server} (keyed : ThreadsKeyed server) :
    server.nextRequestId ∉ Table.keys server.threads :=
  fun member => Nat.lt_irrefl _ (keyed.below _ member)

theorem threadsKeyed_initial {disk : Disk} : ThreadsKeyed (initial disk) :=
  ⟨by simp [initial, Table.keys], fun _ member => by simp [initial, Table.keys] at member⟩

theorem threadsKeyed_step {P : Platform} {server server' : Server} {label : Label}
    (keyed : ThreadsKeyed server) (stepped : step P server label = some server') :
    ThreadsKeyed server' := by
  cases label with
  | arrive request now =>
    rw [step_arrive] at stepped
    cases stepped
    refine ⟨?_, ?_⟩
    · rw [Table.keys_insert, keys_afterEnter, List.nodup_append]
      refine ⟨keyed.distinct, by simp, ?_⟩
      intro id member new inNew same
      rw [List.mem_singleton] at inNew
      exact keyed.fresh (inNew ▸ same ▸ member)
    · intro id member
      rw [Table.keys_insert, keys_afterEnter, List.mem_append, List.mem_singleton] at member
      rcases member with old | rfl
      · exact Nat.lt_succ_of_lt (keyed.below id old)
      · exact Nat.lt_succ_self _
  | resume id env =>
    obtain ⟨request, wait, _, rfl⟩ := step_resume_eq_some stepped
    exact ⟨by simpa using keyed.distinct, by simpa using keyed.below⟩
  | attempt jobId now =>
    obtain ⟨world, _, rfl⟩ := step_attempt_eq_some stepped
    exact ⟨keyed.distinct, keyed.below⟩

theorem threadsKeyed_reachable {P : Platform} {disk : Disk} {server : Server}
    (reachable : Transition.Reachable (step P) (initial disk) server) : ThreadsKeyed server :=
  Transition.reachable_invariant ThreadsKeyed threadsKeyed_initial
    (fun _ _ _ keyed stepped => threadsKeyed_step keyed stepped) reachable

end FileManager
