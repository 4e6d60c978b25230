import FileManager.Proof.Alone

/-!
**The upload pipeline: each job owns the bytes uploaded with it.**

Both stages of an upload name files `uploads/${Date.now()}-${originalname}`: multer when it stores
the part, and `processFileUpload` when an attempt of the queue moves the stored file. Both write
without looking, so two names of one moment with one original name share a path, whichever stages
they come from. When every name written under is new, each file in `uploads/` has one owner:

* `UploadsOwned past server` — the invariant, indexed by the names `past` written under so far:
  the paths held by the uploads waiting for the queue and by the jobs are pairwise distinct; a
  waiting upload and a waiting job find the bytes of their part at the stored file, a completed
  job at the name its attempt drew; no attempt has failed;
* `uploadsOwned_step`, `uploadsOwned_run` — every step of the pipeline keeps it when the name it
  writes under is new (`Transition.run_invariant_fresh`);
* `uploads_owned` — in such a run every job's data is that of an upload that arrived, every
  waiting job's stored file and every completed job's `result.path` holds exactly the bytes of
  that upload, and no job fails;
* `uploads_owned_fails` — an attempt that draws the name another upload was just stored under
  moves its file over that upload's, and the other job completes with the wrong bytes.
-/

namespace FileManager

/-! ### What uploads and jobs hold -/

/-- The path in `uploads/` a request holds while `initiateFileUpload` waits for the queue: the
file multer stored, which the job it adds will move. -/
def queuedPath : Outcome Wait → Option String
  | .await (.upload (.queueAdding data)) => some data.path
  | _ => none

/-- The path in `uploads/` a job holds: its stored file while it waits, the file an attempt moved
it to once it has completed. -/
def Job.heldPath (job : Job) : Option String :=
  match job.state with
  | .waiting _ => some job.data.path
  | .completed result => some result.path
  | .failed _ => none

/-- The paths held by the uploads waiting for the queue, then by the jobs. -/
def uploadPaths (server : Server) : List String :=
  Table.collect (fun thread : Thread => queuedPath thread.progress) server.threads ++
    Table.collect Job.heldPath server.world.jobs

/-- The steps of the pipeline: uploads arriving, resumes, and the attempts of the queue. -/
def UploadStep : Label → Prop
  | .arrive (.upload _) _ => True
  | .arrive _ _ => False
  | .resume _ _ => True
  | .attempt _ _ => True

instance (label : Label) : Decidable (UploadStep label) :=
  match label with
  | .arrive (.upload _) _ => isTrue trivial
  | .arrive (.createFile ..) _ | .arrive (.readFile ..) _ | .arrive (.readFileById ..) _
  | .arrive (.updateFile ..) _ | .arrive (.deleteFile ..) _ | .arrive (.register ..) _
  | .arrive (.login ..) _ => isFalse id
  | .resume _ _ => isTrue trivial
  | .attempt _ _ => isTrue trivial

/-- The timestamp and original name a step writes under in `uploads/`: multer's, for a part in
the field `file` that the filter accepts; the destination's, for an attempt at a waiting job. -/
def uploadDraw (server : Server) : Label → Option (Nat × String)
  | .arrive (.upload (some part)) now =>
    if part.fieldname = "file" ∧ fileFilter part = none then some (now, part.originalname) else none
  | .attempt jobId now =>
    match Table.get server.world.jobs jobId with
    | some (_, ⟨data, .waiting _⟩) => some (now, data.originalname)
    | _ => none
  | _ => none

/-! ### What the first segment of an upload writes -/

section Enter

variable {P : Platform} {world : World} {now : Nat} {file : Option UploadPart}

theorem enter_upload_disk :
    (enter P world now (.upload file)).1.disk =
      (multerSingle "file" uploadsDestination fileFilter (some uploadSizeLimit) now world.disk
        file).1 := by
  cases multered : multerSingle "file" uploadsDestination fileFilter (some uploadSizeLimit) now
      world.disk file with
  | mk disk outcome => cases outcome <;> simp [enter, multered]

/-- An upload waits for the queue only when multer stored its part, in the field `file` and
accepted by the filter, and with the job data of the stored file. -/
theorem enter_upload_await {wait : Wait} (entered : (enter P world now (.upload file)).2 = .await wait) :
    ∃ part, file = some part ∧ part.fieldname = "file" ∧ fileFilter part = none ∧
      wait = .upload (.queueAdding (uploadJobData now part)) ∧
      (enter P world now (.upload file)).1.disk =
        world.disk.write (storagePath uploadsDestination now part.originalname) part.content := by
  rcases enter_eq_await entered with
    ⟨_, _, _, _, same, _⟩ | ⟨_, same, _⟩ | ⟨_, _, same, _⟩ | ⟨_, _, _, _, _, same, _⟩ |
    ⟨_, _, same, _⟩ | ⟨_, _, _, same, _⟩ | ⟨_, _, same, _⟩ | ⟨part, same, rfl, written⟩
  all_goals cases same
  have field : part.fieldname = "file" := by
    by_contra other
    simp [enter, multerSingle, other] at entered
  have passes : fileFilter part = none := by
    cases filtered : fileFilter part with
    | none => rfl
    | some error => simp [enter, multerSingle, field, filtered] at entered
  exact ⟨part, rfl, field, passes, rfl, written⟩

end Enter

/-! ### The invariant -/

/-- `data` is the job data of the part `request` uploaded, stored by multer under a name drawn in
`past`, and `bytes` are that part's. -/
def UploadedAs (past : List (Nat × String)) (request : Request) (data : JobData)
    (bytes : List UInt8) : Prop :=
  ∃ part now, request = .upload (some part) ∧ (now, part.originalname) ∈ past ∧
    data = uploadJobData now part ∧ bytes = part.content

/-- Where the bytes of a job are: at its stored file while it waits, with no failed attempt; at
the name its attempt drew in `past`, once it has completed. A job does not fail. -/
def JobKept (past : List (Nat × String)) (disk : Disk) (data : JobData) (bytes : List UInt8) :
    JobState → Prop
  | .waiting attemptsMade => attemptsMade = 0 ∧ disk data.path = some bytes
  | .completed result =>
    (∃ now, (now, data.originalname) ∈ past ∧
      result = ⟨data.originalname, storagePath uploadsDestination now data.originalname, data.userId⟩) ∧
    disk result.path = some bytes
  | .failed _ => False

/-- **Each job owns the bytes uploaded with it.** -/
structure UploadsOwned (past : List (Nat × String)) (server : Server) : Prop where
  keyed : ThreadsKeyed server
  jobsDistinct : (Table.keys server.world.jobs).Nodup
  jobsBelow : ∀ jobId ∈ Table.keys server.world.jobs, jobId < server.world.nextJobId
  waits : ∀ entry ∈ server.threads, ∀ wait, entry.2.progress = .await wait →
    ∃ data, wait = .upload (.queueAdding data)
  distinct : (uploadPaths server).Nodup
  queued : ∀ entry ∈ server.threads, ∀ data, entry.2.progress = .await (.upload (.queueAdding data)) →
    ∃ bytes, UploadedAs past entry.2.request data bytes ∧ server.world.disk data.path = some bytes
  jobs : ∀ entry ∈ server.world.jobs, ∃ thread ∈ server.threads, ∃ bytes,
    UploadedAs past thread.2.request entry.2.data bytes ∧
    JobKept past server.world.disk entry.2.data bytes entry.2.state

section Owned

variable {past : List (Nat × String)} {server : Server}

theorem UploadedAs.mono {past' : List (Nat × String)} {request : Request} {data : JobData}
    {bytes : List UInt8} (uploaded : UploadedAs past request data bytes) (sub : past ⊆ past') :
    UploadedAs past' request data bytes := by
  obtain ⟨part, now, same, drawn, rfl, rfl⟩ := uploaded
  exact ⟨part, now, same, sub drawn, rfl, rfl⟩

/-- A job keeps its bytes on a disk that agrees at the path it holds. -/
theorem JobKept.of_agree {past' : List (Nat × String)} {disk disk' : Disk} {data : JobData}
    {bytes : List UInt8} {state : JobState} (kept : JobKept past disk data bytes state)
    (sub : past ⊆ past') (agree : ∀ path, Job.heldPath ⟨data, state⟩ = some path → disk' path = disk path) :
    JobKept past' disk' data bytes state := by
  cases state with
  | waiting attemptsMade =>
    obtain ⟨never, present⟩ := kept
    exact ⟨never, by rw [agree _ rfl]; exact present⟩
  | completed result =>
    obtain ⟨⟨now, drawn, named⟩, present⟩ := kept
    exact ⟨⟨now, sub drawn, named⟩, by rw [agree _ rfl]; exact present⟩
  | failed error => exact kept.elim

theorem uploadsOwned_initial (disk : Disk) : UploadsOwned [] (initial disk) where
  keyed := threadsKeyed_initial
  jobsDistinct := by simp [initial, Table.keys]
  jobsBelow := fun _ member => by simp [initial, Table.keys] at member
  waits := fun _ member => by simp [initial] at member
  distinct := by simp [uploadPaths, initial, Table.collect]
  queued := fun _ member => by simp [initial] at member
  jobs := fun _ member => by simp [initial] at member

/-- Every path held is one written under a name of `past`. -/
theorem UploadsOwned.drawn_of_mem (owned : UploadsOwned past server) {path : String}
    (held : path ∈ uploadPaths server) :
    ∃ now name, (now, name) ∈ past ∧ path = storagePath uploadsDestination now name := by
  rcases List.mem_append.mp held with waiting | job
  · obtain ⟨entry, member, holds⟩ := Table.mem_collect.mp waiting
    cases progress : entry.2.progress with
    | await wait =>
      obtain ⟨data, rfl⟩ := owned.waits entry member _ progress
      rw [progress] at holds
      obtain ⟨_, ⟨part, now, _, drawn, rfl, _⟩, _⟩ := owned.queued entry member _ progress
      exact ⟨now, part.originalname, drawn, (Option.some.inj holds).symm⟩
    | respond response => rw [progress] at holds; cases holds
    | unhandled => rw [progress] at holds; cases holds
  · obtain ⟨⟨jobId, data, state⟩, member, holds⟩ := Table.mem_collect.mp job
    obtain ⟨_, _, bytes, ⟨part, now, _, drawn, stored, _⟩, kept⟩ := owned.jobs _ member
    cases state with
    | waiting attemptsMade =>
      subst stored
      exact ⟨now, part.originalname, drawn, (Option.some.inj holds).symm⟩
    | completed result =>
      obtain ⟨⟨moment, drawnMove, named⟩, _⟩ := kept
      have moved : path = result.path := (Option.some.inj holds).symm
      refine ⟨moment, data.originalname, drawnMove, ?_⟩
      rw [moved, named]
    | failed error => exact kept.elim

/-- A path held is not one written under a name outside `past`. -/
theorem UploadsOwned.ne_of_not_mem (owned : UploadsOwned past server) {path : String}
    (held : path ∈ uploadPaths server) {now : Nat} {name : String} (fresh : (now, name) ∉ past) :
    path ≠ storagePath uploadsDestination now name := by
  obtain ⟨stamp, original, drawn, rfl⟩ := owned.drawn_of_mem held
  intro same
  obtain ⟨rfl, rfl⟩ := storagePath_inj.mp same
  exact fresh drawn

/-- A path a request waiting for the queue holds is among the paths held. -/
theorem queued_mem_uploadPaths {entry : Nat × Thread} (member : entry ∈ server.threads)
    {data : JobData} (progress : entry.2.progress = .await (.upload (.queueAdding data))) :
    data.path ∈ uploadPaths server :=
  List.mem_append_left _ (Table.mem_collect.mpr ⟨entry, member, by rw [progress]; rfl⟩)

/-- A path a job holds is among the paths held. -/
theorem job_mem_uploadPaths {entry : Nat × Job} (member : entry ∈ server.world.jobs) {path : String}
    (holds : entry.2.heldPath = some path) : path ∈ uploadPaths server :=
  List.mem_append_right _ (Table.mem_collect.mpr ⟨entry, member, holds⟩)

/-- **An arriving upload keeps the invariant** when multer stores its part under a new name: the
only path it writes is that one, which nothing holds yet. -/
theorem uploadsOwned_arrive (owned : UploadsOwned past server) {P : Platform}
    {file : Option UploadPart} {now : Nat}
    (fresh : ∀ name ∈ (uploadDraw server (.arrive (.upload file) now)).toList, name ∉ past) :
    UploadsOwned (past ++ (uploadDraw server (.arrive (.upload file) now)).toList)
      ⟨(enter P server.world now (.upload file)).1,
        Table.insert server.threads server.nextRequestId
          ⟨.upload file, (enter P server.world now (.upload file)).2⟩,
        server.nextRequestId + 1⟩ := by
  have sub : past ⊆ past ++ (uploadDraw server (.arrive (.upload file) now)).toList :=
    List.subset_append_left _ _
  -- multer writes at most at the path of the new name, which nothing holds
  have frame : ∀ path ∈ uploadPaths server,
      (enter P server.world now (.upload file)).1.disk path = server.world.disk path := by
    intro path held
    rw [enter_upload_disk]
    apply multerSingle_frame
    rintro part rfl field passes
    exact owned.ne_of_not_mem held (fresh _ (by simp [uploadDraw, field, passes]))
  have kept : afterEnter (enter P server.world now (.upload file)).2 server.threads = server.threads :=
    afterEnter_enter_of_ne (fun _ _ _ => by simp) _
  refine ⟨threadsKeyed_step owned.keyed (by rw [step_arrive, kept]), ?_, ?_, ?_, ?_, ?_, ?_⟩
  · simpa using owned.jobsDistinct
  · simpa using owned.jobsBelow
  · intro entry member wait progress
    rcases Table.mem_insert.mp member with old | rfl
    · exact owned.waits entry old wait progress
    · obtain ⟨part, _, _, _, rfl, _⟩ := enter_upload_await progress
      exact ⟨_, rfl⟩
  · show (Table.collect _ (Table.insert server.threads _ _) ++
      Table.collect Job.heldPath (enter P server.world now (.upload file)).1.jobs).Nodup
    rw [Table.collect_insert, enter_jobs]
    cases entered : (enter P server.world now (.upload file)).2 with
    | await wait =>
      -- the new upload holds the path of the new name
      obtain ⟨part, rfl, field, passes, rfl, _⟩ := enter_upload_await entered
      have notHeld : storagePath uploadsDestination now part.originalname ∉ uploadPaths server :=
        fun held => owned.ne_of_not_mem held (fresh _ (by simp [uploadDraw, field, passes])) rfl
      show (Table.collect _ server.threads ++ [storagePath uploadsDestination now part.originalname] ++
        Table.collect Job.heldPath server.world.jobs).Nodup
      rw [List.append_assoc, List.singleton_append, List.nodup_middle, List.nodup_cons]
      exact ⟨notHeld, owned.distinct⟩
    | respond response =>
      show (Table.collect _ server.threads ++ [] ++ Table.collect Job.heldPath server.world.jobs).Nodup
      rw [List.append_nil]
      exact owned.distinct
    | unhandled =>
      show (Table.collect _ server.threads ++ [] ++ Table.collect Job.heldPath server.world.jobs).Nodup
      rw [List.append_nil]
      exact owned.distinct
  · intro entry member data progress
    rcases Table.mem_insert.mp member with old | rfl
    · obtain ⟨bytes, uploaded, present⟩ := owned.queued entry old data progress
      exact ⟨bytes, uploaded.mono sub, by
        rw [frame _ (queued_mem_uploadPaths old progress)]; exact present⟩
    · obtain ⟨part, rfl, field, passes, same, written⟩ := enter_upload_await progress
      cases same
      refine ⟨part.content, ⟨part, now, rfl, by simp [uploadDraw, field, passes], rfl, rfl⟩, ?_⟩
      rw [written]
      exact Disk.write_self _ _ _
  · intro entry member
    have old : entry ∈ server.world.jobs := by simpa using member
    obtain ⟨thread, inThreads, bytes, uploaded, kept⟩ := owned.jobs entry old
    refine ⟨thread, Table.mem_insert.mpr (.inl inThreads), bytes, uploaded.mono sub,
      kept.of_agree sub ?_⟩
    intro path holds
    exact frame path (job_mem_uploadPaths old holds)

/-- The request a resume answers held a path, which it either gives up or passes to its job:
what the paths held after the resume are, given what the jobs hold. -/
theorem uploadPaths_answer (owned : UploadsOwned past server) {id : Nat} {request : Request}
    {data : JobData}
    (found : Table.get server.threads id = some (id, ⟨request, .await (.upload (.queueAdding data))⟩))
    (response : Response) :
    (Table.collect (fun thread : Thread => queuedPath thread.progress)
        (Table.set server.threads id ⟨request, .respond response⟩) ++ [data.path]).Perm
      (Table.collect (fun thread : Thread => queuedPath thread.progress) server.threads) := by
  have traded : (Table.collect (fun thread : Thread => queuedPath thread.progress)
        (Table.set server.threads id ⟨request, .respond response⟩) ++ [data.path]).Perm
      (Table.collect (fun thread : Thread => queuedPath thread.progress) server.threads ++ []) :=
    Table.collect_set_perm (fun thread : Thread => queuedPath thread.progress)
      ⟨request, .respond response⟩ owned.keyed.distinct found
  rwa [List.append_nil] at traded

/-- **A resume keeps the invariant.** The upload waiting for the queue answers: a rejection lets
its file go, and an added job takes it over. -/
theorem uploadsOwned_resume (owned : UploadsOwned past server) {P : Platform} {id : Nat}
    {env : Env} {request : Request} {wait : Wait}
    (found : Table.get server.threads id = some (id, ⟨request, .await wait⟩)) :
    UploadsOwned past { server with
      world := (resumeWait P server.world env wait).1
      threads := Table.set server.threads id ⟨request, (resumeWait P server.world env wait).2⟩ } := by
  have member := (Table.get_eq_some found).1
  obtain ⟨data, rfl⟩ := owned.waits _ member wait rfl
  obtain ⟨bytes, uploaded, present⟩ := owned.queued _ member data rfl
  have keyed : ∀ (world : World) (progress : Outcome Wait),
      ThreadsKeyed ⟨world, Table.set server.threads id ⟨request, progress⟩, server.nextRequestId⟩ :=
    fun _ _ => ⟨by simpa using owned.keyed.distinct, by simpa using owned.keyed.below⟩
  -- the requests still waiting are those from before, on the disk as it was
  have waits : ∀ response : Response, ∀ entry ∈ Table.set server.threads id ⟨request, .respond response⟩,
      ∀ wait', entry.2.progress = .await wait' → ∃ data', wait' = .upload (.queueAdding data') := by
    intro response entry inSet wait' progress
    rcases Table.mem_set inSet with ⟨old, _⟩ | rfl
    · exact owned.waits entry old wait' progress
    · cases progress
  have queued : ∀ response : Response, ∀ entry ∈ Table.set server.threads id ⟨request, .respond response⟩,
      ∀ data', entry.2.progress = .await (.upload (.queueAdding data')) →
      ∃ bytes', UploadedAs past entry.2.request data' bytes' ∧ server.world.disk data'.path = some bytes' := by
    intro response entry inSet data' progress
    rcases Table.mem_set inSet with ⟨old, _⟩ | rfl
    · exact owned.queued entry old data' progress
    · cases progress
  rw [resumeWait_upload]
  rcases uploadResume_cases server.world env (.queueAdding data) with
    ⟨response, same⟩ | ⟨_, sameWait, _, same⟩
  · -- a rejection answers 500, and the stored file stays with no owner
    rw [same]
    show UploadsOwned past
      ⟨server.world, Table.set server.threads id ⟨request, .respond response⟩, server.nextRequestId⟩
    refine ⟨keyed _ _, owned.jobsDistinct, owned.jobsBelow, waits response, ?_, queued response, ?_⟩
    · have traded := uploadPaths_answer owned found response
      have grown := (traded.append_right (Table.collect Job.heldPath server.world.jobs)).nodup_iff.mpr
        owned.distinct
      exact grown.sublist ((List.sublist_append_left _ _).append_right _)
    · intro entry inJobs
      obtain ⟨thread, inThreads, bytes', uploaded', kept⟩ := owned.jobs entry inJobs
      obtain ⟨thread', inSet, sameRequest⟩ := request_mem_set owned.keyed.distinct found
        (.respond response) inThreads
      exact ⟨thread', inSet, bytes', sameRequest ▸ uploaded', kept⟩
  · -- the queue took the job: it holds the stored file now
    cases sameWait
    rw [same]
    show UploadsOwned past
      ⟨{ server.world with
          jobs := Table.insert server.world.jobs server.world.nextJobId ⟨data, .waiting 0⟩
          nextJobId := server.world.nextJobId + 1 },
        Table.set server.threads id
          ⟨request, .respond ⟨202, .queued server.world.nextJobId data.originalname⟩⟩,
        server.nextRequestId⟩
    have answered := uploadPaths_answer owned found ⟨202, .queued server.world.nextJobId data.originalname⟩
    refine ⟨keyed _ _, ?_, ?_, waits _, ?_, queued _, ?_⟩
    · show (Table.keys (Table.insert server.world.jobs server.world.nextJobId _)).Nodup
      rw [Table.keys_insert, List.nodup_append]
      refine ⟨owned.jobsDistinct, by simp, ?_⟩
      intro jobId old other inNew same
      rw [List.mem_singleton] at inNew
      subst inNew same
      exact Nat.lt_irrefl _ (owned.jobsBelow _ old)
    · intro jobId member
      rw [Table.keys_insert, List.mem_append, List.mem_singleton] at member
      rcases member with old | rfl
      · exact Nat.lt_succ_of_lt (owned.jobsBelow jobId old)
      · exact Nat.lt_succ_self _
    · show (_ ++ Table.collect Job.heldPath (Table.insert server.world.jobs server.world.nextJobId _)).Nodup
      rw [Table.collect_insert]
      -- the job's path is the one the answered request gave up
      have grown := (answered.append_right (Table.collect Job.heldPath server.world.jobs)).nodup_iff.mpr
        owned.distinct
      rw [List.append_assoc] at grown
      exact (List.perm_append_comm.append_left _).nodup_iff.mpr grown
    · intro entry inJobs
      have saved : entry ∈ Table.insert server.world.jobs server.world.nextJobId ⟨data, .waiting 0⟩ :=
        inJobs
      rcases Table.mem_insert.mp saved with old | rfl
      · obtain ⟨thread, inThreads, bytes', uploaded', kept⟩ := owned.jobs entry old
        obtain ⟨thread', inSet, sameRequest⟩ := request_mem_set owned.keyed.distinct found
          (.respond ⟨202, .queued server.world.nextJobId data.originalname⟩) inThreads
        exact ⟨thread', inSet, bytes', sameRequest ▸ uploaded', kept⟩
      · refine ⟨(id, ⟨request, _⟩), Table.mem_set_self _ (List.mem_map_of_mem member), bytes,
          uploaded, rfl, present⟩

/-- **An attempt keeps the invariant** when it moves the file to a new name. The job's stored
file is there, so the move succeeds: the job completes, holding its bytes at the new name, and no
other path held changes. -/
theorem uploadsOwned_attempt (owned : UploadsOwned past server) {jobId now : Nat} {world' : World}
    (attempted : attemptJob server.world jobId now = some world')
    (fresh : ∀ name ∈ (uploadDraw server (.attempt jobId now)).toList, name ∉ past) :
    UploadsOwned (past ++ (uploadDraw server (.attempt jobId now)).toList)
      { server with world := world' } := by
  obtain ⟨data, attemptsMade, found, outcome⟩ := attemptJob_eq_some _ _ attempted
  have member := (Table.get_eq_some found).1
  obtain ⟨thread, inThreads, bytes, uploaded, never, present⟩ := owned.jobs _ member
  have drawn : uploadDraw server (.attempt jobId now) = some (now, data.originalname) := by
    simp [uploadDraw, found]
  rw [drawn]
  have newName : (now, data.originalname) ∉ past := fresh _ (by simp [drawn])
  have sub : past ⊆ past ++ (some (now, data.originalname)).toList := List.subset_append_left _ _
  rcases outcome with ⟨disk', result, moved, rfl⟩ | ⟨error, failed, _⟩
  · obtain ⟨bytes', present', rfl, rfl⟩ := processFileUpload_eq_ok moved
    have sameBytes : bytes' = bytes := Option.some.inj (present'.symm.trans present)
    have destinationFree : storagePath uploadsDestination now data.originalname ∉ uploadPaths server :=
      fun held => owned.ne_of_not_mem held newName rfl
    -- every path held but the job's own is untouched by the move
    have frame : ∀ path ∈ uploadPaths server, path ≠ data.path →
        ((server.world.disk.unlinkSync data.path).write
          (storagePath uploadsDestination now data.originalname) bytes') path =
        server.world.disk path := by
      intro path held other
      have notDestination : path ≠ storagePath uploadsDestination now data.originalname :=
        fun same => destinationFree (same ▸ held)
      rw [Disk.write_other _ _ notDestination, Disk.unlinkSync_other _ other]
    have traded := Table.collect_set_perm Job.heldPath
      ⟨data, .completed ⟨data.originalname, storagePath uploadsDestination now data.originalname,
        data.userId⟩⟩ owned.jobsDistinct found
    refine ⟨⟨owned.keyed.distinct, owned.keyed.below⟩, by simpa using owned.jobsDistinct,
      by simpa using owned.jobsBelow, owned.waits, ?_, ?_, ?_⟩
    · -- the job trades its stored file for the new name, which nothing held
      have grown : (uploadPaths server ++
          [storagePath uploadsDestination now data.originalname]).Nodup :=
        List.perm_append_comm.nodup_iff.mpr (List.nodup_cons.mpr ⟨destinationFree, owned.distinct⟩)
      unfold uploadPaths at grown
      rw [List.append_assoc] at grown
      have swapped := (traded.append_left
        (Table.collect (fun thread : Thread => queuedPath thread.progress) server.threads)).nodup_iff.mpr
          grown
      rw [← List.append_assoc] at swapped
      exact swapped.sublist (List.sublist_append_left _ _)
    · -- an upload waiting for the queue holds a path no job holds
      intro entry inThreads data' progress
      have inThreads' : entry ∈ server.threads := inThreads
      obtain ⟨bytes'', uploaded', present''⟩ := owned.queued entry inThreads' data' progress
      have apart : data'.path ≠ data.path := by
        intro same
        have jobHolds : data.path ∈ Table.collect Job.heldPath server.world.jobs :=
          Table.mem_collect.mpr ⟨_, member, rfl⟩
        exact List.disjoint_of_nodup_append owned.distinct
          (Table.mem_collect.mpr ⟨entry, inThreads', by rw [progress]; rfl⟩) (same ▸ jobHolds)
      exact ⟨bytes'', uploaded'.mono sub,
        (frame _ (queued_mem_uploadPaths inThreads' progress) apart).trans present''⟩
    · intro entry inJobs
      rcases Table.mem_set inJobs with ⟨old, other⟩ | rfl
      · -- another job holds a path other than the moved job's
        obtain ⟨thread', inThreads', bytes'', uploaded', kept⟩ := owned.jobs entry old
        refine ⟨thread', inThreads', bytes'', uploaded'.mono sub, kept.of_agree sub ?_⟩
        intro path holds
        have apart : path ≠ data.path := by
          intro same
          have sameJob := Table.eq_of_mem_collect (List.nodup_append.mp owned.distinct).2.1 old member
            (same ▸ holds : Job.heldPath entry.2 = some data.path) rfl
          exact other (congrArg Prod.fst sameJob)
        exact frame path (job_mem_uploadPaths old holds) apart
      · -- the moved job completes, with its bytes at the new name
        refine ⟨thread, inThreads, bytes, uploaded.mono sub, ⟨now, by simp, rfl⟩, ?_⟩
        show ((server.world.disk.unlinkSync data.path).write
          (storagePath uploadsDestination now data.originalname) bytes')
            (storagePath uploadsDestination now data.originalname) = some bytes
        rw [Disk.write_self, sameBytes]
  · exact absurd (processFileUpload_eq_error failed) (by rw [present]; exact Option.some_ne_none _)

/-- **Every step of the pipeline keeps the invariant** when the name it writes under is new. -/
theorem uploadsOwned_step {P : Platform} {server' : Server} {label : Label}
    (owned : UploadsOwned past server) (allowed : UploadStep label)
    (stepped : step P server label = some server')
    (fresh : ∀ name ∈ (uploadDraw server label).toList, name ∉ past) :
    UploadsOwned (past ++ (uploadDraw server label).toList) server' := by
  cases label with
  | arrive request now =>
    cases request with
    | upload file =>
      rw [step_arrive, afterEnter_enter_of_ne (fun _ _ _ => by simp)] at stepped
      cases stepped
      exact uploadsOwned_arrive owned fresh
    | _ => exact allowed.elim
  | resume id env =>
    obtain ⟨request, wait, found, rfl⟩ := step_resume_eq_some stepped
    -- a resume draws no name
    show UploadsOwned (past ++ []) _
    rw [List.append_nil]
    exact uploadsOwned_resume owned found
  | attempt jobId now =>
    obtain ⟨world, attempted, rfl⟩ := step_attempt_eq_some stepped
    exact uploadsOwned_attempt owned attempted fresh

end Owned

theorem uploadsOwned_run {P : Platform} {disk : Disk} {labels : List Label} {final : Server}
    (allowed : ∀ label ∈ labels, UploadStep label)
    (ran : Transition.run (step P) (initial disk) labels = some final)
    (distinct : (Transition.drawsAlong (step P) uploadDraw (initial disk) labels).Nodup) :
    UploadsOwned (Transition.drawsAlong (step P) uploadDraw (initial disk) labels) final := by
  have kept := Transition.run_invariant_fresh (step P) uploadDraw UploadStep UploadsOwned
    (fun _ _ _ _ allowed owned stepped fresh => uploadsOwned_step owned allowed stepped fresh)
    labels [] (initial disk) final allowed (uploadsOwned_initial disk) ran
    (by rwa [List.nil_append])
  rwa [List.nil_append] at kept

/-- **Each job owns the bytes uploaded with it.** In a run of the upload pipeline from the initial
server in which the names written under in `uploads/` are pairwise distinct, the paths held by
the uploads waiting for the queue and by the jobs are pairwise distinct, and every job carries the
data of an upload that arrived: while it waits, with no failed attempt, its stored file holds the
part's bytes; once completed, its `result.path` does. -/
theorem uploads_owned {P : Platform} {disk : Disk} {labels : List Label} {final : Server}
    (uploadSteps : ∀ label ∈ labels, UploadStep label)
    (ran : Transition.run (step P) (initial disk) labels = some final)
    (distinctNames : (Transition.drawsAlong (step P) uploadDraw (initial disk) labels).Nodup) :
    (uploadPaths final).Nodup ∧
    ∀ entry ∈ final.world.jobs, ∃ thread ∈ final.threads, ∃ part now,
      thread.2.request = .upload (some part) ∧ entry.2.data = uploadJobData now part ∧
      ((entry.2.state = .waiting 0 ∧ final.world.disk entry.2.data.path = some part.content) ∨
        ∃ result, entry.2.state = .completed result ∧ final.world.disk result.path = some part.content) := by
  have owned := uploadsOwned_run uploadSteps ran distinctNames
  refine ⟨owned.distinct, ?_⟩
  rintro ⟨jobId, data, state⟩ member
  obtain ⟨thread, inThreads, bytes, ⟨part, now, request, _, rfl, rfl⟩, kept⟩ := owned.jobs _ member
  refine ⟨thread, inThreads, part, now, request, rfl, ?_⟩
  cases state with
  | waiting attemptsMade =>
    obtain ⟨rfl, present⟩ := kept
    exact .inl ⟨rfl, present⟩
  | completed result => exact .inr ⟨result, rfl, kept.2⟩
  | failed error => exact kept.elim

theorem isBasename_a_txt : IsBasename "a.txt" := by decide

/-- The part `a.txt` with the given bytes, in the field `file`. -/
def uploadPart (content : List UInt8) : UploadPart :=
  ⟨"file", "a.txt", "text/plain", content, isBasename_a_txt⟩

/-- Two uploads of `a.txt`, added to the queue one after the other, then an attempt at each. -/
def uploadTwice (first second : Nat) : List Label :=
  sequentialLabels 0
    [(.upload (some (uploadPart [1])), 3, [⟨.resolve, 3, ""⟩]),
      (.upload (some (uploadPart [2])), 5, [⟨.resolve, 5, ""⟩])] ++
    [.attempt 1 first, .attempt 2 second]

theorem uploads_owned_standIn :
    (∀ label ∈ uploadTwice 4 6, UploadStep label) ∧
    (Transition.drawsAlong (step standIn) uploadDraw (initial fun _ => none) (uploadTwice 4 6)).Nodup ∧
    ∃ final, Transition.run (step standIn) (initial fun _ => none) (uploadTwice 4 6) = some final ∧
      (uploadPaths final).Nodup := by
  obtain ⟨final, ran⟩ := Option.isSome_iff_exists.mp (by decide :
    (Transition.run (step standIn) (initial fun _ => none) (uploadTwice 4 6)).isSome)
  exact ⟨by decide, by decide, final, ran, (uploads_owned (by decide) ran (by decide)).1⟩

/-- **A move can land on a pending upload.** The first job's attempt, at the millisecond the
second part was stored in, moves the first part over it; the second job then completes holding
the first part's bytes, and the first job's `result.path` is empty. -/
theorem uploads_owned_fails :
    (Transition.run (step standIn) (initial fun _ => none) (uploadTwice 5 6)).map
        (fun server : Server =>
          (Table.collect Job.heldPath server.world.jobs).map server.world.disk) =
      some [none, some [1]] := by
  decide

end FileManager
