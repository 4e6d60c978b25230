import FileManager.Proof.FileNames

/-!
**`authenticateToken` guards the File collection.**

The five file routes put `authenticateToken` in front of their handlers; the user routes and the
upload route have none, and neither the user handlers, nor the upload route, nor the queue's
processor reads or writes a File document. Over every run of the whole server, with requests of
every route interleaved with the attempts of the queue:

* `files_sent_authenticated` — every response that carries File documents (`{ message, file }` or
  `{ message, files }`) was sent to a request whose `Authorization` header held a token that
  `jwt.verify` accepted;
* `files_need_token` — from any state in which no request is inside a file handler, requests whose
  tokens `authenticateToken` refuses leave the File collection as it was, however they interleave
  with requests of the routes that need no token and with the queue.

Both rest on `TokensChecked`: a request is inside a file handler, or has been sent File documents,
only if its token verified (`enter_behindToken`), and a segment of a user handler or of the upload
route never enters a file handler nor sends a File document (`resumeWait_behindToken`).
-/

namespace FileManager

/-! ### What the token guards -/

/-- The `Authorization` header `authenticateToken` reads in front of a file handler. The user routes
and the upload route have no `authenticateToken` in front of them. -/
def Request.header : Request → Option (Option String)
  | .createFile authorization .. => some authorization
  | .readFile authorization => some authorization
  | .readFileById authorization _ => some authorization
  | .updateFile authorization .. => some authorization
  | .deleteFile authorization _ => some authorization
  | .register .. | .login .. | .upload _ => none

/-- The id `authenticateToken` set as `req.user` before the request's handler, if it called
`next()`. -/
def Request.tokenUser (P : Platform) (request : Request) : Option ObjectId :=
  request.header.bind fun authorization => (authenticateToken P authorization).toOption

/-- Whether a response body carries File documents. -/
def Payload.showsFiles : Payload → Bool
  | .file .. | .files .. => true
  | _ => false

/-- Whether a request has been sent File documents. -/
def filesShown {α : Type} : Outcome α → Bool
  | .respond response => response.payload.showsFiles
  | _ => false

/-- Whether a request waits inside a file handler. -/
def inFileHandler : Outcome Wait → Bool
  | .await (.file _) => true
  | _ => false

/-- Whether a request at this point must have passed `authenticateToken`. -/
def behindToken (outcome : Outcome Wait) : Bool := inFileHandler outcome || filesShown outcome

@[simp] theorem behindToken_map_user (outcome : Outcome UserWait) :
    behindToken (outcome.map Wait.user) = filesShown outcome := by
  cases outcome <;> rfl

@[simp] theorem behindToken_map_upload (outcome : Outcome UploadWait) :
    behindToken (outcome.map Wait.upload) = filesShown outcome := by
  cases outcome <;> rfl

/-- The label brings no request that `authenticateToken` lets through: it is the arrival of a
request without a verified token, a resume, or an attempt of the queue. -/
def Label.unauthenticated (P : Platform) : Label → Bool
  | .arrive request _ => (request.tokenUser P).isNone
  | _ => true

/-! ### One segment -/

section Segments

variable {P : Platform}

/-- An error body carries no File document. -/
theorem Payload.showsFiles_of_isError {payload : Payload} (failed : payload.isError = true) :
    payload.showsFiles = false := by
  cases payload <;> first | rfl | cases failed

/-- **No first segment sends a File document**: it answers only with an error. -/
theorem enter_hides_files (world : World) (now : Nat) (request : Request) :
    filesShown (enter P world now request).2 = false := by
  cases entered : (enter P world now request).2 with
  | respond response => exact Payload.showsFiles_of_isError (enter_respond_error entered)
  | await wait => rfl
  | unhandled => rfl

@[simp] theorem inFileHandler_map_user (outcome : Outcome UserWait) :
    inFileHandler (outcome.map Wait.user) = false := by
  cases outcome <;> rfl

@[simp] theorem inFileHandler_map_upload (outcome : Outcome UploadWait) :
    inFileHandler (outcome.map Wait.upload) = false := by
  cases outcome <;> rfl

/-- A request inside a file handler behind `authorized` has passed the token. -/
theorem authorized_inFileHandler {authorization : Option String} {handler : Outcome FileWait}
    (inside : inFileHandler (authorized P authorization handler) = true) :
    ((authenticateToken P authorization).toOption).isSome = true := by
  cases authed : authenticateToken P authorization with
  | error response =>
    simp only [authorized, authed] at inside
    cases inside
  | ok user => rfl

theorem userResume_hides_files (world : World) (env : Env) (wait : UserWait) :
    filesShown (userResume P world env wait).2 = false := by
  fun_cases userResume P world env wait <;> rfl

theorem uploadResume_hides_files (world : World) (env : Env) (wait : UploadWait) :
    filesShown (uploadResume world env wait).2 = false := by
  fun_cases uploadResume world env wait <;> rfl

/-- **A first segment enters a file handler, or sends File documents, only past the token.** -/
theorem enter_behindToken (world : World) (now : Nat) (request : Request)
    (behind : behindToken (enter P world now request).2 = true) :
    (request.tokenUser P).isSome = true := by
  -- no first segment sends a File document, so the request waits inside a file handler
  have inside : inFileHandler (enter P world now request).2 = true := by
    rw [behindToken, enter_hides_files, Bool.or_false] at behind
    exact behind
  cases request with
  | createFile authorization body file =>
    cases authed : authenticateToken P authorization with
    | error response =>
      simp only [enter, authed] at inside
      cases inside
    | ok user => simp [Request.tokenUser, Request.header, authed, Except.toOption]
  | readFile authorization => exact authorized_inFileHandler inside
  | readFileById authorization id => exact authorized_inFileHandler inside
  | updateFile authorization id body => exact authorized_inFileHandler inside
  | deleteFile authorization id => exact authorized_inFileHandler inside
  | register username email password =>
    -- the user routes and the upload route wait only in their own handlers
    simp only [enter, inFileHandler_map_user] at inside
    cases inside
  | login email password => cases inside
  | upload file =>
    cases multered : multerSingle "file" uploadsDestination fileFilter (some uploadSizeLimit) now
        world.disk file with
    | mk disk outcome =>
      cases outcome with
      | error error =>
        simp only [enter, multered] at inside
        cases inside
      | next stored =>
        simp only [enter, multered, inFileHandler_map_upload] at inside
        cases inside

/-- **A later segment enters a file handler, or sends File documents, only from a file handler.**
-/
theorem resumeWait_behindToken (world : World) (env : Env) (wait : Wait)
    (behind : behindToken (resumeWait P world env wait).2 = true) :
    inFileHandler (.await wait) = true := by
  cases wait with
  | file wait => rfl
  | user wait =>
    rw [resumeWait_user, behindToken_map_user, userResume_hides_files] at behind
    cases behind
  | upload wait =>
    rw [resumeWait_upload, behindToken_map_upload, uploadResume_hides_files] at behind
    cases behind

/-- A request waits inside a file handler only when its wait is one of a file handler. -/
theorem inFileHandler_await {wait : Wait} (outside : inFileHandler (.await wait) = false) :
    (∃ inner, wait = .user inner) ∨ ∃ inner, wait = .upload inner := by
  cases wait with
  | file inner => cases outside
  | user inner => exact .inl ⟨inner, rfl⟩
  | upload inner => exact .inr ⟨inner, rfl⟩

end Segments

/-! ### Over every run -/

/-- **Only a verified token lets a request into a file handler, or gets it File documents.** -/
def TokensChecked (P : Platform) (server : Server) : Prop :=
  ∀ entry ∈ server.threads, behindToken entry.2.progress = true →
    (entry.2.request.tokenUser P).isSome = true

section Runs

variable {P : Platform}

theorem tokensChecked_step {server server' : Server} {label : Label}
    (kept : TokensChecked P server) (stepped : step P server label = some server') :
    TokensChecked P server' := by
  cases label with
  | arrive request now =>
    rw [step_arrive] at stepped
    cases stepped
    intro entry member behind
    rcases Table.mem_insert.mp member with old | rfl
    · -- a request dropped at a restart is not behind the token
      exact forall_afterEnter kept (fun _ _ dropped => by cases dropped) entry old behind
    · exact enter_behindToken server.world now request behind
  | resume id env =>
    obtain ⟨request, wait, found, rfl⟩ := step_resume_eq_some stepped
    intro entry member behind
    rcases Table.mem_set member with ⟨old, _⟩ | rfl
    · exact kept entry old behind
    · -- the resumed request was already inside a file handler, past the token
      have inside : behindToken (.await wait) = true := by
        simp [behindToken, resumeWait_behindToken server.world env wait behind]
      exact kept (id, ⟨request, .await wait⟩) (Table.get_eq_some found).1 inside
  | attempt jobId now =>
    obtain ⟨world, _, rfl⟩ := step_attempt_eq_some stepped
    exact kept

theorem tokensChecked_reachable {disk : Disk} {server : Server}
    (reachable : Transition.Reachable (step P) (initial disk) server) : TokensChecked P server :=
  Transition.reachable_invariant (TokensChecked P) (fun _ member => by simp [initial] at member)
    (fun _ _ _ kept stepped => tokensChecked_step kept stepped) reachable

/-- **File documents are sent only past a verified token.** In every reachable state, for every
interleaving of requests of every route with the attempts of the queue, a response that carries
File documents was sent to a request of a file route whose `Authorization` header held a token
that `jwt.verify` accepted. -/
theorem files_sent_authenticated {disk : Disk} {server : Server}
    (reachable : Transition.Reachable (step P) (initial disk) server) {id : Nat}
    {response : Response} (sent : server.response id = some response)
    (shown : response.payload.showsFiles = true) :
    ∃ request user, Table.get server.threads id = some (id, ⟨request, .respond response⟩) ∧
      request.tokenUser P = some user := by
  obtain ⟨request, found⟩ := Server.get_of_response sent
  -- an entry that has sent File documents is behind the token
  have verified := tokensChecked_reachable reachable _ (Table.get_eq_some found).1
    (by simp [behindToken, filesShown, shown])
  obtain ⟨user, same⟩ := Option.isSome_iff_exists.mp verified
  exact ⟨request, user, found, same⟩

/-- User 0 creates `a.txt` and lists the files. -/
def createThenList : List Label :=
  sequentialLabels 0
    [(createNamed "a.txt", 1, [⟨.resolve, 1, ""⟩, ⟨.resolve, 1, ""⟩]),
      (.readFile (bearer 0), 2, [⟨.resolve, 2, ""⟩])]

theorem files_sent_authenticated_standIn :
    ∃ server response, Transition.Reachable (step standIn) (initial fun _ => none) server ∧
      server.response 1 = some response ∧ response.payload.showsFiles = true ∧
      ∃ request user, Table.get server.threads 1 = some (1, ⟨request, .respond response⟩) ∧
        request.tokenUser standIn = some user := by
  obtain ⟨server, ran⟩ := Option.isSome_iff_exists.mp (by decide :
    (Transition.run (step standIn) (initial fun _ => none) createThenList).isSome)
  have listed : (server.response 1).map (fun response => response.payload.showsFiles) =
      some true := by
    have computed : (Transition.run (step standIn) (initial fun _ => none) createThenList).map
        (fun server : Server => (server.response 1).map fun response => response.payload.showsFiles) =
        some (some true) := by
      decide
    rw [ran] at computed
    exact Option.some.inj computed
  obtain ⟨response, sent, shown⟩ := Option.map_eq_some_iff.mp listed
  exact ⟨server, response, ⟨createThenList, ran⟩, sent, shown,
    files_sent_authenticated ⟨createThenList, ran⟩ sent shown⟩

/-- No request waits inside a file handler, and the File collection is as it was. -/
def FilesUntouched (files : List (ObjectId × FileDoc)) (server : Server) : Prop :=
  (∀ entry ∈ server.threads, inFileHandler entry.2.progress = false) ∧ server.world.files = files

/-- Without a request past the token, a step keeps every request outside the file handlers and
the File collection as it was. -/
theorem filesUntouched_step {files : List (ObjectId × FileDoc)} {server server' : Server}
    {label : Label} (refused : label.unauthenticated P = true)
    (untouched : FilesUntouched files server) (stepped : step P server label = some server') :
    FilesUntouched files server' := by
  obtain ⟨outside, same⟩ := untouched
  cases label with
  | arrive request now =>
    rw [step_arrive] at stepped
    cases stepped
    refine ⟨fun entry member => ?_, by rw [enter_files, same]⟩
    rcases Table.mem_insert.mp member with old | rfl
    · exact forall_afterEnter outside (fun _ _ => rfl) entry old
    · -- a request entering a file handler would have passed the token
      cases inside : inFileHandler (enter P server.world now request).2 with
      | false => rfl
      | true =>
        have verified := enter_behindToken (P := P) server.world now request
          (by simp [behindToken, inside])
        simp only [Label.unauthenticated, Option.isNone_iff_eq_none] at refused
        rw [refused] at verified
        cases verified
  | resume id env =>
    obtain ⟨request, wait, found, rfl⟩ := step_resume_eq_some stepped
    have waiting := outside _ (Table.get_eq_some found).1
    refine ⟨fun entry member => ?_, ?_⟩
    · rcases Table.mem_set member with ⟨old, _⟩ | rfl
      · exact outside entry old
      · cases inside : inFileHandler (resumeWait P server.world env wait).2 with
        | false => rfl
        | true =>
          have fromFile := resumeWait_behindToken (P := P) server.world env wait
            (by simp [behindToken, inside])
          rw [fromFile] at waiting
          cases waiting
    · -- the resumed request is in a user handler or in the upload route
      rcases inFileHandler_await waiting with ⟨inner, rfl⟩ | ⟨inner, rfl⟩
      · simp [same]
      · simp [same]
  | attempt jobId now =>
    obtain ⟨world, attempted, rfl⟩ := step_attempt_eq_some stepped
    obtain ⟨disk, jobs, rfl⟩ := attemptJob_world server.world now attempted
    exact ⟨outside, same⟩

/-- **Without a verified token, the File collection does not change.** From any state in which no
request is inside a file handler, a run whose arriving requests all lack a token that
`authenticateToken` accepts leaves the File collection as it was: however they interleave with
requests of the routes that need no token (register, login, upload) and with the attempts of the
queue. -/
theorem files_need_token {server final : Server} {labels : List Label}
    (idle : ∀ entry ∈ server.threads, inFileHandler entry.2.progress = false)
    (refused : ∀ label ∈ labels, label.unauthenticated P = true)
    (ran : Transition.run (step P) server labels = some final) :
    final.world.files = server.world.files :=
  (Transition.run_invariant (fun label => label.unauthenticated P = true)
    (FilesUntouched server.world.files)
    (fun _ _ _ allowed untouched stepped => filesUntouched_step allowed untouched stepped)
    labels server final refused ⟨idle, rfl⟩ ran).2

end Runs

theorem isBasename_b_txt : IsBasename "b.txt" := by decide

/-- After user 0 has created `a.txt`: a delete with a forged token, an update with no header, and
an upload of `b.txt` with its queue attempt. -/
def forgedTraffic : List Label :=
  [.arrive (.deleteFile (some "Bearer forged") "0") 3,
    .arrive (.updateFile none "0" [("fileName", .string "b.txt"), ("filePath", .string "-")]) 4,
    .arrive (.upload (some ⟨"file", "b.txt", "text/plain", [2], isBasename_b_txt⟩)) 5, .resume 3 ⟨.resolve, 5, ""⟩, .attempt 1 6]

theorem files_need_token_standIn :
    ∃ server final, Transition.run (step standIn) (initial fun _ => none)
        (sequentialLabels 0 [(createNamed "a.txt", 1, [⟨.resolve, 1, ""⟩, ⟨.resolve, 1, ""⟩])]) =
        some server ∧
      (∀ entry ∈ server.threads, inFileHandler entry.2.progress = false) ∧
      (∀ label ∈ forgedTraffic, label.unauthenticated standIn = true) ∧
      Transition.run (step standIn) server forgedTraffic = some final ∧
      server.world.files ≠ [] ∧ final.world.files = server.world.files := by
  obtain ⟨server, created⟩ := Option.isSome_iff_exists.mp (by decide :
    (Transition.run (step standIn) (initial fun _ => none)
      (sequentialLabels 0 [(createNamed "a.txt", 1, [⟨.resolve, 1, ""⟩, ⟨.resolve, 1, ""⟩])])).isSome)
  have checked : (Transition.run (step standIn) (initial fun _ => none)
      (sequentialLabels 0 [(createNamed "a.txt", 1, [⟨.resolve, 1, ""⟩, ⟨.resolve, 1, ""⟩])])).map
      (fun server : Server => (server.threads.all fun entry => !inFileHandler entry.2.progress,
        server.world.files.isEmpty, (Transition.run (step standIn) server forgedTraffic).isSome)) =
      some (true, false, true) := by
    decide
  rw [created] at checked
  simp only [Option.map_some, Option.some.injEq, Prod.mk.injEq, List.all_eq_true,
    Bool.not_eq_eq_eq_not, Bool.not_true, List.isEmpty_eq_false_iff] at checked
  obtain ⟨idle, stored, moves⟩ := checked
  obtain ⟨final, ran⟩ := Option.isSome_iff_exists.mp moves
  have refused : ∀ label ∈ forgedTraffic, label.unauthenticated standIn = true := by decide
  exact ⟨server, final, created, idle, refused, ran, stored,
    files_need_token idle refused ran⟩

end FileManager
