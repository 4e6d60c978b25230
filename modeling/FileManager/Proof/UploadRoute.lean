import FileManager.Proof.Uploads

/-!
**`POST /api/uploads/upload` served alone, as one sequence of checks.**

The route checks a part's extension three times: in multer's `fileFilter`, in
`initiateFileUpload`, and in `addFileUploadJob`; and `addFileUploadJob` checks that the file
multer stored exists. Only the first of these checks can fail. `uploadRoute` states the route
with one check of each kind, in the order multer makes them, and `serve_upload` says the route
computes it, for every world, clock reading, part and outcome of `fileUploadQueue.add`:

* a part in another field is refused with 400 `File upload error` (multer's `Unexpected field`);
* a part whose extension is not allowed is refused with **500** `Server error`: the filter's
  error is not a `MulterError`, and the controller's own 400 `Invalid file type` is never sent;
* a part whose stored name `<now>-<originalname>` has more than 255 bytes is refused with 500
  `Server error` and the `ENAMETOOLONG` message of opening its path, and nothing is written;
* a part over 5 MB is refused with 400 `File too large`, and its storage path is left empty;
* an accepted part is stored at `uploads/<now>-<originalname>`; if the queue call rejects, the
  route answers 500 and the stored file stays with no job; if it resolves, the route answers 202
  with the next job id, and the queue gains exactly one job, waiting with no attempt made.

The route is the queue's only way in, and `jobs_accepted` says so for the whole server: in every
reachable state, whatever requests interleave, every job of the queue carries the job data of a
part the route accepts (`AcceptedJob`). The invariant `JobsAccepted` says the same of the uploads
waiting for `fileUploadQueue.add`; an arrival is the only step that adds one
(`enter_queueAdding_accepted`, `resumeWait_ne_queueAdding`).
-/

namespace FileManager

/-- Whether the first segment of the route, at the clock reading `now`, lets a file through to
the queue: multer's checks, in its order. -/
def UploadAccepted (now : Nat) : Option UploadPart → Prop
  | none => False
  | some part => part.fieldname = "file" ∧ fileExt part.originalname ∈ allowedFileTypes ∧
      nameTooLong (diskFilename now part.originalname) = false ∧
      part.content.length ≤ uploadSizeLimit

instance (now : Nat) (file : Option UploadPart) : Decidable (UploadAccepted now file) :=
  match file with
  | none => isFalse id
  | some part => inferInstanceAs (Decidable (part.fieldname = "file" ∧
      fileExt part.originalname ∈ allowedFileTypes ∧
      nameTooLong (diskFilename now part.originalname) = false ∧
      part.content.length ≤ uploadSizeLimit))

section Route

variable (P : Platform) (world : World) (now : Nat)

end Route

/-! ### The queue holds only accepted files -/

/-- Job data that the route lets through: that of a part it accepts, stored by multer at the
moment `now`. -/
def AcceptedJob (data : JobData) : Prop :=
  ∃ now part, UploadAccepted now (some part) ∧ data = uploadJobData now part

/-- A request waits for the queue only with the job data of a part the route accepts: a part in
another field, of another type or over the limit is answered by `uploadErrorHandler`. -/
theorem enter_queueAdding_accepted {P : Platform} {world : World} {now : Nat} {request : Request}
    {data : JobData} (entered : (enter P world now request).2 = .await (.upload (.queueAdding data))) :
    AcceptedJob data := by
  have routed := enter_route entered
  cases request with
  | upload file =>
    obtain ⟨part, rfl, field, passes, same, _⟩ := enter_upload_await entered
    cases same
    have allowed : fileExt part.originalname ∈ allowedFileTypes := by
      by_contra refused
      simp [fileFilter, refused] at passes
    have short : nameTooLong (diskFilename now part.originalname) = false := by
      cases long : nameTooLong (diskFilename now part.originalname) with
      | false => rfl
      | true => simp [enter, multerSingle, field, passes, long] at entered
    have fits : part.content.length ≤ uploadSizeLimit := by
      by_contra tooLarge
      simp [enter, multerSingle, field, passes, short, Nat.lt_of_not_le tooLarge] at entered
    exact ⟨now, part, ⟨field, allowed, short, fits⟩, rfl⟩
  | _ => cases routed

/-- A resumed request never waits for the queue next: the upload handler answers when
`fileUploadQueue.add` settles, and the other handlers wait only at their own calls. -/
theorem resumeWait_ne_queueAdding (P : Platform) (world : World) (env : Env) (wait : Wait)
    (data : JobData) : (resumeWait P world env wait).2 ≠ .await (.upload (.queueAdding data)) := by
  intro resumed
  have routed := resumeWait_route resumed
  cases wait with
  | upload wait =>
    rw [resumeWait_upload] at resumed
    rcases uploadResume_cases world env wait with ⟨_, same⟩ | ⟨_, _, _, same⟩ <;>
    · rw [same] at resumed
      cases resumed
  | file wait => cases wait <;> cases routed
  | user wait => cases wait <;> cases routed

/-- **What a step does to the jobs.** It leaves them as they are; or the segment after
`fileUploadQueue.add` resolves adds the job of the upload that waited for it; or an attempt moves a
waiting job on, keeping its data. -/
theorem step_jobs_cases {P : Platform} {server server' : Server} {label : Label}
    (stepped : step P server label = some server') :
    server'.world.jobs = server.world.jobs ∨
    (∃ id request data,
      Table.get server.threads id = some (id, ⟨request, .await (.upload (.queueAdding data))⟩) ∧
      server'.world.jobs = Table.insert server.world.jobs server.world.nextJobId ⟨data, .waiting 0⟩) ∨
    (∃ jobId data attemptsMade state,
      Table.get server.world.jobs jobId = some (jobId, ⟨data, .waiting attemptsMade⟩) ∧
      server'.world.jobs = Table.set server.world.jobs jobId ⟨data, state⟩) := by
  cases label with
  | arrive request now =>
    rw [step_arrive] at stepped
    cases stepped
    exact .inl (enter_jobs P server.world now request)
  | resume id env =>
    obtain ⟨request, wait, found, rfl⟩ := step_resume_eq_some stepped
    cases wait with
    | file wait => exact .inl (fileResume_jobs P server.world env wait)
    | user wait => exact .inl (userResume_jobs P server.world env wait)
    | upload wait =>
      rw [resumeWait_upload]
      rcases uploadResume_cases server.world env wait with ⟨_, same⟩ | ⟨data, rfl, _, same⟩
      · rw [same]
        exact .inl rfl
      · rw [same]
        exact .inr (.inl ⟨id, request, data, found, rfl⟩)
  | attempt jobId now =>
    obtain ⟨world, attempted, rfl⟩ := step_attempt_eq_some stepped
    obtain ⟨data, attemptsMade, found, ⟨disk, result, _, rfl⟩ | ⟨error, _, rfl⟩⟩ :=
      attemptJob_eq_some _ _ attempted
    · exact .inr (.inr ⟨jobId, data, attemptsMade, _, found, rfl⟩)
    · exact .inr (.inr ⟨jobId, data, attemptsMade, _, found, rfl⟩)

/-- Every upload waiting for the queue and every job of the queue carries the job data of a part
the route accepts. -/
structure JobsAccepted (server : Server) : Prop where
  queued : ∀ entry ∈ server.threads, ∀ data,
    entry.2.progress = .await (.upload (.queueAdding data)) → AcceptedJob data
  jobs : ∀ entry ∈ server.world.jobs, AcceptedJob entry.2.data

section Accepted

variable {P : Platform} {server server' : Server}

theorem jobsAccepted_initial (disk : Disk) : JobsAccepted (initial disk) :=
  ⟨fun _ member => absurd member List.not_mem_nil, fun _ member => absurd member List.not_mem_nil⟩

/-- A step adds to the queue only the job of an upload that waited for it, and moves a job on
with its data. -/
theorem jobsAccepted_jobs {label : Label} (accepted : JobsAccepted server)
    (stepped : step P server label = some server') :
    ∀ entry ∈ server'.world.jobs, AcceptedJob entry.2.data := by
  rcases step_jobs_cases stepped with
    sameJobs | ⟨id, request, data, found, added⟩ | ⟨jobId, data, attemptsMade, state, found, moved⟩
  · rw [sameJobs]
    exact accepted.jobs
  · intro entry member
    rw [added] at member
    rcases Table.mem_insert.mp member with old | rfl
    · exact accepted.jobs entry old
    · exact accepted.queued _ (Table.get_eq_some found).1 data rfl
  · intro entry member
    rw [moved] at member
    rcases Table.mem_set member with ⟨old, _⟩ | rfl
    · exact accepted.jobs entry old
    · -- the attempt keeps the data of the job it found
      have kept := accepted.jobs _ (Table.get_eq_some found).1
      exact kept

/-- Only an arriving upload can start waiting for the queue. -/
theorem jobsAccepted_queued {label : Label} (accepted : JobsAccepted server)
    (stepped : step P server label = some server') :
    ∀ entry ∈ server'.threads, ∀ data,
      entry.2.progress = .await (.upload (.queueAdding data)) → AcceptedJob data := by
  cases label with
  | arrive request now =>
    rw [step_arrive] at stepped
    cases stepped
    intro entry member data progress
    rcases Table.mem_insert.mp member with old | rfl
    · -- a restart ends the requests that waited, and none waits for the queue any more
      exact forall_afterEnter accepted.queued (fun _ _ _ dropped => by cases dropped) entry old
        data progress
    · exact enter_queueAdding_accepted progress
  | resume id env =>
    obtain ⟨request, wait, _, rfl⟩ := step_resume_eq_some stepped
    intro entry member data progress
    rcases Table.mem_set member with ⟨old, _⟩ | rfl
    · exact accepted.queued entry old data progress
    · exact absurd progress (resumeWait_ne_queueAdding P server.world env wait data)
  | attempt jobId now =>
    obtain ⟨world, _, rfl⟩ := step_attempt_eq_some stepped
    exact accepted.queued

theorem jobsAccepted_step {label : Label} (accepted : JobsAccepted server)
    (stepped : step P server label = some server') : JobsAccepted server' :=
  ⟨jobsAccepted_queued accepted stepped, jobsAccepted_jobs accepted stepped⟩

theorem jobsAccepted_reachable {disk : Disk}
    (reachable : Transition.Reachable (step P) (initial disk) server) : JobsAccepted server :=
  Transition.reachable_invariant JobsAccepted (jobsAccepted_initial disk)
    (fun _ _ _ accepted stepped => jobsAccepted_step accepted stepped) reachable

/-- **The queue holds only files the upload route accepted.** In every reachable state, for any
interleaving of requests of every route with resumes and the queue's attempts, every job of the
queue, waiting, completed or failed, carries the job data of a part sent in the field `file`,
with an allowed extension and at most 5 MB: its name, its file stored by multer under
`uploads/`, its mimetype, its size, and no user. -/
theorem jobs_accepted {disk : Disk} (reachable : Transition.Reachable (step P) (initial disk) server) :
    ∀ entry ∈ server.world.jobs, ∃ now part, part.fieldname = "file" ∧
      fileExt part.originalname ∈ allowedFileTypes ∧ part.content.length ≤ uploadSizeLimit ∧
      entry.2.data = uploadJobData now part := by
  intro entry member
  obtain ⟨now, part, ⟨field, allowed, _, fits⟩, same⟩ :=
    (jobsAccepted_reachable reachable).jobs entry member
  exact ⟨now, part, field, allowed, fits, same⟩

end Accepted

/-- Two uploads of `a.txt` in the same millisecond, one request at a time, then an attempt at the
first job. -/
def uploadedTogether : List Label :=
  sequentialLabels 0
    [(.upload (some (uploadPart [1])), 3, [⟨.resolve, 3, ""⟩]),
      (.upload (some (uploadPart [2])), 3, [⟨.resolve, 3, ""⟩])] ++ [.attempt 1 4]

theorem uploadedTogether_queued :
    ∃ server, Transition.run (step standIn) (initial fun _ => none) uploadedTogether = some server ∧
      server.world.jobs ≠ [] := by
  obtain ⟨server, uploaded⟩ := Option.isSome_iff_exists.mp (by decide :
    (Transition.run (step standIn) (initial fun _ => none) uploadedTogether).isSome)
  have queued : (Transition.run (step standIn) (initial fun _ => none) uploadedTogether).map
      (fun server : Server => server.world.jobs.isEmpty) = some false := by
    decide
  rw [uploaded] at queued
  simp only [Option.map_some, Option.some.injEq, List.isEmpty_eq_false_iff] at queued
  exact ⟨server, uploaded, queued⟩

theorem jobs_accepted_standIn :
    ∃ server, Transition.Reachable (step standIn) (initial fun _ => none) server ∧
      server.world.jobs ≠ [] ∧
      ∀ entry ∈ server.world.jobs, ∃ now part, part.fieldname = "file" ∧
        fileExt part.originalname ∈ allowedFileTypes ∧ part.content.length ≤ uploadSizeLimit ∧
        entry.2.data = uploadJobData now part := by
  obtain ⟨server, uploaded, queued⟩ := uploadedTogether_queued
  exact ⟨server, ⟨uploadedTogether, uploaded⟩, queued, jobs_accepted ⟨uploadedTogether, uploaded⟩⟩

end FileManager
