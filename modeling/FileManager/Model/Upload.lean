import FileManager.Model.Multer

/-!
**The upload pipeline: `routes/uploadRoutes.js`, `controllers/uploadController.js`,
`services/uploadService.js` and the processor of `config/queue.js`.**

An upload goes through two stages that both name files `${Date.now()}-${originalname}` in
`uploads/`:

1. the request: multer stores the part in `uploads/` (file filter on the extension, 5 MB limit,
   errors answered by `uploadErrorHandler`); `initiateFileUpload` checks the extension again and
   calls `addFileUploadJob`, which checks it a third time, checks that the stored file exists, and
   adds a job to `fileUploadQueue` (`await fileUploadQueue.add(...)`, with `attempts: 3`);
2. the queue: each attempt of the processor runs `processFileUpload`, which moves the stored file
   to `uploads/${Date.now()}-${originalname}` with `fs.renameSync`. The processor is synchronous, so
   an attempt is one step. A failed attempt is retried while attempts remain (`attemptJob`).

`uploads/` exists, so the `fs.mkdirSync('uploads')` branch of `processFileUpload` is not taken.
-/

namespace FileManager

/-- The extensions `fileFilter`, `initiateFileUpload` and `addFileUploadJob` each allow. -/
def allowedFileTypes : List String := [".pdf", ".doc", ".docx", ".txt", ".jpg", ".jpeg", ".png"]

/-- `path.extname(name).toLowerCase()`. -/
def fileExt (name : String) : String := Text.toLowerCase (Text.extname name)

/-- `limits.fileSize` of the upload route: 5 MB. -/
def uploadSizeLimit : Nat := 5 * 1024 * 1024

/-- `fileFilter` of `routes/uploadRoutes.js`: `none` accepts the part. -/
def fileFilter (part : UploadPart) : Option JsError :=
  if fileExt part.originalname ∈ allowedFileTypes then none else some ⟨"Error", "Invalid file type"⟩

/-- `uploadErrorHandler(error, req, res, next)`, reached when multer passes an error on. -/
def uploadErrorHandler (error : JsError) : Response :=
  if error.name = "MulterError" then ⟨400, .errorDetails "File upload error" error.message none⟩
  else ⟨500, .errorDetails "Server error" error.message none⟩

/-- `initiateFileUpload`'s `catch`. -/
def queueError (error : JsError) : Response :=
  ⟨500, .errorDetails "File upload queue error" error.message (some error.toString)⟩

/-- `addFileUploadJob(file, userId)` up to `await fileUploadQueue.add(...)`: the job's data, or
the error it throws. -/
def addFileUploadJob (disk : Disk) (file : StoredFile) (userId : Option ObjectId) :
    Except JsError JobData :=
  if fileExt file.originalname ∉ allowedFileTypes then .error ⟨"Error", "Invalid file type"⟩
  else if !disk.existsSync file.path then .error ⟨"Error", "File does not exist"⟩
  else .ok ⟨file.originalname, file.path, file.mimetype, file.size, userId⟩

/-- The `await` an upload request can wait at. -/
inductive UploadWait
  /-- `initiateFileUpload`, at `await fileUploadQueue.add(...)` in `addFileUploadJob` -/
  | queueAdding (data : JobData)
  deriving DecidableEq, Repr

/-- `initiateFileUpload`, given multer's `req.file`, up to `await fileUploadQueue.add(...)`. No
middleware of this route sets `req.user`, so the job's `userId` is `null`. -/
def initiateFileUploadEnter (disk : Disk) (file : Option StoredFile) : Outcome UploadWait :=
  match file with
  | none => .respond ⟨400, .error (.literal "No file uploaded")⟩
  | some stored =>
    if fileExt stored.originalname ∉ allowedFileTypes then
      .respond ⟨400, .invalidFileType allowedFileTypes⟩
    else
      match addFileUploadJob disk stored none with
      | .error error => .respond (queueError error)
      | .ok data => .await (.queueAdding data)

/-- An upload waits for the queue only with the job data of the file multer stored. -/
theorem initiateFileUploadEnter_eq_await {disk : Disk} {file : Option StoredFile}
    {wait : UploadWait} (entered : initiateFileUploadEnter disk file = .await wait) :
    ∃ stored, file = some stored ∧ disk.existsSync stored.path = true ∧
      wait = .queueAdding ⟨stored.originalname, stored.path, stored.mimetype, stored.size, none⟩ := by
  unfold initiateFileUploadEnter at entered
  cases file with
  | none => cases entered
  | some stored =>
    refine ⟨stored, rfl, ?_⟩
    by_cases disallowed : fileExt stored.originalname ∉ allowedFileTypes
    · simp [disallowed] at entered
    · simp only [if_neg disallowed] at entered
      unfold addFileUploadJob at entered
      by_cases absent : !disk.existsSync stored.path
      · simp [disallowed, absent] at entered
      · simp only [if_neg disallowed, if_neg absent, Outcome.await.injEq] at entered
        simp only [Bool.not_eq_true', Bool.not_eq_false] at absent
        exact ⟨absent, entered.symm⟩

/-- The segment of `initiateFileUpload` that runs when `fileUploadQueue.add` settles. -/
def uploadResume (world : World) (env : Env) : UploadWait → World × Outcome UploadWait
  | .queueAdding data =>
    match env.settle with
    | .reject error => (world, .respond (queueError error))
    | .resolve =>
      ({ world with
          jobs := Table.insert world.jobs world.nextJobId ⟨data, .waiting 0⟩
          nextJobId := world.nextJobId + 1 },
        .respond ⟨202, .queued world.nextJobId data.originalname⟩)

/-- `processFileUpload(job)`: the disk after the move and the job's result, or the error
`renameSync` throws. -/
def processFileUpload (disk : Disk) (data : JobData) (now : Nat) :
    Except JsError (Disk × JobResult) :=
  let destinationPath := storagePath uploadsDestination now data.originalname
  match disk.renameSync data.path destinationPath with
  | none => .error ⟨"Error", "ENOENT: no such file or directory, rename"⟩
  | some moved => .ok (moved, ⟨data.originalname, destinationPath, data.userId⟩)

/-- A move succeeds only when the stored file is there, and it moves its bytes to the name of the
moment. -/
theorem processFileUpload_eq_ok {disk disk' : Disk} {data : JobData} {now : Nat} {result : JobResult}
    (moved : processFileUpload disk data now = .ok (disk', result)) :
    ∃ bytes, disk data.path = some bytes ∧
      disk' = (disk.unlinkSync data.path).write (storagePath uploadsDestination now data.originalname)
        bytes ∧
      result = ⟨data.originalname, storagePath uploadsDestination now data.originalname, data.userId⟩ := by
  dsimp only [processFileUpload] at moved
  cases renamed : disk.renameSync data.path (storagePath uploadsDestination now data.originalname) with
  | none => rw [renamed] at moved; cases moved
  | some after =>
    rw [renamed] at moved
    cases moved
    obtain ⟨bytes, present, rfl⟩ := Disk.renameSync_eq_some renamed
    exact ⟨bytes, present, rfl, rfl⟩

/-- A move fails only when the stored file is missing. -/
theorem processFileUpload_eq_error {disk : Disk} {data : JobData} {now : Nat} {error : JsError}
    (failed : processFileUpload disk data now = .error error) : disk data.path = none := by
  dsimp only [processFileUpload] at failed
  cases renamed : disk.renameSync data.path (storagePath uploadsDestination now data.originalname) with
  | none =>
    unfold Disk.renameSync at renamed
    cases present : disk data.path with
    | none => rfl
    | some bytes => rw [present] at renamed; cases renamed
  | some after => rw [renamed] at failed; cases failed

/-- One attempt of the queue's processor at a waiting job: it completes with the result, or fails
and is retried while fewer than `maxAttempts` attempts have been made. `none` when the job is not
waiting. -/
def attemptJob (world : World) (jobId : Nat) (now : Nat) : Option World :=
  match Table.get world.jobs jobId with
  | some (_, ⟨data, .waiting attemptsMade⟩) =>
    match processFileUpload world.disk data now with
    | .ok (disk, result) =>
      some { world with disk, jobs := Table.set world.jobs jobId ⟨data, .completed result⟩ }
    | .error error =>
      some { world with
        jobs := Table.set world.jobs jobId
          ⟨data, if attemptsMade + 1 < maxAttempts then .waiting (attemptsMade + 1)
            else .failed error⟩ }
  | _ => none

example : fileExt "scan.JPG" = ".jpg" := by decide

end FileManager
