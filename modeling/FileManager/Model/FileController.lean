import FileManager.Model.Multer

/-!
**The file routes: `controllers/fileController.js` and the helpers it calls.**

A handler runs in synchronous segments separated by its `await`s, and other requests run in
between. `FileWait` names each `await` a file handler can be stopped at, with the handler's
locals there. The `…Enter` functions are the segment that runs when a request reaches its handler,
and `fileResume` the segment that runs when the awaited call settles.

* `validateFile` (`utils/fileValidation.js`) throws one `Error` whose message joins Joi's details
  with `", "`. `createFile` calls it inside its `try`; `updateFile` calls it before its `try`, so
  a body that fails validation leaves the request without any response.
* `checkIfFileExists` (`utils/fileUtils.js`) is `File.findOne({ fileName })`, the oldest match.
* `deleteFileFromSystem` (`utils/fileSystemUtils.js`) unlinks the path if it exists; `unlinkSync`
  throws at a directory and at a file the process may not remove. `deleteFile` calls it inside its
  `try`, before `await file.deleteOne()`, so a throw answers 500 with the document in place.
* `File.findById(id)` casts `id` first (`castObjectId`); a failed cast rejects the query.
* `save()` of a loaded document (`updateFile`) writes only the paths the handler changed
  (`saveModified`), and rejects with `DocumentNotFoundError` if the document is gone
  (`node_modules/mongoose/lib/model.js`). `updatedAt` is not a path of `FileSchema`, so setting it
  changes nothing that is saved.
-/

namespace FileManager

/-- `validateFile(fileData)`: the validated value, or the message of the `Error` it throws. -/
def validateFile (P : Platform) (fileData : Body) : Except String ValidatedFile :=
  match P.validateSchema fileData with
  | .error details => .error (String.intercalate ", " details)
  | .ok value => .ok value

/-- `checkIfFileExists(fileName)`: `File.findOne({ fileName })`. -/
def checkIfFileExists (files : List (ObjectId × FileDoc)) (fileName : String) :
    Option (ObjectId × FileDoc) :=
  Table.find files fun file => decide (file.fileName = fileName)

theorem checkIfFileExists_eq_none {files : List (ObjectId × FileDoc)} {fileName : String} :
    checkIfFileExists files fileName = none ↔ fileName ∉ Table.column FileDoc.fileName files := by
  rw [checkIfFileExists, Table.find_eq_none_iff_not_mem_column]

/-- `deleteFileFromSystem(filePath)`: `fs.existsSync` finds a file or a directory, and then
`fs.unlinkSync` runs, and may throw. -/
def deleteFileFromSystem (P : Platform) (disk : Disk) (filePath : String) : Except JsError Disk :=
  if P.isDirectory filePath || disk.existsSync filePath then P.unlinkSync disk filePath
  else .ok disk

/-- `deleteFileFromSystem` either throws, at a directory or at a file the process may not remove,
or leaves no file at the path and touches no other path. -/
theorem deleteFileFromSystem_cases (P : Platform) (disk : Disk) (filePath : String) :
    (∃ error, deleteFileFromSystem P disk filePath = .error error ∧
      (P.isDirectory filePath = true ∨ P.unlinkDenied filePath = true)) ∨
    deleteFileFromSystem P disk filePath = .ok (disk.unlinkSync filePath) := by
  unfold deleteFileFromSystem Platform.unlinkSync
  by_cases directory : P.isDirectory filePath = true
  · -- `existsSync` finds the directory, and `unlinkSync` refuses it
    exact .inl ⟨_, by rw [if_pos (by simp [directory]), if_pos directory], .inl directory⟩
  · by_cases present : disk.existsSync filePath = true
    · have found : (P.isDirectory filePath || disk.existsSync filePath) = true := by simp [present]
      by_cases denied : P.unlinkDenied filePath = true
      · exact .inl ⟨_, by rw [if_pos found, if_neg directory, if_pos denied], .inr denied⟩
      · exact .inr (by rw [if_pos found, if_neg directory, if_neg denied])
    · -- nothing to unlink: the path is already empty
      refine .inr ?_
      simp only [directory, present, Bool.or_self, Bool.false_eq_true, if_false]
      congr 1
      funext path
      by_cases same : path = filePath
      · subst same
        simpa [Disk.existsSync] using present
      · rw [Disk.unlinkSync_other _ same]

/-- A path `deleteFileFromSystem` never throws at: no directory, and a file there the process may
remove. -/
def Platform.Unlinkable (P : Platform) (path : String) : Prop :=
  P.isDirectory path = false ∧ P.unlinkDenied path = false

instance (P : Platform) (path : String) : Decidable (P.Unlinkable path) :=
  inferInstanceAs (Decidable (_ ∧ _))

theorem deleteFileFromSystem_of_unlinkable {P : Platform} {disk : Disk} {filePath : String}
    (unlinkable : P.Unlinkable filePath) :
    deleteFileFromSystem P disk filePath = .ok (disk.unlinkSync filePath) := by
  rcases deleteFileFromSystem_cases P disk filePath with ⟨_, _, directory | denied⟩ | unlinked
  · rw [unlinkable.1] at directory
    cases directory
  · rw [unlinkable.2] at denied
    cases denied
  · exact unlinked

/-- `fs.existsSync` finds a directory, and `fs.unlinkSync` refuses it, whatever the disk holds. -/
theorem deleteFileFromSystem_directory {P : Platform} (disk : Disk) {filePath : String}
    (directory : P.isDirectory filePath = true) :
    ∃ error, deleteFileFromSystem P disk filePath = .error error :=
  ⟨_, by rw [deleteFileFromSystem, if_pos (by simp [directory]), Platform.unlinkSync, if_pos directory]⟩

/-- `File.findById(id)` once the query settles: the document with that id, if any, or the
query's error. -/
def findById (files : List (ObjectId × FileDoc)) (id : String) (settle : Settle) :
    Except JsError (Option (ObjectId × FileDoc)) :=
  match castObjectId id with
  | none => .error ⟨"CastError", "Cast to ObjectId failed"⟩
  | some objectId =>
    match settle with
    | .reject error => .error error
    | .resolve => .ok (Table.get files objectId)

theorem findById_eq_ok_some {files : List (ObjectId × FileDoc)} {id : String} {settle : Settle}
    {entry : ObjectId × FileDoc} (found : findById files id settle = .ok (some entry)) :
    castObjectId id = some entry.1 ∧ settle = .resolve ∧ Table.get files entry.1 = some entry := by
  unfold findById at found
  cases cast : castObjectId id with
  | none => rw [cast] at found; cases found
  | some objectId =>
    rw [cast] at found
    cases settled : settle with
    | reject error => rw [settled] at found; cases found
    | resolve =>
      rw [settled] at found
      have entryKey := (Table.get_eq_some (Except.ok.inj found)).2
      refine ⟨by rw [entryKey], rfl, ?_⟩
      rw [entryKey]
      exact Except.ok.inj found

/-- What `save()` of a loaded document leaves in the collection: each path the handler changed
from its loaded value is set, on the document as it is now. -/
def saveModified (loaded edited current : FileDoc) : FileDoc :=
  { current with
    fileName := if edited.fileName = loaded.fileName then current.fileName else edited.fileName
    filePath := if edited.filePath = loaded.filePath then current.filePath else edited.filePath }

/-- The `await`s a file handler can wait at, with the handler's locals. -/
inductive FileWait
  /-- `createFile`, at `await checkIfFileExists(fileName)` -/
  | createChecking (fileName filePath : String)
  /-- `createFile`, at `await newFile.save()` -/
  | createSaving (id : ObjectId) (file : FileDoc)
  /-- `readFile`, at `await File.find()` -/
  | readFinding
  /-- `readFileById`, at `await File.findById(id)` -/
  | readByIdFinding (id : String)
  /-- `updateFile`, at `await File.findById(id)` -/
  | updateFinding (id : String) (fileName filePath : String)
  /-- `updateFile`, at `await file.save()`, with the document as loaded and as edited -/
  | updateSaving (id : ObjectId) (loaded edited : FileDoc)
  /-- `deleteFile`, at `await File.findById(id)` -/
  | deleteFinding (id : String)
  /-- `deleteFile`, at `await file.deleteOne()` -/
  | deleteDeleting (id : ObjectId) (file : FileDoc)
  deriving DecidableEq, Repr

/-- `res.status(status).send({ error: req.t(key) })`. -/
def errorResponse (status : Nat) (key : Key) : Response := ⟨status, .error (.key key)⟩

/-! ### Entering the handlers -/

/-- `createFile`, given multer's `req.file`, up to `await checkIfFileExists(fileName)`. -/
def createFileEnter (P : Platform) (body : Body) (file : Option StoredFile) : Outcome FileWait :=
  match file with
  | none => .respond (errorResponse 400 .noFileUploaded)
  | some stored =>
    match validateFile P body with
    | .error message => .respond ⟨400, .error (.literal message)⟩
    | .ok value =>
      if value.fileName = "" then .respond (errorResponse 400 .fileNameRequired)
      else .await (.createChecking value.fileName stored.path)

/-- `readFile`, up to `await File.find()`. -/
def readFileEnter : Outcome FileWait := .await .readFinding

/-- `readFileById`, up to `await File.findById(id)`. -/
def readFileByIdEnter (id : String) : Outcome FileWait :=
  if id = "" then .respond (errorResponse 400 .idRequired) else .await (.readByIdFinding id)

/-- `updateFile`, up to `await File.findById(id)`. -/
def updateFileEnter (P : Platform) (id : String) (body : Body) : Outcome FileWait :=
  match validateFile P body with
  | .error _ => .unhandled
  | .ok value =>
    if id = "" ∨ value.fileName = "" ∨ value.filePath = "" then
      .respond (errorResponse 400 .requiredFieldsMissing)
    else .await (.updateFinding id value.fileName value.filePath)

/-- `deleteFile`, up to `await File.findById(id)`. -/
def deleteFileEnter (id : String) : Outcome FileWait :=
  if id = "" then .respond (errorResponse 400 .idRequired) else .await (.deleteFinding id)

theorem createFileEnter_eq_await {P : Platform} {body : Body} {file : Option StoredFile}
    {wait : FileWait} (entered : createFileEnter P body file = .await wait) :
    ∃ stored fileName, file = some stored ∧ wait = .createChecking fileName stored.path := by
  unfold createFileEnter at entered
  cases file with
  | none => cases entered
  | some stored =>
    refine ⟨stored, ?_⟩
    cases validated : validateFile P body with
    | error message => simp [validated] at entered
    | ok value =>
      by_cases empty : value.fileName = ""
      · simp [validated, empty] at entered
      · simp only [validated, if_neg empty, Outcome.await.injEq] at entered
        exact ⟨value.fileName, rfl, entered.symm⟩

/-! ### Resuming the handlers -/

/-- The segment of a file handler that runs when its awaited call settles. -/
def fileResume (P : Platform) (world : World) (env : Env) : FileWait → World × Outcome FileWait
  | .createChecking fileName filePath =>
    match env.settle with
    | .reject error => (world, .respond ⟨400, .error (.literal error.message)⟩)
    | .resolve =>
      match checkIfFileExists world.files fileName with
      | some _ => (world, .respond (errorResponse 409 .fileAlreadyExists))
      | none =>
        -- `new File(fileData)` draws a fresh `_id`, and `createdAt` defaults to `Date.now()`
        ({ world with nextObjectId := world.nextObjectId + 1 },
          .await (.createSaving world.nextObjectId ⟨fileName, filePath, env.now, none⟩))
  | .createSaving id file =>
    match env.settle with
    | .reject error => (world, .respond ⟨400, .error (.literal error.message)⟩)
    | .resolve =>
      ({ world with files := Table.insert world.files id file },
        .respond ⟨201, .file .fileUploadSuccess (id, file)⟩)
  | .readFinding =>
    match env.settle with
    | .reject _ => (world, .respond (errorResponse 500 .errorRetrievingFiles))
    | .resolve =>
      if world.files = [] then (world, .respond (errorResponse 404 .noFilesFound))
      else (world, .respond ⟨200, .files .filesRetrieved world.files⟩)
  | .readByIdFinding id =>
    match findById world.files id env.settle with
    | .error _ => (world, .respond (errorResponse 500 .errorRetrievingFiles))
    | .ok none => (world, .respond (errorResponse 404 .fileNotFound))
    | .ok (some file) => (world, .respond ⟨200, .file .fileRetrieved file⟩)
  | .updateFinding id fileName filePath =>
    match findById world.files id env.settle with
    | .error _ => (world, .respond (errorResponse 500 .errorUpdatingFile))
    | .ok none => (world, .respond (errorResponse 404 .fileNotFound))
    | .ok (some (objectId, loaded)) =>
      (world, .await (.updateSaving objectId loaded { loaded with fileName, filePath }))
  | .updateSaving objectId loaded edited =>
    match env.settle with
    | .reject _ => (world, .respond (errorResponse 500 .errorUpdatingFile))
    | .resolve =>
      match Table.get world.files objectId with
      | none => (world, .respond (errorResponse 500 .errorUpdatingFile))
      | some _ =>
        ({ world with files := Table.modify world.files objectId (saveModified loaded edited) },
          .respond ⟨200, .file .fileUpdated (objectId, edited)⟩)
  | .deleteFinding id =>
    match findById world.files id env.settle with
    | .error _ => (world, .respond (errorResponse 500 .errorDeletingFile))
    | .ok none => (world, .respond (errorResponse 404 .fileNotFound))
    | .ok (some (objectId, file)) =>
      match deleteFileFromSystem P world.disk file.filePath with
      | .error _ => (world, .respond (errorResponse 500 .errorDeletingFile))
      | .ok disk => ({ world with disk }, .await (.deleteDeleting objectId file))
  | .deleteDeleting objectId file =>
    match env.settle with
    | .reject _ => (world, .respond (errorResponse 500 .errorDeletingFile))
    | .resolve =>
      ({ world with files := Table.erase world.files objectId },
        .respond ⟨200, .file .fileDeleted (objectId, file)⟩)

end FileManager
