import FileManager.Model.Http
import FileManager.Library.Table

/-!
**The world the handlers act on: the two collections, the disk and the upload queue.**

* `Disk` — the bytes of the file at each path, with the `fs` calls the code makes:
  `createWriteStream` followed by the upload (`Disk.write`), `unlinkSync`, `existsSync` and
  `renameSync` (which fails when the source is missing). Paths are compared as strings, and the
  directories the server writes into (`user_files/` and `uploads/`) exist.
* `JobData`, `JobResult`, `JobState`, `Job` — a Bull job of `fileUploadQueue`
  (`config/queue.js`): the data `addFileUploadJob` adds, what `processFileUpload` returns, and the
  job's attempts (`attempts: 3`).
* `World` — the `File` and `User` collections in natural order, the disk, the queue, and the
  counters from which new ObjectIds and job ids are drawn.
-/

namespace FileManager

/-! ### The disk -/

/-- The disk: the content of the file at each path, if there is one. -/
abbrev Disk := String → Option (List UInt8)

namespace Disk

/-- Open `path` for writing (truncating what was there) and write `bytes`. -/
def write (disk : Disk) (path : String) (bytes : List UInt8) : Disk :=
  Function.update disk path (some bytes)

/-- `fs.unlinkSync(path)`. -/
def unlinkSync (disk : Disk) (path : String) : Disk :=
  Function.update disk path none

/-- `fs.existsSync(path)`. -/
def existsSync (disk : Disk) (path : String) : Bool :=
  (disk path).isSome

/-- `fs.renameSync(source, destination)`: the file moves, replacing whatever was at the
destination; `none` (an `ENOENT` error) when there is no file at the source. -/
def renameSync (disk : Disk) (source destination : String) : Option Disk :=
  match disk source with
  | none => none
  | some bytes => some ((disk.unlinkSync source).write destination bytes)

@[simp] theorem write_self (disk : Disk) (path : String) (bytes : List UInt8) :
    disk.write path bytes path = some bytes := by
  simp [write]

@[simp] theorem write_other (disk : Disk) {path other : String} (bytes : List UInt8)
    (different : other ≠ path) : disk.write path bytes other = disk other := by
  simp [write, different]

@[simp] theorem unlinkSync_self (disk : Disk) (path : String) : disk.unlinkSync path path = none := by
  simp [unlinkSync]

@[simp] theorem unlinkSync_other (disk : Disk) {path other : String} (different : other ≠ path) :
    disk.unlinkSync path other = disk other := by
  simp [unlinkSync, different]

/-- Removing a file just written leaves the path as if it had been removed. -/
@[simp] theorem unlinkSync_write (disk : Disk) (path : String) (bytes : List UInt8) :
    (disk.write path bytes).unlinkSync path = disk.unlinkSync path := by
  simp [write, unlinkSync]

/-- A rename succeeds exactly when the source exists, and moves its bytes. -/
theorem renameSync_eq_some {disk disk' : Disk} {source destination : String}
    (renamed : disk.renameSync source destination = some disk') :
    ∃ bytes, disk source = some bytes ∧ disk' = (disk.unlinkSync source).write destination bytes := by
  unfold renameSync at renamed
  cases present : disk source with
  | none => rw [present] at renamed; cases renamed
  | some bytes =>
    rw [present] at renamed
    exact ⟨bytes, rfl, (Option.some.inj renamed).symm⟩

end Disk

/-! ### The upload queue -/

/-- The data of a job of `fileUploadQueue`, as `addFileUploadJob` adds it. -/
structure JobData where
  originalname : String
  path : String
  mimetype : String
  size : Nat
  userId : Option ObjectId
  deriving DecidableEq, Repr

/-- What `processFileUpload` returns for a job: `{ success: true, filename, path, userId }`. -/
structure JobResult where
  filename : String
  path : String
  userId : Option ObjectId
  deriving DecidableEq, Repr

/-- Where a job stands: waiting for an attempt (after `attemptsMade` failed ones), completed with
its result, or failed for good. -/
inductive JobState
  | waiting (attemptsMade : Nat)
  | completed (result : JobResult)
  | failed (error : JsError)
  deriving DecidableEq, Repr

/-- A job of the queue. -/
structure Job where
  data : JobData
  state : JobState
  deriving DecidableEq, Repr

/-- The `attempts` option `addFileUploadJob` gives every job. -/
def maxAttempts : Nat := 3

/-! ### The world -/

/-- Everything the handlers share: the `File` and `User` collections in natural order, the disk,
the queue, and the counters new ObjectIds and job ids are drawn from. -/
structure World where
  files : List (ObjectId × FileDoc)
  users : List (ObjectId × UserDoc)
  disk : Disk
  nextObjectId : Nat
  jobs : List (Nat × Job)
  nextJobId : Nat

end FileManager
