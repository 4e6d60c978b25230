import FileManager.Model.Platform

/-!
**multer's disk storage: `middleware/multerConfig.js`, and the storage of `routes/uploadRoutes.js`.**

Both configurations name a stored file `${Date.now()}-${file.originalname}` (`diskFilename`) in
their destination directory: `user_files` under the application's directory for `/files`, and
`uploads/` (relative to the working directory) for `/api/uploads/upload`.

`multerSingle` is `upload.single(field)` from `node_modules/multer` on a request with at most one
file part: a part in another field fails with `LIMIT_UNEXPECTED_FILE`; a part the file filter
rejects fails with the filter's error; a part whose stored name has more than `nameMax` bytes
fails with the `ENAMETOOLONG` of opening its path; otherwise the write stream opens the
destination path, truncating what was there, and the bytes are written. A part over the size
limit is written, then removed (`removeUploadedFiles`), and fails with `LIMIT_FILE_SIZE`. A write
is one step of the model: the `Date.now()` of the name and the bytes are those of one moment.
-/

namespace FileManager

/-- `path.join(directory, name)` for a directory that is normalized with no trailing separator
and a name that is one path segment, which is how every call in the code looks. -/
def pathJoin (directory name : String) : String := directory ++ "/" ++ name

/-- `${Date.now()}-${file.originalname}`: the `filename` callback of both disk storages, and the
name `processFileUpload` moves a file to. -/
def diskFilename (now : Nat) (originalname : String) : String :=
  toString now ++ "-" ++ originalname

/-- `uploadDirectory` of `middleware/multerConfig.js`: `path.join(__dirname, "../user_files")`. -/
def uploadDirectory (appDir : String) : String := pathJoin appDir "user_files"

/-- The destination of the storage in `routes/uploadRoutes.js`: `'uploads/'`, whose trailing
separator `path.join` drops. -/
def uploadsDestination : String := "uploads"

/-- `NAME_MAX`: the most bytes a name, one segment of a path, may have. -/
def nameMax : Nat := 255

/-- A name the file system refuses with `ENAMETOOLONG`: more than `nameMax` UTF-8 bytes. -/
def nameTooLong (name : String) : Bool := decide (nameMax < (utf8Bytes name).length)

/-- `path.join(destination, filename)`, where disk storage writes a file. -/
def storagePath (destination : String) (now : Nat) (originalname : String) : String :=
  pathJoin destination (diskFilename now originalname)

/-- What multer leaves in `req.file` for a stored part. -/
structure StoredFile where
  originalname : String
  mimetype : String
  path : String
  size : Nat
  deriving DecidableEq, Repr

/-- What multer records in `req.file` for a part it stored with the timestamp `now`. -/
def storedFile (destination : String) (now : Nat) (part : UploadPart) : StoredFile :=
  ⟨part.originalname, part.mimetype, storagePath destination now part.originalname,
    part.content.length⟩

/-- How multer's middleware ends: `next()`, with `req.file` set if a file was stored, or
`next(err)`. -/
inductive MulterOutcome
  | next (file : Option StoredFile)
  | error (error : JsError)
  deriving DecidableEq, Repr

/-- A `MulterError` with its code's message (`lib/multer-error.js`). -/
def multerError (message : String) : JsError := ⟨"MulterError", message⟩

/-- `upload.single(field)` with disk storage into `destination`, the file filter's verdict
(`none` accepts), and an optional `limits.fileSize`. -/
def multerSingle (field destination : String) (fileFilter : UploadPart → Option JsError)
    (fileSize : Option Nat) (now : Nat) (disk : Disk) : Option UploadPart → Disk × MulterOutcome
  | none => (disk, .next none)
  | some part =>
    if part.fieldname ≠ field then (disk, .error (multerError "Unexpected field"))
    else
      match fileFilter part with
      | some error => (disk, .error error)
      | none =>
        let path := storagePath destination now part.originalname
        -- `fs.createWriteStream` cannot open a path whose name is too long; the stream's error
        -- aborts the upload before a byte is written
        if nameTooLong (diskFilename now part.originalname) then
          (disk, .error (fsError "ENAMETOOLONG" "name too long" "open" path))
        else
        match fileSize with
        | some limit =>
          if limit < part.content.length then
            ((disk.write path (part.content.take limit)).unlinkSync path,
              .error (multerError "File too large"))
          else (disk.write path part.content, .next (some (storedFile destination now part)))
        | none => (disk.write path part.content, .next (some (storedFile destination now part)))

/-! ### What multer does with a part -/

/-- A part in the expected field that the filter accepts, with a name the file system takes, and
that the limit allows is written at its storage path and recorded in `req.file`. -/
theorem multerSingle_stored {field destination : String} {fileFilter : UploadPart → Option JsError}
    {fileSize : Option Nat} {now : Nat} {disk : Disk} {part : UploadPart}
    (inField : part.fieldname = field) (passes : fileFilter part = none)
    (short : nameTooLong (diskFilename now part.originalname) = false)
    (fits : ∀ limit, fileSize = some limit → part.content.length ≤ limit) :
    multerSingle field destination fileFilter fileSize now disk (some part) =
      (disk.write (storagePath destination now part.originalname) part.content,
        .next (some (storedFile destination now part))) := by
  simp only [multerSingle, ne_eq, if_neg (not_not.mpr inField), passes, short, Bool.false_eq_true,
    if_false]
  cases fileSize with
  | none => rfl
  | some limit =>
    have within : ¬ limit < part.content.length := Nat.not_lt.mpr (fits limit rfl)
    simp only [if_neg within]

/-- multer passes on a file only when it has written it, at its storage path. -/
theorem multerSingle_eq_next_some {field destination : String}
    {fileFilter : UploadPart → Option JsError} {fileSize : Option Nat} {now : Nat} {disk : Disk}
    {file : Option UploadPart} {stored : StoredFile}
    (passed : (multerSingle field destination fileFilter fileSize now disk file).2 =
      .next (some stored)) :
    ∃ part, file = some part ∧ stored = storedFile destination now part ∧
      (multerSingle field destination fileFilter fileSize now disk file).1 =
        disk.write (storagePath destination now part.originalname) part.content := by
  cases file with
  | none => simp [multerSingle] at passed
  | some part =>
    refine ⟨part, rfl, ?_⟩
    unfold multerSingle at passed ⊢
    by_cases inField : part.fieldname ≠ field
    · simp [inField] at passed
    · simp only [if_neg inField] at passed ⊢
      cases filtered : fileFilter part with
      | some error => simp [filtered] at passed
      | none =>
        simp only [filtered] at passed ⊢
        cases long : nameTooLong (diskFilename now part.originalname) with
        | true => simp [long] at passed
        | false =>
          simp only [long, Bool.false_eq_true, if_false] at passed ⊢
          cases fileSize with
          | none =>
            simp only [MulterOutcome.next.injEq, Option.some.injEq] at passed
            exact ⟨passed.symm, rfl⟩
          | some limit =>
            by_cases tooLarge : limit < part.content.length
            · simp [tooLarge] at passed
            · simp only [if_neg tooLarge, MulterOutcome.next.injEq, Option.some.injEq] at passed ⊢
              exact ⟨passed.symm, trivial⟩

/-- multer writes no path but the storage path of a part in its field that the filter accepts. -/
theorem multerSingle_frame {field destination : String}
    {fileFilter : UploadPart → Option JsError} {fileSize : Option Nat} {now : Nat} {disk : Disk}
    {file : Option UploadPart} {path : String}
    (elsewhere : ∀ part, file = some part → part.fieldname = field → fileFilter part = none →
      path ≠ storagePath destination now part.originalname) :
    (multerSingle field destination fileFilter fileSize now disk file).1 path = disk path := by
  cases file with
  | none => rfl
  | some part =>
    -- the unexpected field, the filter's refusal and a name too long leave the disk alone; every
    -- other branch writes at the part's own path, and a part over the limit is unlinked there again
    simp only [multerSingle]
    split
    · rfl
    · rename_i inField
      split
      · rfl
      · rename_i passed
        have other := elsewhere part rfl (not_not.mp inField) passed
        split
        · rfl
        · split
          · split
            · exact (Disk.unlinkSync_other _ other).trans (Disk.write_other _ _ other)
            · exact Disk.write_other _ _ other
          · exact Disk.write_other _ _ other

/-! ### Stored paths -/

/-- A stored name is one path segment: the timestamp's digits, `-`, and a base name. -/
theorem diskFilename_isBasename (now : Nat) {name : String} (basename : IsBasename name) :
    IsBasename (diskFilename now name) := by
  obtain ⟨_, noSlash, noBackslash, _, _⟩ := basename
  have chars : (diskFilename now name).toList = Nat.toDigits 10 now ++ '-' :: name.toList :=
    Text.toList_decimal_dash now name
  have dash : '-' ∈ (diskFilename now name).toList := by simp [chars]
  refine ⟨?_, ?_, ?_, ?_, ?_⟩
  · intro empty
    rw [empty] at dash
    simp at dash
  · rw [chars]
    simp only [List.mem_append, List.mem_cons, not_or]
    exact ⟨Text.not_mem_toDigits (by decide) now, by decide, noSlash⟩
  · rw [chars]
    simp only [List.mem_append, List.mem_cons, not_or]
    exact ⟨Text.not_mem_toDigits (by decide) now, by decide, noBackslash⟩
  · intro dot
    rw [dot] at dash
    simp at dash
  · intro dots
    rw [dots] at dash
    simp at dash

/-- **Two stored names agree exactly when the timestamp and the original name agree.** -/
theorem diskFilename_inj {now now' : Nat} {name name' : String} :
    diskFilename now name = diskFilename now' name' ↔ now = now' ∧ name = name' :=
  Text.decimal_dash_inj

theorem storagePath_inj {destination : String} {now now' : Nat} {name name' : String} :
    storagePath destination now name = storagePath destination now' name' ↔
      now = now' ∧ name = name' := by
  unfold storagePath pathJoin
  rw [String.append_assoc, String.append_assoc, String.append_right_inj,
    String.append_right_inj, diskFilename_inj]

end FileManager
