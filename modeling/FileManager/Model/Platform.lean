import FileManager.Model.World

/-!
**The third-party code the handlers call: parameters, and the behaviour the code relies on.**

Joi is not in the repository's `node_modules`. bcryptjs and jsonwebtoken are, but what the
handlers depend on is a property of Blowfish and of signed tokens, not their arithmetic. Each is a
field of `Platform`, and what the code relies on is stated as a named hypothesis:

* `JoiSpec` — `fileValidationSchema.validate(body, options)` (`utils/fileValidation.js`) fails
  when `fileName` or `filePath` is missing, not a string or empty (`any.required`, `string.base`,
  `string.empty`), and otherwise passes them through;
* `BcryptSpec` — `bcrypt.compare(q, bcrypt.hash(p, salt))` holds exactly when `q` and `p` have the
  same `keyBytes`: the 72 bytes the Blowfish key schedule of `bcryptjs/src/bcrypt/impl.js` reads,
  cycling through the UTF-8 bytes of the password followed by a NUL (`_streamtoword`);
* `JwtSpec` — `jwt.verify(jwt.sign({ id }, k), k')` returns `id` when `k = k'` and fails
  otherwise, and a token is non-empty with no space in it (a JWS in compact form).

`Platform.jwtSecret` is `process.env.JWT_SECRET`, set or not, the same for every module, and
`Platform.appDir` is where the application is installed. `Platform.isDirectory` and
`Platform.unlinkDenied` are the part of the file system the disk does not hold: its directories,
and the files the process may not remove. `fs.unlinkSync` refuses both (`Platform.unlinkSync`).
-/

namespace FileManager

/-- The validated value's `fileName` and `filePath`, the fields the handlers read from it. -/
structure ValidatedFile where
  fileName : String
  filePath : String
  deriving DecidableEq, Repr

/-- The third-party functions the handlers call, and the environment variable they read. -/
structure Platform where
  /-- `fileValidationSchema.validate(body, options)`: the messages of the error details, or the
  validated fields -/
  validateSchema : Body → Except (List String) ValidatedFile
  /-- `bcrypt.hash(password, salt)` -/
  hash : String → String → String
  /-- `bcrypt.compare(password, hash)` -/
  compare : String → String → Bool
  /-- `jwt.sign({ id }, secret)` -/
  sign : ObjectId → String → String
  /-- `jwt.verify(token, secret)`: the payload's `id`, or the error it throws -/
  verify : String → String → Except JsError ObjectId
  /-- `process.env.JWT_SECRET` -/
  jwtSecret : Option String
  /-- the application's directory, `path.join(__dirname, "..")` for `middleware/`: an absolute
  path, normalized, with no trailing separator -/
  appDir : String
  /-- the paths where the file system has a directory; the server creates and removes none, and
  the two it stores parts in, `user_files` and `uploads`, hold files only -/
  isDirectory : String → Bool
  /-- the paths of files the server's process may not remove, for want of write permission on
  the directory that holds them -/
  unlinkDenied : String → Bool

/-! ### The file system -/

/-- The error an `fs` call throws: `Error: <code>: <description>, <syscall> '<path>'`. -/
def fsError (code description syscall path : String) : JsError :=
  ⟨"Error", code ++ ": " ++ description ++ ", " ++ syscall ++ " \x27" ++ path ++ "\x27"⟩

/-- `fs.unlinkSync(path)` at a path where `fs.existsSync` finds something: a directory is refused
with `EISDIR` (Linux), a file the process may not remove with `EACCES`, and any other file is
removed. -/
def Platform.unlinkSync (P : Platform) (disk : Disk) (path : String) : Except JsError Disk :=
  if P.isDirectory path then .error (fsError "EISDIR" "illegal operation on a directory" "unlink" path)
  else if P.unlinkDenied path then .error (fsError "EACCES" "permission denied" "unlink" path)
  else .ok (disk.unlinkSync path)

/-! ### Joi -/

/-- A body value that is a non-empty string. -/
def IsFilledString : Option JsonValue → Prop
  | some (.string value) => value ≠ ""
  | _ => False

instance : (value : Option JsonValue) → Decidable (IsFilledString value)
  | some (.string value) => inferInstanceAs (Decidable (value ≠ ""))
  | some .other => isFalse id
  | none => isFalse id

/-- What the code relies on of Joi's validation against `fileValidationSchema` with
`abortEarly: false, allowUnknown: true, stripUnknown: true`. -/
structure JoiSpec (validateSchema : Body → Except (List String) ValidatedFile) : Prop where
  /-- a `fileName` or `filePath` that is missing, not a string, or empty fails, with at least one
  error detail -/
  rejects : ∀ body : Body, ¬ (IsFilledString (body.lookup "fileName") ∧
      IsFilledString (body.lookup "filePath")) →
    ∃ first rest, validateSchema body = .error (first :: rest)
  /-- two non-empty strings, and no `createdAt`, pass unchanged -/
  accepts : ∀ (body : Body) (fileName filePath : String),
    body.lookup "fileName" = some (.string fileName) → body.lookup "filePath" = some (.string filePath) →
    fileName ≠ "" → filePath ≠ "" → body.lookup "createdAt" = none →
    validateSchema body = .ok ⟨fileName, filePath⟩

/-! ### bcrypt -/

/-- The UTF-8 bytes of a string. -/
def utf8Bytes (text : String) : List UInt8 := text.toList.flatMap String.utf8EncodeChar

/-- The bytes of a password that bcrypt's key schedule reads: 72 bytes taken cyclically from the
UTF-8 bytes of the password followed by a NUL (`_streamtoword` wraps around the key). -/
def keyBytes (password : String) : List UInt8 :=
  let key := utf8Bytes password ++ [0]
  (List.range 72).map fun i => key.getD (i % key.length) 0

/-- What the code relies on of jsonwebtoken. -/
structure JwtSpec (sign : ObjectId → String → String)
    (verify : String → String → Except JsError ObjectId) : Prop where
  verify_sign_self : ∀ id secret, verify (sign id secret) secret = .ok id
  verify_sign_other : ∀ id secret secret', secret ≠ secret' →
    ∃ error, verify (sign id secret) secret' = .error error
  sign_nonempty : ∀ id secret, sign id secret ≠ ""
  sign_no_space : ∀ id secret, ' ' ∉ (sign id secret).toList

end FileManager
