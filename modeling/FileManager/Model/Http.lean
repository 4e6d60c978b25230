import FileManager.Model.Schema

/-!
**Requests and responses of the file manager's routes.**

What an Express handler reads from `req` and sends through `res`, for the routes `server.js`
mounts: `/files` (`routes/fileRoutes.js`: `authenticateToken`, and for `POST` multer's
`upload.single("file")` before `createFile`), `/register` and `/login` (`routes/User.js`), and
`/api/uploads/upload` (`routes/uploadRoutes.js`: multer with a file filter and a 5 MB limit).

* `JsonValue`, `Body` — a parsed request body (`express.json()`, or the text fields multer reads
  from a multipart body);
* `UploadPart` — the file part of a multipart body as busboy hands it to multer: its
  `originalname` is a base name (`IsBasename`);
* `Request` — one constructor per route, with the data that route reads;
* `Key`, `Text`, `Payload`, `Response` — what `res.status(...).send(...)` and `res.json(...)` send;
  translated messages are kept as their `req.t` keys;
* `JsError`, `Settle`, `Env` — how an awaited call settles, and what the environment supplies to
  one step besides (the clock, the salt `bcrypt.genSalt` draws).
-/

namespace FileManager

/-! ### Request bodies -/

/-- A JSON value, as far as the code that reads request bodies tells values apart: a string, or
any other JSON value (a number, a boolean, `null`, an object, an array). -/
inductive JsonValue
  | string (value : String)
  | other
  deriving DecidableEq, Repr

/-- A parsed request body: its keys, each once, with their values. -/
abbrev Body := List (String × JsonValue)

/-- A file name as busboy's `basename` reports it: non-empty (multer skips a part without a file
name), with no `/` or `\`, and not `.` or `..`. -/
def IsBasename (name : String) : Prop :=
  name ≠ "" ∧ '/' ∉ name.toList ∧ '\\' ∉ name.toList ∧ name ≠ "." ∧ name ≠ ".."

instance (name : String) : Decidable (IsBasename name) :=
  inferInstanceAs (Decidable (_ ∧ _))

/-- The file part of a multipart body: the form field it came in, busboy's file name and MIME
type, and the uploaded bytes. -/
structure UploadPart where
  fieldname : String
  originalname : String
  mimetype : String
  content : List UInt8
  basename : IsBasename originalname

/-! ### Requests -/

/-- A request to one of the routes, with what its middleware and handler read: the
`authorization` header (`authenticateToken`), `req.params.id`, `req.body`, and the file part
multer finds, if any. The user routes read `username`, `email` and `password` from a JSON body;
the model gives them as strings or absent.

A request is one whose body `express.json()` has parsed. A body it refuses (400 for malformed
JSON, 413 over its 100 kB limit, 415 for an unsupported charset or encoding) is answered by
Express's error handler before any route runs, and is no `Request` of the model. -/
inductive Request
  | createFile (authorization : Option String) (body : Body) (file : Option UploadPart)
  | readFile (authorization : Option String)
  | readFileById (authorization : Option String) (id : String)
  | updateFile (authorization : Option String) (id : String) (body : Body)
  | deleteFile (authorization : Option String) (id : String)
  | register (username email password : Option String)
  | login (email password : Option String)
  | upload (file : Option UploadPart)

/-! ### Responses -/

/-- The translation keys the handlers pass to `req.t` (`locale/*/translation.json`). -/
inductive Key
  | noFileUploaded | fileNameRequired | fileAlreadyExists | idRequired | fileNotFound
  | noFilesFound | errorRetrievingFiles | requiredFieldsMissing | errorUpdatingFile
  | errorDeletingFile
  | fileRetrieved | filesRetrieved | fileUploadSuccess | fileUpdated | fileDeleted
  | allFieldsRequired | emailInUse | usernameExists | serverErrorRegistration
  | invalidCredentials | serverErrorLogin
  | userRegistered | loginSuccessful
  deriving DecidableEq, Repr

/-- A message: a translation key, or a literal text (an error's `message`, or a string written in
the code). -/
inductive Text
  | key (key : Key)
  | literal (text : String)
  deriving DecidableEq, Repr

/-- A JavaScript error as a handler sees it in `catch`: its `name` and `message`. -/
structure JsError where
  name : String
  message : String
  deriving DecidableEq, Repr

/-- `error.toString()`: the name, then `: ` and the message when there is one. -/
def JsError.toString (error : JsError) : String :=
  if error.message = "" then error.name else error.name ++ ": " ++ error.message

/-- A response body, one constructor per shape the code sends. -/
inductive Payload
  /-- `{ error }` -/
  | error (error : Text)
  /-- `{ message }` -/
  | message (message : Text)
  /-- `{ message, file }` (and `deleteFile`'s `{ file, message }`) -/
  | file (message : Key) (file : ObjectId × FileDoc)
  /-- `{ message, files }` -/
  | files (message : Key) (files : List (ObjectId × FileDoc))
  /-- `{ message, missingFields: { username, email, password } }` -/
  | missingFields (message : Key) (username email password : Bool)
  /-- `{ message, user }` -/
  | user (message : Key) (user : ObjectId × UserDoc)
  /-- `{ message, user, token }` -/
  | userToken (message : Key) (user : ObjectId × UserDoc) (token : String)
  /-- `{ message, error }` with the error's message -/
  | messageError (message : Text) (error : String)
  /-- `{ message, error }` with the error object itself -/
  | messageErrorObject (message : Text) (error : JsError)
  /-- `{ message, error, errorName }` -/
  | messageErrorName (message : Key) (error errorName : String)
  /-- `{ message: 'File upload queued', jobId, filename, status: 'processing' }` -/
  | queued (jobId : Nat) (filename : String)
  /-- `{ error: 'Invalid file type', allowedTypes }` -/
  | invalidFileType (allowedTypes : List String)
  /-- `{ error, details }`, and `{ error, details, fullError }` when `fullError` is given -/
  | errorDetails (error details : String) (fullError : Option String)
  /-- the page Express's default error handler sends for an error passed to `next` -/
  | errorPage
  deriving DecidableEq, Repr

/-- A response: its status code and body. -/
structure Response where
  status : Nat
  payload : Payload
  deriving DecidableEq, Repr

/-- An error response: status 400 or above. -/
def Response.IsError (response : Response) : Prop := 400 ≤ response.status

instance (response : Response) : Decidable response.IsError :=
  inferInstanceAs (Decidable (400 ≤ _))

/-- How a synchronous segment of a handler ends: at an `await`, where the request waits; with a
response sent; or with the handler's promise rejected and nothing to catch it, so that no response
is ever sent. -/
inductive Outcome (Wait : Type)
  | await (wait : Wait)
  | respond (response : Response)
  | unhandled
  deriving DecidableEq, Repr

/-! ### What the environment supplies to a step -/

/-- How an awaited call settles: its promise resolves, or it rejects with an error. -/
inductive Settle
  | resolve
  | reject (error : JsError)
  deriving DecidableEq, Repr

/-- The environment's part of one step of a request: how its awaited call settles, what
`Date.now()` reads, and the salt `bcrypt.genSalt` draws. -/
structure Env where
  settle : Settle
  now : Nat
  salt : String
  deriving DecidableEq, Repr

end FileManager
