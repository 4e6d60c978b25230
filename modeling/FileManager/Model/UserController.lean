import FileManager.Model.Auth

/-!
**The user routes: `controllers/User.js`.**

`register` checks that the three fields are present, looks for a user with the same email or the
same username, draws a salt, hashes the password and saves the new user, with an `await` between
each of these. `login` looks the user up by email, compares the password, and signs a token.

The database calls may resolve or reject. bcrypt's calls settle with their value: they fail only
for arguments that are not strings, which here is a missing `password` given to `compare`. Saving a
user whose `username` is already in the collection is rejected with MongoDB's duplicate-key error,
by the unique index `userSchema` declares on `username`; nothing of the kind guards `email`.
-/

namespace FileManager

/-- The `await`s a user handler can wait at, with the handler's locals. -/
inductive UserWait
  /-- `register`, at `await User.findOne({ $or: [{ email }, { username }] })` -/
  | registerFinding (username email password : String)
  /-- `register`, at `await bcrypt.genSalt(10)` -/
  | registerSalting (username email password : String)
  /-- `register`, at `await bcrypt.hash(password, salt)` -/
  | registerHashing (username email password salt : String)
  /-- `register`, at `await newUser.save()` -/
  | registerSaving (id : ObjectId) (user : UserDoc)
  /-- `login`, at `await User.findOne({ email })` -/
  | loginFinding (email password : Option String)
  /-- `login`, at `await bcrypt.compare(password, user.password)` -/
  | loginComparing (user : ObjectId × UserDoc) (password : Option String)
  deriving DecidableEq, Repr

/-- `!field` for a field of the body: absent or empty. -/
def missing : Option String → Bool
  | some value => value = ""
  | none => true

/-- `register`'s `catch`: 500 with the error's message (or a default) and name. -/
def registrationError (error : JsError) : Response :=
  ⟨500, .messageErrorName .serverErrorRegistration
    (if error.message = "" then "Internal server error" else error.message) error.name⟩

/-- The error MongoDB rejects an insert with that repeats an indexed `username`. -/
def duplicateKeyError : JsError :=
  ⟨"MongoServerError", "E11000 duplicate key error collection: users index: username_1"⟩

/-- `User.findOne({ email })`, the oldest record with that email. Mongoose leaves an absent
`email` in the filter as `undefined`, which the driver sends as `null`; it matches only documents
without an email, and every user has one (`userSchema` requires it). -/
def userByEmail (users : List (ObjectId × UserDoc)) : Option String → Option (ObjectId × UserDoc)
  | some email => Table.find users fun user => decide (user.email = email)
  | none => none

/-- `register`, up to `await User.findOne(...)`. -/
def registerEnter (username email password : Option String) : Outcome UserWait :=
  if missing username || missing email || missing password then
    .respond ⟨400, .missingFields .allFieldsRequired (missing username) (missing email)
      (missing password)⟩
  else .await (.registerFinding (username.getD "") (email.getD "") (password.getD ""))

/-- `login`, up to `await User.findOne({ email })`. -/
def loginEnter (email password : Option String) : Outcome UserWait :=
  .await (.loginFinding email password)

/-- `register` goes past its check of the fields only with all three present. -/
theorem registerEnter_eq_await {username email password : Option String} {wait : UserWait}
    (entered : registerEnter username email password = .await wait) :
    ∃ name address secret, username = some name ∧ email = some address ∧
      password = some secret ∧ wait = .registerFinding name address secret := by
  unfold registerEnter at entered
  split at entered
  · cases entered
  · rename_i present
    simp only [Bool.or_eq_true, not_or] at present
    obtain ⟨⟨hasName, hasEmail⟩, hasPassword⟩ := present
    cases username with
    | none => exact absurd rfl hasName
    | some name =>
      cases email with
      | none => exact absurd rfl hasEmail
      | some address =>
        cases password with
        | none => exact absurd rfl hasPassword
        | some secret => exact ⟨name, address, secret, rfl, rfl, rfl, (Outcome.await.inj entered).symm⟩

/-- The segment of a user handler that runs when its awaited call settles. -/
def userResume (P : Platform) (world : World) (env : Env) : UserWait → World × Outcome UserWait
  | .registerFinding username email password =>
    match env.settle with
    | .reject error => (world, .respond (registrationError error))
    | .resolve =>
      match Table.find world.users
          (fun user => decide (user.email = email ∨ user.username = username)) with
      | some (_, existing) =>
        (world, .respond ⟨400, .message (.key
          (if existing.email = email then .emailInUse else .usernameExists))⟩)
      | none => (world, .await (.registerSalting username email password))
  | .registerSalting username email password =>
    (world, .await (.registerHashing username email password env.salt))
  | .registerHashing username email password salt =>
    -- `new User(...)` draws a fresh `_id`
    ({ world with nextObjectId := world.nextObjectId + 1 },
      .await (.registerSaving world.nextObjectId ⟨username, email, P.hash password salt⟩))
  | .registerSaving id user =>
    match env.settle with
    | .reject error => (world, .respond (registrationError error))
    | .resolve =>
      match Table.find world.users (fun other => decide (other.username = user.username)) with
      | some _ => (world, .respond (registrationError duplicateKeyError))
      | none =>
        ({ world with users := Table.insert world.users id user },
          .respond ⟨201, .user .userRegistered (id, user)⟩)
  | .loginFinding email password =>
    match env.settle with
    | .reject error => (world, .respond ⟨500, .messageError (.key .serverErrorLogin) error.message⟩)
    | .resolve =>
      match userByEmail world.users email with
      | none => (world, .respond ⟨400, .message (.key .invalidCredentials)⟩)
      | some user => (world, .await (.loginComparing user password))
  | .loginComparing user password =>
    match password with
    | none =>
      (world, .respond ⟨500, .messageError (.key .serverErrorLogin)
        "Illegal arguments: undefined, string"⟩)
    | some password =>
      if P.compare password user.2.password then
        (world, .respond ⟨200, .userToken .loginSuccessful user (generateToken P user.1)⟩)
      else (world, .respond ⟨400, .message (.key .invalidCredentials)⟩)

end FileManager
