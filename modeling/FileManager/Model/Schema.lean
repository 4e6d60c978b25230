import FileManager.Library.Text

/-!
**The Mongoose schemas: `models/fileModel.js` and `models/User.js`.**

* `FileDoc` — a document of the `File` collection (`FileSchema`): `fileName`, `filePath`,
  `createdAt` (default `Date.now`) and `userId` (a reference to a `User`);
* `UserDoc` — a document of the `User` collection (`userSchema`): `username` (with a unique
  index), `email` and `password` (the bcrypt hash);
* `ObjectId` and `castObjectId` — document ids, and Mongoose's cast of a route parameter to one.

No schema declares a unique index on `fileName`, on `filePath` or on `email`; the only index is the
one on `username`.
-/

namespace FileManager

/-- A MongoDB ObjectId. The model numbers ids in the order they are generated. -/
abbrev ObjectId := Nat

/-- Mongoose's cast of `req.params.id` to an ObjectId. Ids are written in decimal in the model;
any other string fails the cast, which rejects the query with a `CastError`. -/
def castObjectId (id : String) : Option ObjectId := Text.parseDecimal id

/-- A document of the `File` collection (`FileSchema`). -/
structure FileDoc where
  fileName : String
  filePath : String
  /-- milliseconds since the epoch, `Date.now()` when the document was constructed -/
  createdAt : Nat
  userId : Option ObjectId
  deriving DecidableEq, Repr

/-- A document of the `User` collection (`userSchema`). -/
structure UserDoc where
  username : String
  email : String
  /-- the bcrypt hash of the password -/
  password : String
  deriving DecidableEq, Repr

example : castObjectId "12" = some 12 := by decide
example : castObjectId "1f" = none := by decide

end FileManager
