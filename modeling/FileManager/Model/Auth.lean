import FileManager.Model.Platform

/-!
**Tokens: `utils/tokenUtile.js` and `middleware/authorization.js`.**

Each module computes its own secret as `process.env.JWT_SECRET || fallback`, with a different
fallback: `'your_jwt_secret'` where `generateToken` signs, `'your_jwt_secret_key'` where
`authenticateToken` verifies. `authenticateToken` reads the token from the `authorization` header
as `authHeader.split(' ')[1]`.

* `secret_agree_iff` — the two secrets agree exactly when `JWT_SECRET` is set to a non-empty
  string;
* `authenticateToken_bearer` — `'Bearer ' ++ generateToken id` authenticates as `id` when they
  agree, and is refused with 401 when they do not.
-/

namespace FileManager

/-- `process.env.JWT_SECRET || fallback`: the variable when it is set to a non-empty string. -/
def secretOr (env : Option String) (fallback : String) : String :=
  match env with
  | some secret => if secret = "" then fallback else secret
  | none => fallback

/-- `JWT_SECRET` of `utils/tokenUtile.js`. -/
def tokenSecret (P : Platform) : String := secretOr P.jwtSecret "your_jwt_secret"

/-- `generateToken(userId)`: `jwt.sign({ id: userId }, JWT_SECRET)`. -/
def generateToken (P : Platform) (userId : ObjectId) : String := P.sign userId (tokenSecret P)

/-- `JWT_SECRET` of `middleware/authorization.js`. -/
def authorizationSecret (P : Platform) : String := secretOr P.jwtSecret "your_jwt_secret_key"

/-- The response `authenticateToken` sends without a token. -/
def tokenRequired : Response := ⟨403, .message (.literal "Token required")⟩

/-- `authenticateToken(req, res, next)`: the id of `req.user` when it calls `next()`, or the
response it sends. -/
def authenticateToken (P : Platform) (authorization : Option String) : Except Response ObjectId :=
  match authorization with
  | none => .error tokenRequired
  | some authHeader =>
    match (Text.split authHeader ' ')[1]? with
    | none => .error tokenRequired
    | some token =>
      if token = "" then .error tokenRequired
      else
        match P.verify token (authorizationSecret P) with
        | .error error => .error ⟨401, .messageErrorObject (.literal "Invalid or expired token") error⟩
        | .ok id => .ok id

/-! ### The two secrets -/

/-- **The secrets of the two modules agree exactly when `JWT_SECRET` is set and non-empty.** -/
theorem secret_agree_iff (P : Platform) :
    tokenSecret P = authorizationSecret P ↔ ∃ secret, P.jwtSecret = some secret ∧ secret ≠ "" := by
  unfold tokenSecret authorizationSecret secretOr
  cases P.jwtSecret with
  | none => simp
  | some secret =>
    by_cases empty : secret = ""
    · simp [empty]
    · simp [empty]

/-- The token part of a `Bearer` header. -/
theorem split_bearer {token : String} (noSpace : ' ' ∉ token.toList) :
    Text.split ("Bearer " ++ token) ' ' = ["Bearer", token] := by
  have chars : ("Bearer " ++ token).toList = "Bearer".toList ++ ' ' :: token.toList := by
    simp [String.toList_append]
  unfold Text.split
  rw [chars, Text.splitOn_append_sep _ (by decide), Text.splitOn_of_not_mem noSpace]
  simp [String.ofList_toList]

section Bearer

variable {P : Platform} (jwt : JwtSpec P.sign P.verify) (userId : ObjectId)

/-- A header carrying a token is read as that token. -/
theorem authenticateToken_of_token {token : String} (noSpace : ' ' ∉ token.toList)
    (nonempty : token ≠ "") :
    authenticateToken P (some ("Bearer " ++ token)) =
      match P.verify token (authorizationSecret P) with
      | .error error => .error ⟨401, .messageErrorObject (.literal "Invalid or expired token") error⟩
      | .ok id => .ok id := by
  simp [authenticateToken, split_bearer noSpace, nonempty]

include jwt in
/-- **A token from `generateToken` authenticates as its user when the secrets agree.** -/
theorem authenticateToken_bearer (agree : tokenSecret P = authorizationSecret P) :
    authenticateToken P (some ("Bearer " ++ generateToken P userId)) = .ok userId := by
  rw [generateToken, authenticateToken_of_token (jwt.sign_no_space _ _) (jwt.sign_nonempty _ _),
    ← agree, jwt.verify_sign_self]

end Bearer

end FileManager
