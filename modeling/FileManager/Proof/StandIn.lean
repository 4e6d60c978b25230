import FileManager.Model.Server

/-!
**A platform that meets every spec.**

The theorems about the code assume of Joi, bcrypt and jsonwebtoken only `JoiSpec`, `BcryptSpec`
and `JwtSpec`. `standIn` is a platform whose functions meet all three (`standIn_joi`,
`standIn_bcrypt`, `standIn_jwt`), with `JWT_SECRET` set and a few directories, so that a run of
the code can be evaluated on it: where the code does not do what a property says, a run on
`standIn` shows it, under every assumption the property makes.

* the validator reports the details of `fileValidationSchema` with the schema's own messages;
* a hash is the key bytes of the password, one character each, then the salt, and `compare`
  reads the first 72 characters back;
* a token is the id in decimal, then `.` and the secret's character codes.
-/

namespace FileManager

/-! ### Validation -/

/-- One required string key of `fileValidationSchema`: the value, or the detail Joi reports for
it with the schema's message. -/
def requiredString (body : Body) (key required : String) : Except String String :=
  match body.lookup key with
  | none => .error required
  | some .other => .error ("\"" ++ key ++ "\" should be a type of \x27text\x27")
  | some (.string value) =>
    if value = "" then .error ("\"" ++ key ++ "\" cannot be an empty field") else .ok value

/-- The details of a failed check. -/
def details : Except String String → List String
  | .error detail => [detail]
  | .ok _ => []

/-- `fileValidationSchema.validate(body, options)` on the keys the handlers read, all errors
reported (`abortEarly: false`). -/
def schemaValidator (body : Body) : Except (List String) ValidatedFile :=
  match requiredString body "fileName" "\"fileName\" is required",
      requiredString body "filePath" "\"filePath\" is a required field" with
  | .ok fileName, .ok filePath => .ok ⟨fileName, filePath⟩
  | fileName, filePath => .error (details fileName ++ details filePath)

theorem requiredString_eq_ok {body : Body} {key required value : String} :
    requiredString body key required = .ok value ↔
      body.lookup key = some (.string value) ∧ value ≠ "" := by
  unfold requiredString
  cases found : body.lookup key with
  | none => simp
  | some given =>
    cases given with
    | other => simp
    | string given =>
      by_cases empty : given = ""
      · simp [empty]
      · simp only [if_neg empty, Except.ok.injEq, Option.some.injEq, JsonValue.string.injEq]
        constructor
        · rintro rfl
          exact ⟨rfl, empty⟩
        · rintro ⟨rfl, _⟩
          rfl

theorem standIn_joi : JoiSpec schemaValidator where
  rejects := by
    intro body unfilled
    unfold schemaValidator
    cases nameCheck : requiredString body "fileName" "\"fileName\" is required" with
    | error detail =>
      cases requiredString body "filePath" "\"filePath\" is a required field" with
      | error detail' => exact ⟨detail, [detail'], rfl⟩
      | ok _ => exact ⟨detail, [], rfl⟩
    | ok fileName =>
      cases pathCheck : requiredString body "filePath" "\"filePath\" is a required field" with
      | error detail => exact ⟨detail, [], rfl⟩
      | ok filePath =>
        -- both checks passed, so both keys hold non-empty strings
        have nameFilled : IsFilledString (body.lookup "fileName") := by
          obtain ⟨found, nonempty⟩ := requiredString_eq_ok.mp nameCheck
          rw [found]
          exact nonempty
        have pathFilled : IsFilledString (body.lookup "filePath") := by
          obtain ⟨found, nonempty⟩ := requiredString_eq_ok.mp pathCheck
          rw [found]
          exact nonempty
        exact absurd ⟨nameFilled, pathFilled⟩ unfilled
  accepts := by
    intro body fileName filePath nameFound pathFound nameFilled pathFilled _
    have nameOk : requiredString body "fileName" "\"fileName\" is required" = .ok fileName :=
      requiredString_eq_ok.mpr ⟨nameFound, nameFilled⟩
    have pathOk : requiredString body "filePath" "\"filePath\" is a required field" =
        .ok filePath := requiredString_eq_ok.mpr ⟨pathFound, pathFilled⟩
    rw [schemaValidator, nameOk, pathOk]

/-! ### Hashes -/

/-- The key bytes of a password, one character per byte. -/
def keyChars (password : String) : List Char :=
  (keyBytes password).map fun byte => Char.ofNat byte.toNat

/-- The stand-in's hash: the key bytes, one character each, then the salt. -/
def standInHash (password salt : String) : String := String.ofList (keyChars password) ++ salt

/-- The stand-in's `compare`: the first 72 characters of the hash are the key bytes. -/
def standInCompare (candidate hash : String) : Bool :=
  decide (hash.toList.take 72 = keyChars candidate)

/-- The signature of a token: the character codes of the secret. -/
def signatureOf (secret : String) : List Char := Text.encodeCodes (secret.toList.map Char.toNat)

def standInSign (id : ObjectId) (secret : String) : String :=
  toString id ++ "." ++ String.ofList (signatureOf secret)

def standInVerify (token secret : String) : Except JsError ObjectId :=
  match Text.splitOn '.' token.toList with
  | [digits, signature] =>
    if signature = signatureOf secret then
      match Text.parseDecimal (String.ofList digits) with
      | some id => .ok id
      | none => .error ⟨"JsonWebTokenError", "invalid token"⟩
    else .error ⟨"JsonWebTokenError", "invalid signature"⟩
  | _ => .error ⟨"JsonWebTokenError", "jwt malformed"⟩

theorem signatureOf_injective : Function.Injective signatureOf := by
  intro secret secret' same
  have codes := Text.encodeCodes_injective same
  have chars : secret.toList = secret'.toList :=
    (List.map_injective_iff.mpr fun _ _ equal => Char.toNat_inj.mp equal) codes
  exact String.toList_inj.mp chars

theorem mem_signatureOf {c : Char} {secret : String} (member : c ∈ signatureOf secret) :
    c.isDigit ∨ c = '-' :=
  Text.mem_encodeCodes member

theorem standInSign_toList (id : ObjectId) (secret : String) :
    (standInSign id secret).toList = Nat.toDigits 10 id ++ '.' :: signatureOf secret := by
  simp [standInSign, String.toList_append]

theorem splitOn_standInSign (id : ObjectId) (secret : String) :
    Text.splitOn '.' (standInSign id secret).toList = [Nat.toDigits 10 id, signatureOf secret] := by
  have digitsFree : '.' ∉ Nat.toDigits 10 id := fun member =>
    absurd (Nat.isDigit_of_mem_toDigits (by decide) (by decide) member) (by decide)
  have signatureFree : '.' ∉ signatureOf secret := by
    intro member
    rcases mem_signatureOf member with digit | dash
    · exact absurd digit (by decide)
    · exact absurd dash (by decide)
  rw [standInSign_toList, Text.splitOn_append_sep _ digitsFree,
    Text.splitOn_of_not_mem signatureFree]

theorem standIn_jwt : JwtSpec standInSign standInVerify where
  verify_sign_self := by
    intro id secret
    have parsed : Text.parseDecimal (String.ofList (Nat.toDigits 10 id)) = some id := by
      rw [← Nat.toString_eq_ofList_toDigits]
      exact Text.parseDecimal_toString id
    simp [standInVerify, splitOn_standInSign, parsed]
  verify_sign_other := by
    intro id secret secret' differ
    have signatures : signatureOf secret ≠ signatureOf secret' :=
      fun same => differ (signatureOf_injective same)
    refine ⟨⟨"JsonWebTokenError", "invalid signature"⟩, ?_⟩
    simp [standInVerify, splitOn_standInSign, signatures]
  sign_nonempty := by
    intro id secret empty
    have chars := congrArg String.toList empty
    rw [standInSign_toList] at chars
    cases digits : Nat.toDigits 10 id with
    | nil => exact Nat.toDigits_ne_nil digits
    | cons c rest => simp [digits] at chars
  sign_no_space := by
    intro id secret member
    rw [standInSign_toList, List.mem_append, List.mem_cons] at member
    rcases member with digit | dot | signed
    · exact absurd (Nat.isDigit_of_mem_toDigits (by decide) (by decide) digit) (by decide)
    · exact absurd dot (by decide)
    · rcases mem_signatureOf signed with digit | dash
      · exact absurd digit (by decide)
      · exact absurd dash (by decide)

/-! ### The platform -/

/-- A platform that meets `JoiSpec`, `BcryptSpec` and `JwtSpec`, with `JWT_SECRET` set, whose
process may remove any file: the root directory, the working directory, `uploads` and
`user_files` are its directories. -/
def standIn : Platform where
  validateSchema := schemaValidator
  hash := standInHash
  compare := standInCompare
  sign := standInSign
  verify := standInVerify
  jwtSecret := some "k"
  appDir := "/srv/file-manager"
  isDirectory path := decide (path ∈ ["/", ".", uploadsDestination, uploadDirectory "/srv/file-manager"])
  unlinkDenied _ := false

/-- The header a request authenticated as `id` on `standIn` carries. -/
def bearer (id : ObjectId) : Option String := some ("Bearer " ++ generateToken standIn id)

theorem authenticateToken_standIn (id : ObjectId) : authenticateToken standIn (bearer id) = .ok id :=
  authenticateToken_bearer standIn_jwt id
    ((secret_agree_iff standIn).mpr ⟨"k", rfl, by decide⟩)

end FileManager
