import Mathlib.Data.List.Basic

/-!
**Text: decimal stamps, splitting on a character, file extensions.**

Three pieces of string handling that the JavaScript platform provides and that a server built on it
relies on, stated over `List Char` where the proofs need it:

* `decimal_dash_inj` — **a decimal rendering followed by `-` is a prefix code**: from
  `toString t ++ "-" ++ a` both `t` and `a` can be read back, because decimal digits contain no `-`.
  This is what makes names of the form `${Date.now()}-${name}` collide exactly when both the
  timestamp and the name agree.
* `parseDecimal` — the number a string of decimal digits denotes, with `parseDecimal_toString`;
* `encodeCodes` — numbers written as decimal codes each followed by `-`, an injective encoding
  into digits and dashes;
* `split` — `String.prototype.split` with a one-character separator, with
  `splitOn_append_sep` (a separator-free prefix is the first piece).
* `extname` — Node's `path.extname`: the extension of the last segment of a path, and
  `toLowerCase` on ASCII letters.
-/

namespace Text

/-! ### A decimal stamp followed by a separator -/

/-- Two separator-free prefixes followed by the separator are equal when the strings are, and so
are the remainders. -/
theorem append_sep_cancel {sep : Char} {xs ys rest rest' : List Char} (leftFree : sep ∉ xs)
    (rightFree : sep ∉ ys) (equal : xs ++ sep :: rest = ys ++ sep :: rest') :
    xs = ys ∧ rest = rest' := by
  induction xs generalizing ys with
  | nil =>
    cases ys with
    | nil => simpa using equal
    | cons y ys =>
      simp only [List.nil_append, List.cons_append, List.cons.injEq] at equal
      exact absurd (by rw [equal.1]; exact List.mem_cons_self) rightFree
  | cons x xs ih =>
    cases ys with
    | nil =>
      simp only [List.nil_append, List.cons_append, List.cons.injEq] at equal
      exact absurd (by rw [← equal.1]; exact List.mem_cons_self) leftFree
    | cons y ys =>
      simp only [List.cons_append, List.cons.injEq] at equal
      obtain ⟨rfl, tails⟩ := equal
      have rest := ih (fun member => leftFree (List.mem_cons_of_mem _ member))
        (fun member => rightFree (List.mem_cons_of_mem _ member)) tails
      exact ⟨by rw [rest.1], rest.2⟩

/-- Decimal digits contain no character that is not a digit. -/
theorem not_mem_toDigits {c : Char} (notDigit : c.isDigit = false) (n : Nat) :
    c ∉ Nat.toDigits 10 n := by
  intro member
  have digit := Nat.isDigit_of_mem_toDigits (by decide) (by decide) member
  rw [notDigit] at digit
  exact Bool.false_ne_true digit

/-- Decimal digits contain no `-`. -/
theorem dash_not_mem_toDigits (n : Nat) : '-' ∉ Nat.toDigits 10 n :=
  not_mem_toDigits (by decide) n

/-- The decimal rendering of a number determines the number. -/
theorem toDigits_injective {m n : Nat} (equal : Nat.toDigits 10 m = Nat.toDigits 10 n) : m = n := by
  calc m = Nat.ofDigitChars 10 (Nat.toDigits 10 m) 0 := Nat.ofDigitChars_ten_toDigits.symm
    _ = Nat.ofDigitChars 10 (Nat.toDigits 10 n) 0 := by rw [equal]
    _ = n := Nat.ofDigitChars_ten_toDigits

theorem toList_decimal_dash (t : Nat) (name : String) :
    (toString t ++ "-" ++ name).toList = Nat.toDigits 10 t ++ '-' :: name.toList := by
  simp [String.toList_append]

/-- **A decimal stamp followed by `-` is a prefix code.** -/
theorem decimal_dash_inj {t u : Nat} {name name' : String} :
    toString t ++ "-" ++ name = toString u ++ "-" ++ name' ↔ t = u ∧ name = name' := by
  constructor
  · intro equal
    have lists := congrArg String.toList equal
    rw [toList_decimal_dash, toList_decimal_dash] at lists
    obtain ⟨digits, rest⟩ :=
      append_sep_cancel (dash_not_mem_toDigits t) (dash_not_mem_toDigits u) lists
    exact ⟨toDigits_injective digits, String.toList_inj.mp rest⟩
  · rintro ⟨rfl, rfl⟩
    rfl

/-- The value of a list of decimal digits, read from the left onto `acc`, or `none` if a
character is not a digit. -/
def digitsValue (acc : Nat) : List Char → Option Nat
  | [] => some acc
  | c :: rest => if c.isDigit then digitsValue (10 * acc + (c.toNat - '0'.toNat)) rest else none

/-- The number a non-empty string of decimal digits denotes. -/
def parseDecimal (text : String) : Option Nat :=
  match text.toList with
  | [] => none
  | digits => digitsValue 0 digits

theorem digitsValue_of_isDigit {digits : List Char} (allDigits : ∀ c ∈ digits, c.isDigit) :
    ∀ acc, digitsValue acc digits = some (Nat.ofDigitChars 10 digits acc) := by
  induction digits with
  | nil => intro acc; simp [digitsValue, Nat.ofDigitChars_nil]
  | cons c rest ih =>
    intro acc
    have head : c.isDigit = true := allDigits c List.mem_cons_self
    rw [digitsValue, if_pos head, Nat.ofDigitChars_cons]
    exact ih (fun d member => allDigits d (List.mem_cons_of_mem _ member)) _

/-- **Parsing reads back a decimal rendering.** -/
theorem parseDecimal_toString (n : Nat) : parseDecimal (toString n) = some n := by
  have chars : (toString n).toList = Nat.toDigits 10 n := by simp
  have allDigits : ∀ c ∈ Nat.toDigits 10 n, c.isDigit := fun c member =>
    Nat.isDigit_of_mem_toDigits (by decide) (by decide) member
  have value := digitsValue_of_isDigit allDigits 0
  rw [Nat.ofDigitChars_ten_toDigits] at value
  unfold parseDecimal
  rw [chars]
  cases digits : Nat.toDigits 10 n with
  | nil => exact absurd digits Nat.toDigits_ne_nil
  | cons c rest =>
    rw [digits] at value
    exact value

/-! ### Codes separated by `-` -/

/-- A list of numbers written as decimal codes, each followed by `-`. -/
def encodeCodes (codes : List Nat) : List Char :=
  codes.flatMap fun code => Nat.toDigits 10 code ++ ['-']

theorem encodeCodes_injective : Function.Injective encodeCodes := by
  intro codes
  induction codes with
  | nil =>
    intro other equal
    cases other with
    | nil => rfl
    | cons code rest => simp [encodeCodes] at equal
  | cons code rest ih =>
    intro other equal
    cases other with
    | nil => simp [encodeCodes] at equal
    | cons code' rest' =>
      simp only [encodeCodes, List.flatMap_cons, List.append_assoc, List.cons_append,
        List.nil_append] at equal
      obtain ⟨digits, tails⟩ :=
        append_sep_cancel (dash_not_mem_toDigits code) (dash_not_mem_toDigits code') equal
      rw [toDigits_injective digits, ih tails]

theorem mem_encodeCodes {c : Char} {codes : List Nat} (member : c ∈ encodeCodes codes) :
    c.isDigit ∨ c = '-' := by
  simp only [encodeCodes, List.mem_flatMap, List.mem_append, List.mem_singleton] at member
  obtain ⟨code, _, digit | dash⟩ := member
  · exact .inl (Nat.isDigit_of_mem_toDigits (by decide) (by decide) digit)
  · exact .inr dash

/-! ### `String.prototype.split` with a one-character separator -/

/-- The pieces of a list between occurrences of `sep`, empty pieces included: `a b` gives
`[a, b]`, `a  b` gives `[a, "", b]`, and the empty list gives one empty piece. -/
def splitOn (sep : Char) : List Char → List (List Char)
  | [] => [[]]
  | c :: rest =>
    if c = sep then [] :: splitOn sep rest
    else
      match splitOn sep rest with
      | piece :: pieces => (c :: piece) :: pieces
      | [] => [[c]]

/-- `s.split(sep)` for a one-character separator. -/
def split (s : String) (sep : Char) : List String :=
  (splitOn sep s.toList).map String.ofList

/-- A list without the separator is one piece. -/
theorem splitOn_of_not_mem {sep : Char} {xs : List Char} (free : sep ∉ xs) :
    splitOn sep xs = [xs] := by
  induction xs with
  | nil => rfl
  | cons c rest ih =>
    have head : c ≠ sep := fun same => free (same ▸ List.mem_cons_self)
    rw [splitOn, if_neg head, ih (fun member => free (List.mem_cons_of_mem _ member))]

/-- A separator-free prefix followed by the separator is the first piece. -/
theorem splitOn_append_sep {sep : Char} {xs : List Char} (rest : List Char) (free : sep ∉ xs) :
    splitOn sep (xs ++ sep :: rest) = xs :: splitOn sep rest := by
  induction xs with
  | nil => simp [splitOn]
  | cons c cs ih =>
    have head : c ≠ sep := fun same => free (same ▸ List.mem_cons_self)
    rw [List.cons_append, splitOn, if_neg head,
      ih (fun member => free (List.mem_cons_of_mem _ member))]

/-! ### `path.extname` -/

/-- The extension of one path segment, as Node computes it: from the last `.` to the end, or
empty when there is no `.`, when the only `.` before the extension is the segment's first
character, or when the segment is `..`. -/
def extnameOfSegment (segment : List Char) : List Char :=
  -- the characters after the last `.`, in reverse order
  let tail := segment.reverse.takeWhile (· ≠ '.')
  if tail.length = segment.length then []
  else if tail.length + 1 = segment.length then []
  else if segment = ['.', '.'] then []
  else '.' :: tail.reverse

/-- `path.extname(path)`: the extension of the last segment, trailing `/` ignored. -/
def extname (path : String) : String :=
  let trimmed := path.toList.reverse.dropWhile (· = '/')
  String.ofList (extnameOfSegment (trimmed.takeWhile (· ≠ '/')).reverse)

/-- `s.toLowerCase()` on ASCII letters (`Char.toLower`). JavaScript also lowers other letters,
but none of them lowers to an ASCII letter except the Kelvin sign, to `k`. -/
def toLowerCase (s : String) : String := String.ofList (s.toList.map Char.toLower)

example : extname "report.final.PDF" = ".PDF" := by decide
example : extname ".bashrc" = "" := by decide

end Text
