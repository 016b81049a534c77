import StaticAtoms.Json.Blank

/-!
# Numerals

* `Json.Numeral` is a number as it is spelled, split into its parts; `Numeral.scan` splits it.
* `Json.Number` is what it denotes: an integer of at most 64 bits, or a double as its shortest
  decimal.  `Numeral.number` computes it and says when a number is out of range.

`Numeral.length_scan` says that a numeral takes at least one character.
-/

namespace StaticAtoms.Json

/-! ## Spelling -/

/-- The power of ten behind the digits of a numeral. -/
structure Exponent where
  negative : Bool
  digits : List Char
deriving DecidableEq

/-- A number as it is spelled.  The fraction is missing, or has a digit. -/
structure Numeral where
  negative : Bool
  whole : List Char
  fraction : Option (List Char)
  exponent : Option Exponent
deriving DecidableEq

namespace Numeral

/-- Splits leading decimal digits off. -/
def digits (s : List Char) : List Char × List Char :=
  (s.takeWhile Char.isDigit, s.dropWhile Char.isDigit)

/-- The failure where a digit is wanted: for the reason `atEnd` at the end of the text. -/
def noDigit (atEnd : Problem) (s : List Char) : Failure :=
  .next (if s.isEmpty then atEnd else .notANumber) s

/-- At least one digit. -/
def someDigits (atEnd : Problem) (s : List Char) : Except Failure (List Char × List Char) :=
  match digits s with
  | ([], _) => .error (noDigit atEnd s)
  | (digits, rest) => .ok (digits, rest)

/-- The digits before the point: a zero stands alone. -/
def scanWhole (atEnd : Problem) : List Char → Except Failure (List Char × List Char)
  | '0' :: rest =>
      if (digits rest).1.isEmpty then .ok (['0'], rest) else .error (.next .notANumber rest)
  | s => someDigits atEnd s

/-- The digits behind a point, if there is a point. -/
def scanFraction (atEnd : Problem) :
    List Char → Except Failure (Option (List Char) × List Char)
  | '.' :: s =>
      match someDigits atEnd s with
      | .error failure => .error failure
      | .ok (digits, rest) => .ok (some digits, rest)
  | s => .ok (none, s)

/-- Takes a sign off, and says whether it was a minus. -/
def scanSign : List Char → Bool × List Char
  | '-' :: rest => (true, rest)
  | '+' :: rest => (false, rest)
  | s => (false, s)

/-- The exponent, if there is one. -/
def scanExponent (atEnd : Problem) (s : List Char) :
    Except Failure (Option Exponent × List Char) :=
  match s with
  | [] => .ok (none, [])
  | c :: rest =>
      if c = 'e' ∨ c = 'E' then
        match someDigits atEnd (scanSign rest).2 with
        | .error failure => .error failure
        | .ok (digits, rest') => .ok (some ⟨(scanSign rest).1, digits⟩, rest')
      else .ok (none, c :: rest)

/-- Takes a minus off. -/
def scanMinus : List Char → Bool × List Char
  | '-' :: rest => (true, rest)
  | s => (false, s)

/-- Reads a numeral.  Where a digit is wanted and the text ends, the reason is `atEnd`. -/
def scan (atEnd : Problem) (s : List Char) : Except Failure (Numeral × List Char) :=
  match scanWhole atEnd (scanMinus s).2 with
  | .error failure => .error failure
  | .ok (whole, afterWhole) =>
      match scanFraction atEnd afterWhole with
      | .error failure => .error failure
      | .ok (fraction, afterFraction) =>
          match scanExponent atEnd afterFraction with
          | .error failure => .error failure
          | .ok (exponent, rest) => .ok (⟨(scanMinus s).1, whole, fraction, exponent⟩, rest)

theorem length_digits (s : List Char) :
    (digits s).1.length + (digits s).2.length = s.length := by
  rw [← List.length_append, digits, List.takeWhile_append_dropWhile]

theorem length_someDigits {atEnd : Problem} {s digits rest : List Char}
    (read : someDigits atEnd s = .ok (digits, rest)) : rest.length < s.length := by
  have whole := length_digits s
  unfold someDigits at read
  split at read
  · simp at read
  · rename_i found _ nonempty split
    rw [split] at whole
    simp only [Except.ok.injEq, Prod.mk.injEq] at read
    obtain ⟨rfl, rfl⟩ := read
    cases found with
    | nil => simp at nonempty
    | cons _ _ => simp only [List.length_cons] at whole; omega

theorem length_scanWhole {atEnd : Problem} {s digits rest : List Char}
    (read : scanWhole atEnd s = .ok (digits, rest)) : rest.length < s.length := by
  unfold scanWhole at read
  grind [→ length_someDigits]

theorem length_scanFraction {atEnd : Problem} {s rest : List Char} {digits : Option (List Char)}
    (read : scanFraction atEnd s = .ok (digits, rest)) : rest.length ≤ s.length := by
  unfold scanFraction at read
  grind [→ length_someDigits]

theorem length_scanSign (s : List Char) : (scanSign s).2.length ≤ s.length := by
  unfold scanSign
  grind

theorem length_scanMinus (s : List Char) : (scanMinus s).2.length ≤ s.length := by
  unfold scanMinus
  grind

theorem length_scanExponent {atEnd : Problem} {s rest : List Char} {exponent : Option Exponent}
    (read : scanExponent atEnd s = .ok (exponent, rest)) : rest.length ≤ s.length := by
  unfold scanExponent at read
  grind [→ length_someDigits, length_scanSign]

theorem length_scan {atEnd : Problem} {s rest : List Char} {numeral : Numeral}
    (read : scan atEnd s = .ok (numeral, rest)) : rest.length < s.length := by
  unfold scan at read
  have := length_scanMinus s
  grind [→ length_scanWhole, → length_scanFraction, → length_scanExponent]

end Numeral

/-! ## Value -/

/-- What a numeral denotes. -/
inductive Number where
  | integer (value : Int)
  | real (value : Decimal)
deriving DecidableEq

/-- How a number is called in a message. -/
def Number.found : Number → Found
  | integer value => .integer value
  | real value => .real value

namespace Numeral

/-- Gathered digits stay below this number, the first that takes more than 64 bits. -/
def wordLimit : Nat := 0x10000000000000000

/-- The magnitude of the least integer of 64 bits. -/
def signedLimit : Nat := 0x8000000000000000

/-- Exponents stay below this number, the first that takes more than 31 bits. -/
def exponentLimit : Nat := 0x80000000

/-- The value of a decimal digit. -/
def digitValue (c : Char) : Nat :=
  c.toNat - '0'.toNat

/-- Appends digits to a number as long as it stays below `limit`; the others are handed back. -/
def gather (limit value : Nat) : List Char → Nat × List Char
  | [] => (value, [])
  | c :: rest =>
      let extended := 10 * value + digitValue c
      if extended < limit then gather limit extended rest else (value, c :: rest)

/-- Multiplies by a power of ten in double precision: one multiplication or division up to 308, and
below that divisions by `10 ^ 308` first.  There is no result when it would be infinite. -/
def scaleTen (value : Float) (exponent : Int) : Option Float :=
  if exponent.natAbs ≤ 308 then
    let power := Float.ofScientific 1 false exponent.natAbs
    if exponent < 0 then some (value / power)
    else if (value * power).isInf then none
    else some (value * power)
  else if value == 0 then some value
  else if 0 < exponent then none
  else scaleTen (value / Float.ofScientific 1 false 308) (exponent + 308)
termination_by exponent.natAbs

/-- The double nearest to `significand · 10 ^ exponent`, up to the rounding of each step, with a
sign. -/
def real? (negative : Bool) (significand : Nat) (exponent : Int) : Option Number :=
  (scaleTen significand.toUInt64.toFloat exponent).map fun value =>
    .real { Decimal.ofFloat value with negative }

/-- A numeral without fraction and exponent whose digits fit in 64 bits.  A negative zero and what
lies below the signed range are doubles. -/
def integral (negative : Bool) (significand : Nat) : Number :=
  if !negative then .integer significand
  else if 0 < significand ∧ significand ≤ signedLimit then .integer (-significand)
  else .real { Decimal.ofFloat significand.toUInt64.toFloat with negative }

/-- What a numeral in front of `rest` denotes.

Digits are gathered as long as they fit in 64 bits; the others before the point count as powers of
ten, those behind it are dropped.  An exponent of more than 31 bits is out of range, right behind the
digit that makes it so, unless it is negative or all gathered digits are zero. -/
def number (numeral : Numeral) (rest : List Char) : Except Failure Number :=
  let (significand, unfit) := gather wordLimit 0 numeral.whole
  if unfit.isEmpty ∧ numeral.fraction.isNone ∧ numeral.exponent.isNone then
    .ok (integral numeral.negative significand)
  else
    let fraction := numeral.fraction.getD []
    let (significand, dropped) := gather wordLimit significand fraction
    let shift : Int := unfit.length - (fraction.length - dropped.length : Nat)
    let scaled (exponent : Int) : Except Failure Number :=
      match real? numeral.negative significand exponent with
      | some value => .ok value
      | none => .error (.here .outOfRange rest)
    match numeral.exponent with
    | none => scaled shift
    | some exponent =>
        match gather exponentLimit 0 exponent.digits with
        | (power, []) => scaled (if exponent.negative then shift - power else shift + power)
        | (_, _ :: unread) =>
            if significand ≠ 0 ∧ !exponent.negative then
              .error (.here .outOfRange (unread ++ rest))
            else .ok (.real ⟨numeral.negative, 0, 0⟩)

end Numeral

/-- Reads a number. -/
def readNumber (s : List Char) : Except Failure (Number × List Char) :=
  match Numeral.scan .endInValue s with
  | .error failure => .error failure
  | .ok (numeral, rest) =>
      match numeral.number rest with
      | .error failure => .error failure
      | .ok number => .ok (number, rest)

/-- Passes over a number, whatever it denotes. -/
def skipNumber (s : List Char) : Except Failure (List Char) :=
  match Numeral.scan .notANumber s with
  | .error failure => .error failure
  | .ok (_, rest) => .ok rest

theorem length_readNumber {s rest : List Char} {number : Number}
    (read : readNumber s = .ok (number, rest)) : rest.length < s.length := by
  unfold readNumber at read
  grind [→ Numeral.length_scan]

theorem length_skipNumber {s rest : List Char} (read : skipNumber s = .ok rest) :
    rest.length < s.length := by
  unfold skipNumber at read
  grind [→ Numeral.length_scan]

end StaticAtoms.Json
