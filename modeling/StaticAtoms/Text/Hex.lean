import StaticAtoms.Text.Utf8

/-!
# Hexadecimal digits

* `Hex.fixed` writes a number with a given count of lowercase digits.
* `Hex.shortest` writes it without leading zeros.
* `Hex.ofBytes` writes two digits per byte, and `Hex.bytes?` reads such a text back.
-/

namespace StaticAtoms.Hex

/-- The last `width` lowercase digits of a number, the most significant first. -/
def fixed : (width : Nat) → (value : Nat) → List Char
  | 0, _ => []
  | width + 1, value => fixed width (value / 16) ++ [Nat.digitChar (value % 16)]

/-- The last `width` uppercase digits of a number, the most significant first. -/
def fixedUpper (width value : Nat) : List Char :=
  (fixed width value).map Char.toUpper

/-- The lowercase digits of a number, without leading zeros. -/
def shortest (value : Nat) : List Char :=
  Nat.toDigits 16 value

/-- Eight lowercase digits. -/
def word (value : UInt32) : String :=
  String.ofList (fixed 8 value.toNat)

/-- The value of a digit of either case. -/
def digit? (c : Char) : Option Nat :=
  if '0' ≤ c ∧ c ≤ '9' then some (c.toNat - '0'.toNat)
  else if 'a' ≤ c ∧ c ≤ 'f' then some (c.toNat - 'a'.toNat + 10)
  else if 'A' ≤ c ∧ c ≤ 'F' then some (c.toNat - 'A'.toNat + 10)
  else none

/-- Two lowercase digits per byte. -/
def ofBytes (bytes : Bytes) : String :=
  String.ofList (bytes.flatMap fun byte => fixed 2 byte.toNat)

/-- The bytes that a list of digit pairs denotes. -/
def pairs? : List Char → Option Bytes
  | [] => some []
  | high :: low :: rest => do
      let byte := UInt8.ofNat (16 * (← digit? high) + (← digit? low))
      return byte :: (← pairs? rest)
  | [_] => none

/-- The bytes that a text of digit pairs denotes. -/
def bytes? (text : String) : Option Bytes :=
  pairs? text.toList

@[simp] theorem length_fixed (width value : Nat) : (fixed width value).length = width := by
  induction width generalizing value with
  | zero => rfl
  | succ width ih => simp [fixed, ih]

end StaticAtoms.Hex
