import StaticAtoms.Hash.Basic
import StaticAtoms.Proofs.Text.Utf16

/-!
# Capitals in two encodings

A text has an ASCII capital among its bytes if and only if it has one among its code units.  No other
byte of a character and no half of a surrogate pair is ever taken for one, so that both tests come to a
test of the characters: `isLowercase_eq_all` and `isLowercaseUnits_units`.

`isLowercase_agrees` is the main statement.
-/

namespace StaticAtoms

/-- The capitals of ASCII. -/
def isCapital (c : Char) : Bool :=
  0x41 ≤ c.toNat && c.toNat ≤ 0x5A

theorem all_utf8EncodeChar (c : Char) :
    ((String.utf8EncodeChar c).all fun byte => !(0x41 ≤ byte && byte ≤ 0x5A)) = !isCapital c := by
  have value : c.val.toNat = c.toNat := rfl
  rw [Bool.eq_iff_iff]
  simp only [String.utf8EncodeChar, isCapital, value]
  -- A character has one byte, which is its code point, or several, all of which are large.
  split
  · simp [UInt8.le_iff_toNat_le]
    omega
  split
  · simp [UInt8.le_iff_toNat_le]
    omega
  split
  · simp [UInt8.le_iff_toNat_le]
    omega
  · simp [UInt8.le_iff_toNat_le]
    omega

theorem all_ofChar (c : Char) :
    ((Utf16.ofChar c).all fun unit => !(0x41 ≤ unit && unit ≤ 0x5A)) = !isCapital c := by
  have valid := Utf16.toNat_char c
  rw [Bool.eq_iff_iff]
  simp only [Utf16.ofChar, isCapital]
  split
  · simp [UInt16.le_iff_toNat_le]
    omega
  · simp [UInt16.le_iff_toNat_le]
    omega

theorem isLowercase_eq_all (text : String) :
    isLowercase text = text.toList.all fun c => !isCapital c := by
  simp only [isLowercase, Text.utf8_eq_flatMap, List.all_flatMap, all_utf8EncodeChar]

theorem isLowercaseUnits_units (text : String) :
    isLowercaseUnits (Utf16.units text) = text.toList.all fun c => !isCapital c := by
  simp only [isLowercaseUnits, Utf16.units, Utf16.ofChars, List.all_flatMap, all_ofChar]

theorem isLowercase_eq_isLowercaseUnits (text : String) :
    isLowercase text = isLowercaseUnits (Utf16.units text) := by
  rw [isLowercase_eq_all, isLowercaseUnits_units]

theorem isCapital_iff {c : Char} : isCapital c ↔ 'A' ≤ c ∧ c ≤ 'Z' := by
  rw [isCapital, Bool.and_eq_true, decide_eq_true_iff, decide_eq_true_iff]
  exact Iff.rfl

theorem isLowercase_eq_false_iff {text : String} :
    isLowercase text = false ↔ ∃ c ∈ text.toList, 'A' ≤ c ∧ c ≤ 'Z' := by
  simp only [isLowercase_eq_all, List.all_eq_false, Bool.not_eq_true', Bool.not_eq_false,
    isCapital_iff]

/-! ## Parts of characters -/

theorem isCapital_eq_false_of_several {c : Char} (several : 1 < (String.utf8EncodeChar c).length) :
    isCapital c = false := by
  rw [String.length_utf8EncodeChar] at several
  have beyond : ¬ c.toNat ≤ 0x7F := fun ascii =>
    Nat.ne_of_gt several (Char.utf8Size_eq_one_iff.2 ascii)
  rw [isCapital, Bool.and_eq_false_iff, decide_eq_false_iff_not, decide_eq_false_iff_not]
  omega

/-- No byte of a character that has several is a capital of its own. -/
theorem not_capital_of_several {c : Char} (several : 1 < (String.utf8EncodeChar c).length)
    {byte : UInt8} (member : byte ∈ String.utf8EncodeChar c) :
    ¬ (0x41 ≤ byte ∧ byte ≤ 0x5A) := by
  have bytes := all_utf8EncodeChar c
  rw [isCapital_eq_false_of_several several, Bool.not_false, List.all_eq_true] at bytes
  rintro ⟨above, below⟩
  have free := bytes byte member
  rw [decide_eq_true above, decide_eq_true below] at free
  cases free

/-- No half of a surrogate pair is a capital. -/
theorem not_capital_of_half {unit : UInt16} (half : Utf16.isHigh unit ∨ Utf16.isLow unit) :
    ¬ (0x41 ≤ unit ∧ unit ≤ 0x5A) := by
  rw [Utf16.isHigh_iff, Utf16.isLow_iff] at half
  rintro ⟨-, below⟩
  have bound : unit.toNat ≤ 0x5A := UInt16.le_iff_toNat_le.1 below
  omega

/-! ## Parts of texts -/

theorem isLowercase_join (texts : List String) :
    isLowercase (String.join texts) = texts.all isLowercase := by
  rw [isLowercase_eq_all, String.toList_join, List.all_flatMap]
  exact congrArg texts.all (funext fun text => (isLowercase_eq_all text).symm)

/-- The bytes of a text and its code units say the same about capitals, and they say that there is one
if and only if a character of the text is one.  Neither a byte of a character with several bytes nor
half of a surrogate pair is taken for a capital.  A text in parts has none if no part has one. -/
theorem isLowercase_agrees (text : String) :
    isLowercase text = isLowercaseUnits (Utf16.units text) ∧
    (isLowercase text = false ↔ ∃ c ∈ text.toList, 'A' ≤ c ∧ c ≤ 'Z') ∧
    (isLowercaseUnits (Utf16.units text) = false ↔ ∃ c ∈ text.toList, 'A' ≤ c ∧ c ≤ 'Z') ∧
    (∀ c : Char, 1 < (String.utf8EncodeChar c).length →
      ∀ byte ∈ String.utf8EncodeChar c, ¬ (0x41 ≤ byte ∧ byte ≤ 0x5A)) ∧
    (∀ unit, Utf16.isHigh unit ∨ Utf16.isLow unit → ¬ (0x41 ≤ unit ∧ unit ≤ 0x5A)) ∧
    ∀ parts : List String, String.join parts = text →
      (isLowercase text ↔ ∀ part ∈ parts, isLowercase part) ∧
      (isLowercaseUnits (Utf16.units text) ↔
        ∀ part ∈ parts, isLowercaseUnits (Utf16.units part)) := by
  simp only [← isLowercase_eq_isLowercaseUnits]
  refine ⟨trivial, isLowercase_eq_false_iff, isLowercase_eq_false_iff,
    fun c several byte => not_capital_of_several several, fun unit => not_capital_of_half, ?_⟩
  rintro parts rfl
  rw [isLowercase_join, List.all_eq_true]
  exact ⟨Iff.rfl, Iff.rfl⟩

/-- A capital behind characters of two and of four bytes. -/
theorem isLowercase_agrees_astral :
    isLowercase "À😀B" = false ∧ isLowercaseUnits (Utf16.units "À😀B") = false ∧
      (∀ byte ∈ String.utf8EncodeChar '😀', ¬ (0x41 ≤ byte ∧ byte ≤ 0x5A)) ∧
      ¬ ((0x41 : UInt16) ≤ 0xD83D ∧ (0xD83D : UInt16) ≤ 0x5A) ∧
      ¬ ∀ part ∈ ["À😀", "B"], isLowercase part := by
  obtain ⟨-, bytes, units, several, half, whole⟩ := isLowercase_agrees "À😀B"
  have capital : ∃ c ∈ "À😀B".toList, 'A' ≤ c ∧ c ≤ 'Z' := ⟨'B', by decide, by decide⟩
  have found : isLowercase "À😀B" = false := bytes.2 capital
  refine ⟨found, units.2 capital, several '😀' (by decide), half _ (.inl rfl), fun parts => ?_⟩
  have free := (whole ["À😀", "B"] rfl).1.2 parts
  rw [found] at free
  cases free

end StaticAtoms
