import StaticAtoms.Text.Utf16

/-!
# Characters and their code units

`Utf16.ofChar_eq_single_iff` and `Utf16.ofChar_eq_pair_iff` say which characters have given code units:
a unit that is no half of a pair stands for one character, and so do two halves in their order.
-/

namespace StaticAtoms.Utf16

theorem isHigh_iff {unit : UInt16} : isHigh unit ↔ 0xD800 ≤ unit.toNat ∧ unit.toNat ≤ 0xDBFF := by
  simp only [isHigh, UInt16.le_iff_toNat_le, Bool.and_eq_true, decide_eq_true_eq]
  exact Iff.rfl

theorem isLow_iff {unit : UInt16} : isLow unit ↔ 0xDC00 ≤ unit.toNat ∧ unit.toNat ≤ 0xDFFF := by
  simp only [isLow, UInt16.le_iff_toNat_le, Bool.and_eq_true, decide_eq_true_eq]
  exact Iff.rfl

/-- No code point is half of a surrogate pair. -/
theorem toNat_char (c : Char) : c.toNat < 0xD800 ∨ 0xDFFF < c.toNat ∧ c.toNat < 0x110000 :=
  c.valid

theorem toNat_ofNat_char {value : Nat}
    (valid : value < 0xD800 ∨ 0xDFFF < value ∧ value < 0x110000) :
    (Char.ofNat value).toNat = value := by
  have isValid : value.isValidChar := valid
  rw [Char.ofNat, dif_pos isValid]
  rfl

/-- A character has one unit if and only if the unit is no half of a pair and is its code point. -/
theorem ofChar_eq_single_iff {c : Char} {unit : UInt16} :
    ofChar c = [unit] ↔ isHigh unit = false ∧ isLow unit = false ∧ c = Char.ofNat unit.toNat := by
  rw [Bool.eq_false_iff, Bool.eq_false_iff, ne_eq, ne_eq, isHigh_iff, isLow_iff]
  constructor
  · intro same
    rw [ofChar] at same
    split at same
    next small =>
      obtain ⟨rfl, -⟩ := List.cons.inj same
      have value : (UInt16.ofNat c.toNat).toNat = c.toNat := UInt16.toNat_ofNat_of_lt' small
      have valid := toNat_char c
      rw [value, Char.ofNat_toNat]
      exact ⟨by omega, by omega, rfl⟩
    next => cases same
  · rintro ⟨notHigh, notLow, rfl⟩
    have bound := unit.toNat_lt
    have value : (Char.ofNat unit.toNat).toNat = unit.toNat := toNat_ofNat_char (by omega)
    rw [ofChar, value, if_pos bound, UInt16.ofNat_toNat]

theorem toNat_combine {high low : UInt16} (isHigh : isHigh high) (isLow : isLow low) :
    (combine high low).toNat = 0x10000 + (high.toNat - 0xD800) * 0x400 + (low.toNat - 0xDC00) := by
  rw [isHigh_iff] at isHigh
  rw [isLow_iff] at isLow
  rw [combine, toNat_ofNat_char (by omega)]

/-- A character has two units if and only if they are the halves of a pair that stands for it. -/
theorem ofChar_eq_pair_iff {c : Char} {high low : UInt16} :
    ofChar c = [high, low] ↔ isHigh high ∧ isLow low ∧ c = combine high low := by
  constructor
  · intro same
    rw [ofChar] at same
    split at same
    next => cases same
    next large =>
      obtain ⟨rfl, rest⟩ := List.cons.inj same
      obtain ⟨rfl, -⟩ := List.cons.inj rest
      have valid := toNat_char c
      -- The code point behind the first 0x10000, in two parts of ten bits.
      have first : 0xD800 + (c.toNat - 0x10000) / 0x400 < 0x10000 := by omega
      have second : 0xDC00 + (c.toNat - 0x10000) % 0x400 < 0x10000 := by omega
      have sum : 0x10000 + (0xD800 + (c.toNat - 0x10000) / 0x400 - 0xD800) * 0x400 +
          (0xDC00 + (c.toNat - 0x10000) % 0x400 - 0xDC00) = c.toNat := by omega
      rw [isHigh_iff, isLow_iff, combine, UInt16.toNat_ofNat_of_lt' first,
        UInt16.toNat_ofNat_of_lt' second, sum, Char.ofNat_toNat]
      exact ⟨by omega, by omega, rfl⟩
  · intro ⟨firstHalf, secondHalf, same⟩
    have value := toNat_combine firstHalf secondHalf
    rw [← same] at value
    rw [isHigh_iff] at firstHalf
    rw [isLow_iff] at secondHalf
    have first : 0xD800 + (c.toNat - 0x10000) / 0x400 = high.toNat := by omega
    have second : 0xDC00 + (c.toNat - 0x10000) % 0x400 = low.toNat := by omega
    rw [ofChar, if_neg (by omega), first, second, UInt16.ofNat_toNat, UInt16.ofNat_toNat]

end StaticAtoms.Utf16
