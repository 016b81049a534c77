import StaticAtoms.Json.Writer
import StaticAtoms.Proofs.Json.Texts
import StaticAtoms.Proofs.Text.Hex

/-!
# Texts, numbers and truth values read back

What `Json.writeText`, `Json.writeNat` and `Json.writeFlag` write is read as the value that was
written: `reads_writeText`, `reads_writeNat` and `reads_writeFlag`.  For texts this is a matter of the
grammar: `textForm_writeText`.
-/

namespace StaticAtoms.Json

/-! ## Texts -/

theorem isHexDigit_digitChar (value : Nat) : IsHexDigit (value % 16) (Nat.digitChar (value % 16)) :=
  isHexDigit_of_digit? (Hex.digit?_digitChar (Nat.mod_lt _ (by decide)))

theorem unitForm_fixed {value : Nat} (bound : value < 0x10000) (rest : List Char) :
    UnitForm (UInt16.ofNat value) (Hex.fixed 4 value ++ rest) rest := by
  rw [Hex.fixed_four]
  refine .digits (isHexDigit_digitChar _) (isHexDigit_digitChar _) (isHexDigit_digitChar _)
    (isHexDigit_digitChar _) ?_
  -- The digits, read from the left, add up to the number.
  rw [UInt16.toNat_ofNat_of_lt' bound]
  omega

/-- Every character is spelled in one of its forms: a short escape, digits for the other control
characters, and the character itself for the rest. -/
theorem charForm_spell (c : Char) (rest : List Char) : CharForm c (spell c ++ rest) rest := by
  unfold spell
  split
  case h_8 notQuote notBackslash _ _ _ _ _ =>
    split
    next control =>
      have bound : c.toNat < 0x10000 := Nat.lt_trans control (by decide)
      have units : Utf16.ofChar c = [UInt16.ofNat c.toNat] := by rw [Utf16.ofChar, if_pos bound]
      exact .unicode (.single units (unitForm_fixed bound rest))
    next visible => exact .raw visible notQuote notBackslash
  all_goals exact .short (by decide)

theorem charsForm_spell (chars rest : List Char) :
    CharsForm chars (chars.flatMap spell ++ rest) rest := by
  induction chars with
  | nil => exact .nil
  | cons c chars ih =>
    rw [List.flatMap_cons, List.append_assoc]
    exact .cons (charForm_spell c _) ih

theorem textForm_writeText (text : String) (rest : List Char) :
    TextForm text (writeText text ++ rest) rest := by
  have form := charsForm_spell text.toList ('"' :: rest)
  rw [writeText, List.cons_append, List.cons_append, List.append_assoc]
  exact .quoted form

theorem reads_writeText (text : String) : Reads .text (writeText text) text := by
  intro blanks rest blank delimited
  exact textAt_eq_ok_iff.2 ⟨_, ⟨blanks, blank, rfl⟩, textForm_writeText text rest⟩

/-! ## Numbers -/

namespace Numeral

/-- What can follow a number: no digit, point or letter of an exponent. -/
theorem not_isDigit_of_delimited {c : Char} {rest : List Char} (delimited : Delimited (c :: rest)) :
    c.isDigit = false ∧ c ≠ '.' ∧ c ≠ 'e' ∧ c ≠ 'E' := by
  obtain blank | rfl | rfl | rfl := delimited
  · simp only [isBlank, Bool.or_eq_true, decide_eq_true_eq] at blank
    obtain ((rfl | rfl) | rfl) | rfl := blank <;> decide
  all_goals decide

theorem isBlank_of_isDigit {c : Char} (digit : c.isDigit) : isBlank c = false := by
  cases blank : isBlank c with
  | false => rfl
  | true =>
    have delimited : Delimited [c] := .inl blank
    exact absurd digit (Bool.eq_false_iff.1 (not_isDigit_of_delimited delimited).1)

theorem digits_append {digitRun rest : List Char} (all : ∀ c ∈ digitRun, c.isDigit)
    (delimited : Delimited rest) : digits (digitRun ++ rest) = (digitRun, rest) := by
  rw [digits, List.takeWhile_append_of_pos all, List.dropWhile_append_of_pos all]
  cases rest with
  | nil => simp
  | cons c rest =>
    obtain ⟨noDigit, -⟩ := not_isDigit_of_delimited delimited
    simp [noDigit]

theorem isDigit_of_mem_toDigits {value : Nat} : ∀ c ∈ Nat.toDigits 10 value, c.isDigit :=
  fun _ member => Nat.isDigit_of_mem_toDigits (by decide) (by decide) member

/-- Only zero is written with a zero in front. -/
theorem eq_zero_of_toDigits {value : Nat} {others : List Char}
    (written : Nat.toDigits 10 value = '0' :: others) : value = 0 := by
  induction value using Nat.strongRecOn generalizing others with
  | ind value ih =>
    rw [Nat.toDigits_eq_if (by decide)] at written
    split at written
    next small =>
      obtain ⟨first, -⟩ := List.cons.inj written
      have digit : ∀ value : Fin 10, Nat.digitChar value = '0' → value.val = 0 := by decide
      exact digit ⟨value, small⟩ first
    next large =>
      -- The first digit is that of the number without its last digit, which is positive.
      cases front : Nat.toDigits 10 (value / 10) with
      | nil => exact absurd front Nat.toDigits_ne_nil
      | cons c others =>
        rw [front, List.cons_append] at written
        obtain ⟨rfl, -⟩ := List.cons.inj written
        have := ih (value / 10) (by omega) front
        omega

theorem scanWhole_toDigits (atEnd : Problem) (value : Nat) {rest : List Char}
    (delimited : Delimited rest) :
    scanWhole atEnd (Nat.toDigits 10 value ++ rest) = .ok (Nat.toDigits 10 value, rest) := by
  have run : digits (Nat.toDigits 10 value ++ rest) = (Nat.toDigits 10 value, rest) :=
    digits_append isDigit_of_mem_toDigits delimited
  cases written : Nat.toDigits 10 value with
  | nil => exact absurd written Nat.toDigits_ne_nil
  | cons c others =>
    rw [written] at run
    by_cases zero : c = '0'
    · subst zero
      obtain rfl := eq_zero_of_toDigits written
      obtain ⟨-, rfl⟩ := List.cons.inj ((Nat.toDigits_zero 10).symm.trans written)
      have none : digits ([] ++ rest) = ([], rest) := digits_append (by simp) delimited
      rw [List.nil_append] at none
      simp [scanWhole, none]
    · have plain : scanWhole atEnd (c :: others ++ rest) = someDigits atEnd (c :: others ++ rest) :=
        scanWhole.eq_2 atEnd _ fun _ same => zero (List.cons.inj same).1
      rw [plain, someDigits, run]

/-- A number without fraction and exponent is split off as a whole. -/
theorem scan_toDigits (atEnd : Problem) (value : Nat) {rest : List Char}
    (delimited : Delimited rest) :
    scan atEnd (Nat.toDigits 10 value ++ rest) =
      .ok (⟨false, Nat.toDigits 10 value, none, none⟩, rest) := by
  -- A digit is no sign, and what follows the digits is neither a point nor an exponent.
  have unsigned : scanMinus (Nat.toDigits 10 value ++ rest) =
      (false, Nat.toDigits 10 value ++ rest) := by
    cases written : Nat.toDigits 10 value with
    | nil => exact absurd written Nat.toDigits_ne_nil
    | cons c others =>
      have digit : c.isDigit := isDigit_of_mem_toDigits c (written ▸ List.mem_cons_self)
      refine scanMinus.eq_2 _ fun _ same => ?_
      rw [(List.cons.inj same).1] at digit
      exact absurd digit (by decide)
  have noFraction : scanFraction atEnd rest = .ok (none, rest) := by
    cases rest with
    | nil => rfl
    | cons c rest =>
      refine scanFraction.eq_2 atEnd _ fun _ same => ?_
      exact (not_isDigit_of_delimited delimited).2.1 (List.cons.inj same).1
  have noExponent : scanExponent atEnd rest = .ok (none, rest) := by
    cases rest with
    | nil => rfl
    | cons c rest =>
      obtain ⟨-, -, small, large⟩ := not_isDigit_of_delimited delimited
      simp [scanExponent, small, large]
  simp only [scan, unsigned, scanWhole_toDigits atEnd value delimited, noFraction, noExponent]

theorem le_ofDigitChars (digitRun : List Char) (value : Nat) :
    value ≤ Nat.ofDigitChars 10 digitRun value := by
  induction digitRun generalizing value with
  | nil => exact Nat.le_refl value
  | cons c digitRun ih =>
    rw [Nat.ofDigitChars_cons]
    exact Nat.le_trans (by omega) (ih _)

theorem gather_eq {limit value : Nat} {digitRun : List Char}
    (fits : Nat.ofDigitChars 10 digitRun value < limit) :
    gather limit value digitRun = (Nat.ofDigitChars 10 digitRun value, []) := by
  induction digitRun generalizing value with
  | nil => rfl
  | cons c digitRun ih =>
    rw [Nat.ofDigitChars_cons] at fits ⊢
    have extended := Nat.lt_of_le_of_lt (le_ofDigitChars digitRun _) fits
    simp only [gather, digitValue, extended, ↓reduceIte, ih fits]

end Numeral

theorem readNumber_toDigits {value : Nat} (fits : value < Numeral.wordLimit) {rest : List Char}
    (delimited : Delimited rest) :
    readNumber (Nat.toDigits 10 value ++ rest) = .ok (.integer value, rest) := by
  have gathered : Numeral.gather Numeral.wordLimit 0 (Nat.toDigits 10 value) = (value, []) := by
    rw [Numeral.gather_eq (by rwa [Nat.ofDigitChars_ten_toDigits]), Nat.ofDigitChars_ten_toDigits]
  simp [readNumber, Numeral.scan_toDigits .endInValue value delimited, Numeral.number, gathered,
    Numeral.integral]

theorem word32Of_toNat (value : UInt32) : word32Of (.integer value.toNat) = .ok value := by
  have below : (value.toNat : Int) < 0x100000000 := Int.ofNat_lt.2 value.toNat_lt
  rw [word32Of, if_pos ⟨Int.natCast_nonneg _, below⟩, Int.toNat_natCast, UInt32.ofNat_toNat]

theorem word32At_of_readNumber {blanks s rest : List Char} {c : Char} {number : Number}
    {value : UInt32} (blank : Blank blanks) (digit : c.isDigit)
    (read : readNumber (c :: s) = .ok (number, rest)) (denoted : word32Of number = .ok value) :
    word32At (blanks ++ c :: s) = .ok (value, rest) := by
  simp only [word32At, skipBlank_append blank]
  rw [skipBlank_cons (Numeral.isBlank_of_isDigit digit)]
  simp only [digit, Bool.or_true, ↓reduceIte, read, denoted]

theorem reads_writeNat (value : UInt32) : Reads .word32 (writeNat value.toNat) value := by
  intro blanks rest blank delimited
  have fits : value.toNat < Numeral.wordLimit := Nat.lt_trans value.toNat_lt (by decide)
  have read := readNumber_toDigits fits delimited
  rw [writeNat]
  -- The reader decides by the first character, which is a digit.
  cases written : Nat.toDigits 10 value.toNat with
  | nil => exact absurd written Nat.toDigits_ne_nil
  | cons c others =>
    have digit : c.isDigit := Numeral.isDigit_of_mem_toDigits c (written ▸ List.mem_cons_self)
    rw [written, List.cons_append] at read
    exact word32At_of_readNumber blank digit read (word32Of_toNat value)

/-! ## Truth values -/

theorem reads_writeFlag (flag : Bool) : Reads .boolean (writeFlag flag) flag := by
  intro blanks rest blank delimited
  cases flag with
  | true =>
    simp only [Reader.boolean, booleanAt, skipBlank_append blank, writeFlag, List.cons_append]
    rw [skipBlank_cons rfl]
    exact flagWord_append ['r', 'u', 'e'] true rest
  | false =>
    simp only [Reader.boolean, booleanAt, skipBlank_append blank, writeFlag, List.cons_append]
    rw [skipBlank_cons rfl]
    exact flagWord_append ['a', 'l', 's', 'e'] false rest

end StaticAtoms.Json
