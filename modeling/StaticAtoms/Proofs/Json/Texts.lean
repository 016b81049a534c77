import StaticAtoms.Proofs.Json.Grammar
import StaticAtoms.Proofs.Text.Utf16

/-!
# Texts and their forms

Texts are read in exactly their forms: `readUnicode_eq_ok_iff` is about the code units that an escape
names, `readChar_eq_some_iff` about one character, and `textAt_eq_ok_iff` about a text behind blanks.
-/

namespace StaticAtoms.Json

variable {s t rest : List Char}

/-! ## Hexadecimal digits -/

/-- The characters of a range are told by their distances from the first one. -/
theorem isHexDigit_of_range {first last c : Char} {least : Nat}
    (digits : ∀ place : Fin (last.toNat - first.toNat + 1),
      IsHexDigit (place + least) (Char.ofNat (first.toNat + place)))
    (range : first ≤ c ∧ c ≤ last) : IsHexDigit (c.toNat - first.toNat + least) c := by
  have low : first.toNat ≤ c.toNat := UInt32.le_iff_toNat_le.1 range.1
  have high : c.toNat ≤ last.toNat := UInt32.le_iff_toNat_le.1 range.2
  have digit := digits ⟨c.toNat - first.toNat, by omega⟩
  rwa [Nat.add_sub_cancel' low, Char.ofNat_toNat] at digit

theorem isHexDigit_of_digit? {c : Char} {value : Nat} (read : Hex.digit? c = some value) :
    IsHexDigit value c := by
  unfold Hex.digit? at read
  split at read
  next range =>
    cases read
    have digit : IsHexDigit (c.toNat - '0'.toNat + 0) c :=
      isHexDigit_of_range (by unfold IsHexDigit; decide) range
    exact digit
  split at read
  next range =>
    cases read
    exact isHexDigit_of_range (by unfold IsHexDigit; decide) range
  split at read
  next range =>
    cases read
    exact isHexDigit_of_range (by unfold IsHexDigit; decide) range
  next => cases read

theorem IsHexDigit.digit? {c : Char} {value : Nat} (digit : IsHexDigit value c) :
    Hex.digit? c = some value := by
  have lower : ∀ place : Fin 16,
      "0123456789abcdef".toList[place.val]?.map Hex.digit? = some (some place.val) := by decide
  have upper : ∀ place : Fin 16,
      "0123456789ABCDEF".toList[place.val]?.map Hex.digit? = some (some place.val) := by decide
  obtain found | found := digit
  · obtain ⟨bound, -⟩ := List.getElem?_eq_some_iff.1 found
    have read := lower ⟨value, bound⟩
    rw [found] at read
    exact Option.some.inj read
  · obtain ⟨bound, -⟩ := List.getElem?_eq_some_iff.1 found
    have read := upper ⟨value, bound⟩
    rw [found] at read
    exact Option.some.inj read

theorem IsHexDigit.lt {c : Char} {value : Nat} (digit : IsHexDigit value c) : value < 16 := by
  obtain found | found := digit
  · exact (List.getElem?_eq_some_iff.1 found).1
  · exact (List.getElem?_eq_some_iff.1 found).1

/-! ## Characters -/

theorem readUnit_eq_ok_iff {unit : UInt16} :
    readUnit s = .ok (unit, rest) ↔ UnitForm unit s rest := by
  constructor
  · intro read
    unfold readUnit at read
    split at read
    next a b c d behind =>
      split at read
      next found =>
        cases read
        simp only [unit?, Option.bind_eq_bind, Option.bind_eq_some_iff, Option.pure_def,
          Option.some.injEq] at found
        obtain ⟨first, firstRead, second, secondRead, third, thirdRead, fourth, fourthRead, rfl⟩ :=
          found
        have isFirst := isHexDigit_of_digit? firstRead
        have isSecond := isHexDigit_of_digit? secondRead
        have isThird := isHexDigit_of_digit? thirdRead
        have isFourth := isHexDigit_of_digit? fourthRead
        refine .digits isFirst isSecond isThird isFourth (UInt16.toNat_ofNat_of_lt' ?_)
        have := isFirst.lt
        have := isSecond.lt
        have := isThird.lt
        have := isFourth.lt
        show _ < 65536
        omega
      next => cases read
    next =>
      split at read <;> cases read
  · rintro ⟨isFirst, isSecond, isThird, isFourth, sum⟩
    simp only [readUnit, unit?, isFirst.digit?, isSecond.digit?, isThird.digit?, isFourth.digit?,
      Option.bind_eq_bind, Option.bind_some, ← sum, UInt16.ofNat_toNat, Option.pure_def]

theorem expect_eq_ok_iff {atEnd wrong : Problem} {letters : List Char} :
    expect atEnd wrong letters s = .ok rest ↔ s = letters ++ rest := by
  constructor
  · intro read
    induction letters generalizing s with
    | nil => exact Except.ok.inj read
    | cons letter letters ih =>
      cases s with
      | nil => cases read
      | cons c s =>
        rw [expect] at read
        split at read
        next same => rw [same, ih read, List.cons_append]
        next => cases read
  · rintro rfl
    exact expect_append atEnd wrong letters rest

theorem readLow_eq_ok_iff {high : UInt16} {c : Char} :
    readLow high s = .ok (c, rest) ↔
      ∃ low t, s = '\\' :: 'u' :: t ∧ UnitForm low t rest ∧ Utf16.isLow low ∧
        c = Utf16.combine high low := by
  constructor
  · intro read
    unfold readLow at read
    split at read
    next => cases read
    next behind expected =>
      split at read
      next => cases read
      next low left unit =>
        split at read
        next isLow =>
          obtain ⟨same, rfl⟩ := Prod.mk.inj (Except.ok.inj read)
          exact ⟨low, behind, expect_eq_ok_iff.1 expected, readUnit_eq_ok_iff.1 unit, isLow, same.symm⟩
        next => cases read
  · rintro ⟨low, t, rfl, digits, isLow, same⟩
    have expected : expect .endInText .brokenPair ['\\', 'u'] ('\\' :: 'u' :: t) = .ok t :=
      expect_eq_ok_iff.2 rfl
    simp only [readLow, expected, readUnit_eq_ok_iff.2 digits, isLow, ↓reduceIte, same]

theorem readUnicode_eq_ok_iff {c : Char} :
    readUnicode s = .ok (c, rest) ↔ UnicodeForm c s rest := by
  constructor
  · intro read
    unfold readUnicode at read
    split at read
    next => cases read
    next unit left found =>
      have digits := readUnit_eq_ok_iff.1 found
      split at read
      next => cases read
      next notLow =>
        split at read
        next isHigh =>
          obtain ⟨low, t, rfl, digitsBehind, isLow, same⟩ := readLow_eq_ok_iff.1 read
          exact .pair (Utf16.ofChar_eq_pair_iff.2 ⟨isHigh, isLow, same⟩) digits digitsBehind
        next notHigh =>
          obtain ⟨same, rfl⟩ := Prod.mk.inj (Except.ok.inj read)
          refine .single (Utf16.ofChar_eq_single_iff.2 ⟨?_, ?_, same.symm⟩) digits
          · exact Bool.eq_false_iff.2 notHigh
          · exact Bool.eq_false_iff.2 notLow
  · intro form
    cases form with
    | single units digits =>
      obtain ⟨notHigh, notLow, same⟩ := Utf16.ofChar_eq_single_iff.1 units
      simp [readUnicode, readUnit_eq_ok_iff.2 digits, notHigh, notLow, same]
    | @pair high low s t rest units digits digitsBehind =>
      obtain ⟨isHigh, isLow, same⟩ := Utf16.ofChar_eq_pair_iff.1 units
      have notLow : Utf16.isLow high = false := by
        rw [Bool.eq_false_iff, ne_eq, Utf16.isLow_iff]
        have := Utf16.isHigh_iff.1 isHigh
        omega
      have behind : readLow high ('\\' :: 'u' :: t) = .ok (c, rest) :=
        readLow_eq_ok_iff.2 ⟨low, t, rfl, digitsBehind, isLow, same⟩
      simp [readUnicode, readUnit_eq_ok_iff.2 digits, isHigh, notLow, behind]

theorem shortEscape?_eq_some_iff {letter c : Char} :
    shortEscape? letter = some c ↔ (letter, c) ∈ shortEscapes := by
  constructor
  · intro found
    unfold shortEscape? at found
    split at found <;> cases found <;> decide
  · intro member
    have all : ∀ escape ∈ shortEscapes, shortEscape? escape.1 = some escape.2 := by decide
    exact all _ member

theorem readEscape_eq_ok_iff {c : Char} :
    readEscape s = .ok (c, rest) ↔ CharForm c ('\\' :: s) rest := by
  constructor
  · intro read
    unfold readEscape at read
    split at read
    next => cases read
    next => exact .unicode (readUnicode_eq_ok_iff.1 read)
    next letter behind _ =>
      split at read
      next found =>
        obtain ⟨same, rfl⟩ := Prod.mk.inj (Except.ok.inj read)
        exact .short (shortEscape?_eq_some_iff.1 (same ▸ found))
      next => cases read
  · intro form
    cases form with
    | raw visible notQuote notBackslash => exact absurd rfl notBackslash
    | @short letter _ escape =>
      have notUnicode : letter ≠ 'u' := by
        rintro rfl
        revert escape
        simp [shortEscapes]
      rw [readEscape.eq_3 letter rest notUnicode]
      simp only [shortEscape?_eq_some_iff.2 escape]
    | unicode digits =>
      rw [readEscape]
      exact readUnicode_eq_ok_iff.2 digits

theorem readChar_eq_none_iff : readChar s = .ok (none, rest) ↔ s = '"' :: rest := by
  constructor
  · intro read
    unfold readChar at read
    split at read
    · cases read
    · cases read
      rfl
    · split at read <;> cases read
    · split at read <;> cases read
  · rintro rfl
    rfl

theorem readChar_eq_some_iff {c : Char} :
    readChar s = .ok (some c, rest) ↔ CharForm c s rest := by
  constructor
  · intro read
    unfold readChar at read
    split at read
    next => cases read
    next => cases read
    next escape =>
      split at read
      next => cases read
      next denoted left found =>
        obtain ⟨same, rfl⟩ := Prod.mk.inj (Except.ok.inj read)
        exact readEscape_eq_ok_iff.1 (Option.some.inj same ▸ found)
    next first behind notQuote notBackslash =>
      split at read
      next => cases read
      next visible =>
        obtain ⟨same, rfl⟩ := Prod.mk.inj (Except.ok.inj read)
        obtain rfl := Option.some.inj same
        exact .raw visible notQuote notBackslash
  · intro form
    cases form with
    | raw visible notQuote notBackslash =>
      rw [readChar.eq_4 c rest notQuote notBackslash, if_neg visible]
    | @short letter _ escape =>
      have read : readEscape (letter :: rest) = .ok (c, rest) :=
        readEscape_eq_ok_iff.2 (.short escape)
      simp only [readChar, read]
    | unicode digits =>
      have read := readEscape_eq_ok_iff.2 (.unicode digits)
      simp only [readChar, read]

/-! ## Texts -/

theorem readChars_of_quote (seen : List Char)
    (closed : readChar s = .ok (none, rest)) : readChars seen s = .ok (seen.reverse, rest) := by
  -- Reading recurses on the length of the text, so it is opened once and not simplified.
  rw [readChars]
  split
  next failed => rw [closed] at failed; cases failed
  next read => rw [closed] at read; cases read; rfl
  next read => rw [closed] at read; cases read

/-- One character of a text is read, and the text goes on behind it. -/
theorem readChars_of_char {c : Char} (seen : List Char)
    (first : readChar s = .ok (some c, rest)) : readChars seen s = readChars (c :: seen) rest := by
  rw [readChars]
  split
  next failed => rw [first] at failed; cases failed
  next read => rw [first] at read; cases read
  next read => rw [first] at read; cases read; rfl

theorem charsForm_of_readChars {seen read : List Char} (taken : readChars seen s = .ok (read, rest)) :
    ∃ chars, read = seen.reverse ++ chars ∧ CharsForm chars s ('"' :: rest) := by
  fun_induction readChars seen s with
  | case1 => cases taken
  | case2 seen s behind closed =>
    cases taken
    obtain rfl := readChar_eq_none_iff.1 closed
    exact ⟨[], by simp, .nil⟩
  | case3 seen s c behind first ih =>
    obtain ⟨chars, rfl, form⟩ := ih taken
    exact ⟨c :: chars, by simp, .cons (readChar_eq_some_iff.1 first) form⟩

theorem readChars_of_charsForm {chars : List Char} (form : CharsForm chars s ('"' :: rest))
    (seen : List Char) : readChars seen s = .ok (seen.reverse ++ chars, rest) := by
  generalize closed : '"' :: rest = last at form
  induction form generalizing seen with
  | nil =>
    rw [List.append_nil]
    exact readChars_of_quote seen (readChar_eq_none_iff.2 closed.symm)
  | cons char _ ih =>
    rw [readChars_of_char seen (readChar_eq_some_iff.2 char), ih _ closed, List.reverse_cons,
      List.append_assoc]
    rfl

theorem readText_eq_ok_iff {text : String} :
    readText s = .ok (text, rest) ↔ TextForm text ('"' :: s) rest := by
  constructor
  · intro read
    unfold readText at read
    split at read
    next => cases read
    next chars left taken =>
      cases read
      obtain ⟨_, rfl, form⟩ := charsForm_of_readChars taken
      refine .quoted ?_
      rw [String.toList_ofList]
      exact form
  · rintro ⟨form⟩
    simp [readText, readChars_of_charsForm form]

theorem textAt_eq_ok_iff {text : String} :
    textAt s = .ok (text, rest) ↔ ∃ t, Blanks s t ∧ TextForm text t rest := by
  constructor
  · intro read
    unfold textAt at read
    split at read
    next inside opened =>
      exact ⟨'"' :: inside, opened ▸ blanks_skipBlank s, readText_eq_ok_iff.1 read⟩
    next => cases read
  · rintro ⟨_, blanks, ⟨form⟩⟩
    rw [textAt, (blanks_cons_iff rfl).1 blanks]
    exact readText_eq_ok_iff.2 (.quoted form)

end StaticAtoms.Json
