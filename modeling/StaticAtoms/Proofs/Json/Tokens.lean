import StaticAtoms.Proofs.Json.Values

/-!
# Texts and numbers are taken off whole

* `skipText_flatten` and `exists_of_skipText` say that `skipText` takes exactly one text off.
* `TextForm.skipText_eq` says that a text that denotes something is passed over up to the same place,
  so that `IsText.exact` can tell where the reading of a well-formed text ends.
* `IsNumber.scan_eq` and `isNumber_of_scan` are about numbers, which go on as long as they can.
-/

namespace StaticAtoms.Json

variable {s t rest : List Char}

/-! ## Texts that are passed over -/

theorem skipText_of_quote (closed : skipChar s = .ok (true, rest)) : skipText s = .ok rest := by
  rw [skipText]
  split
  next failed => rw [closed] at failed; cases failed
  next read => rw [closed] at read; cases read; rfl
  next read => rw [closed] at read; cases read

theorem skipText_of_symbol (passed : skipChar s = .ok (false, rest)) :
    skipText s = skipText rest := by
  rw [skipText]
  split
  next failed => rw [passed] at failed; cases failed
  next read => rw [passed] at read; cases read
  next read => rw [passed] at read; cases read; rfl

theorem UnitForm.append {unit : UInt16} {digits : List Char} (isUnit : UnitForm unit digits [])
    (rest : List Char) : UnitForm unit (digits ++ rest) rest := by
  cases isUnit with
  | digits isFirst isSecond isThird isFourth sum =>
    exact .digits isFirst isSecond isThird isFourth sum

theorem UnitForm.exists_append {unit : UInt16} (form : UnitForm unit s rest) :
    ∃ digits, s = digits ++ rest ∧ UnitForm unit digits [] := by
  cases form with
  | @digits _ _ _ _ a b c d _ isFirst isSecond isThird isFourth sum =>
    exact ⟨[a, b, c, d], rfl, .digits isFirst isSecond isThird isFourth sum⟩

theorem skipChar_short {letter c : Char} (escape : (letter, c) ∈ shortEscapes) :
    skipChar ('\\' :: letter :: rest) = .ok (false, rest) := by
  have notUnicode : letter ≠ 'u' := by
    rintro rfl
    revert escape
    simp [shortEscapes]
  rw [skipChar.eq_5 letter rest notUnicode]
  simp [shortEscape?_eq_some_iff.2 escape]

theorem skipChar_unit {unit : UInt16} (digits : UnitForm unit s rest) :
    skipChar ('\\' :: 'u' :: s) = .ok (false, rest) := by
  simp only [skipChar, readUnit_eq_ok_iff.2 digits]

theorem IsSymbol.skipChar_eq {symbol : List Char} (isSymbol : IsSymbol symbol)
    (rest : List Char) : skipChar (symbol ++ rest) = .ok (false, rest) := by
  cases isSymbol with
  | @raw c visible notQuote notBackslash =>
    rw [List.singleton_append, skipChar.eq_6 c rest notQuote]
    · simp [visible]
    · simp [notBackslash]
    · simp [notBackslash]
    · simp [notBackslash]
  | short escape => exact skipChar_short escape
  | unit isUnit => exact skipChar_unit (isUnit.append rest)

theorem skipText_flatten {symbols : List (List Char)}
    (isSymbols : ∀ symbol ∈ symbols, IsSymbol symbol) (rest : List Char) :
    skipText (symbols.flatten ++ '"' :: rest) = .ok rest := by
  induction symbols with
  | nil => exact skipText_of_quote rfl
  | cons symbol symbols ih =>
    rw [List.forall_mem_cons] at isSymbols
    rw [List.flatten_cons, List.append_assoc, skipText_of_symbol (isSymbols.1.skipChar_eq _)]
    exact ih isSymbols.2

theorem skipChar_eq_quote_iff : skipChar s = .ok (true, rest) ↔ s = '"' :: rest := by
  constructor
  · intro read
    unfold skipChar at read
    grind
  · rintro rfl
    rfl

theorem exists_of_skipChar (read : skipChar s = .ok (false, rest)) :
    ∃ symbol, IsSymbol symbol ∧ s = symbol ++ rest := by
  unfold skipChar at read
  split at read
  next => cases read
  next => cases read
  next => cases read
  next behind =>
    split at read
    next => cases read
    next unit left found =>
      cases read
      obtain ⟨digits, rfl, isUnit⟩ := (readUnit_eq_ok_iff.1 found).exists_append
      exact ⟨_, .unit isUnit, rfl⟩
  next letter behind _ =>
    split at read
    next known =>
      cases read
      obtain ⟨c, found⟩ := Option.isSome_iff_exists.1 known
      exact ⟨_, .short (shortEscape?_eq_some_iff.1 found), rfl⟩
    next => cases read
  next c behind notQuote notLast _ notEscape =>
    split at read
    next => cases read
    next visible =>
      cases read
      refine ⟨[c], .raw visible notQuote ?_, rfl⟩
      rintro rfl
      cases rest with
      | nil => exact notLast rfl rfl
      | cons letter others => exact notEscape letter others rfl rfl

theorem exists_of_skipText (read : skipText s = .ok rest) :
    ∃ symbols : List (List Char), (∀ symbol ∈ symbols, IsSymbol symbol) ∧
      s = symbols.flatten ++ '"' :: rest := by
  fun_induction skipText s with
  | case1 => cases read
  | case2 s behind closed =>
    cases read
    exact ⟨[], by simp, skipChar_eq_quote_iff.1 closed⟩
  | case3 s behind passed ih =>
    obtain ⟨symbols, isSymbols, rfl⟩ := ih read
    obtain ⟨symbol, isSymbol, rfl⟩ := exists_of_skipChar passed
    exact ⟨symbol :: symbols, List.forall_mem_cons.2 ⟨isSymbol, isSymbols⟩, by simp⟩

/-! ## Texts that are read -/

theorem CharForm.skipText_eq {c : Char} (form : CharForm c s t) : skipText s = skipText t := by
  cases form with
  | raw visible notQuote notBackslash =>
    exact skipText_of_symbol ((IsSymbol.raw visible notQuote notBackslash).skipChar_eq t)
  | short escape => exact skipText_of_symbol (skipChar_short escape)
  | unicode digits =>
    cases digits with
    | single units digits => exact skipText_of_symbol (skipChar_unit digits)
    | pair units digits digitsBehind =>
      -- Each half of a pair is a symbol of its own.
      rw [skipText_of_symbol (skipChar_unit digits), skipText_of_symbol (skipChar_unit digitsBehind)]

theorem CharsForm.skipText_eq {chars : List Char} (form : CharsForm chars s t) :
    skipText s = skipText t := by
  induction form with
  | nil => rfl
  | cons char others ih => exact char.skipText_eq.trans ih

/-- What denotes something is passed over up to the same place. -/
theorem TextForm.skipText_eq {text : String} (form : TextForm text ('"' :: s) rest) :
    skipText s = .ok rest := by
  cases form with
  | quoted chars => exact chars.skipText_eq.trans (skipText_of_quote rfl)

theorem UnicodeForm.exists_append {c : Char} (form : UnicodeForm c s t) :
    ∃ front, s = front ++ t ∧ ∀ rest, UnicodeForm c (front ++ rest) rest := by
  cases form with
  | single units digits =>
    obtain ⟨front, rfl, isUnit⟩ := digits.exists_append
    exact ⟨front, rfl, fun rest => .single units (isUnit.append rest)⟩
  | pair units digits digitsBehind =>
    obtain ⟨front, rfl, isUnit⟩ := digits.exists_append
    obtain ⟨behind, rfl, isUnitBehind⟩ := digitsBehind.exists_append
    refine ⟨front ++ '\\' :: 'u' :: behind, by simp, fun rest => ?_⟩
    rw [List.append_assoc]
    exact .pair units (isUnit.append _) (isUnitBehind.append rest)

theorem CharForm.exists_append {c : Char} (form : CharForm c s t) :
    ∃ front, s = front ++ t ∧ ∀ rest, CharForm c (front ++ rest) rest := by
  cases form with
  | raw visible notQuote notBackslash =>
    exact ⟨[c], rfl, fun rest => .raw visible notQuote notBackslash⟩
  | @short letter _ escape => exact ⟨['\\', letter], rfl, fun rest => .short escape⟩
  | unicode digits =>
    obtain ⟨front, rfl, others⟩ := digits.exists_append
    exact ⟨'\\' :: 'u' :: front, rfl, fun rest => .unicode (others rest)⟩

theorem CharsForm.exists_append {chars : List Char} (form : CharsForm chars s t) :
    ∃ front, s = front ++ t ∧ ∀ rest, CharsForm chars (front ++ rest) rest := by
  induction form with
  | nil => exact ⟨[], rfl, fun rest => .nil⟩
  | cons char others ih =>
    obtain ⟨front, rfl, first⟩ := char.exists_append
    obtain ⟨behind, rfl, next⟩ := ih
    refine ⟨front ++ behind, by simp, fun rest => ?_⟩
    rw [List.append_assoc]
    exact .cons (first _) (next rest)

/-- How a text is spelled does not depend on what follows it. -/
theorem TextForm.exists_append {text : String} (form : TextForm text s rest) :
    ∃ spelling, s = spelling ++ rest ∧ Spells text spelling := by
  cases form with
  | quoted chars =>
    obtain ⟨front, rfl, others⟩ := chars.exists_append
    refine ⟨'"' :: (front ++ ['"']), by simp, fun rest => ?_⟩
    rw [List.cons_append, List.append_assoc]
    exact .quoted (others _)

theorem isText_of_textForm {text : String} (form : TextForm text s rest) :
    ∃ spelling, s = spelling ++ rest ∧ IsText spelling := by
  have opened : ∃ inside, s = '"' :: inside := by
    cases form with
    | quoted chars => exact ⟨_, rfl⟩
  obtain ⟨inside, rfl⟩ := opened
  obtain ⟨symbols, isSymbols, rfl⟩ := exists_of_skipText form.skipText_eq
  exact ⟨_, by simp, .quoted isSymbols⟩

/-- The reading of a well-formed text ends behind its quote. -/
theorem IsText.exact {text : String} (isText : IsText s) (form : TextForm text (s ++ rest) t) :
    t = rest ∧ Spells text s := by
  obtain ⟨spelling, same, spells⟩ := form.exists_append
  cases isText with
  | quoted isSymbols =>
    -- Passing over it ends at the quote whatever it denotes, and reading ends where passing over does.
    rw [List.cons_append, List.append_assoc] at form
    have passed := form.skipText_eq
    obtain rfl := Except.ok.inj ((skipText_flatten isSymbols rest).symm.trans passed)
    obtain rfl := List.append_cancel_right same
    exact ⟨rfl, spells⟩

theorem Spells.isText {text : String} (spells : Spells text s) : IsText s := by
  obtain ⟨spelling, same, isText⟩ := isText_of_textForm (spells [])
  rw [List.append_nil, List.append_nil] at same
  rwa [same]

/-! ## Numbers -/

namespace Numeral

theorem digits_of_run {run : List Char} (all : ∀ c ∈ run, c.isDigit)
    (ended : ∀ c ∈ rest.head?, c.isDigit = false) : digits (run ++ rest) = (run, rest) := by
  rw [digits, List.takeWhile_append_of_pos all, List.dropWhile_append_of_pos all]
  cases rest with
  | nil => simp
  | cons c rest => simp [ended c rfl]

theorem someDigits_of_run {atEnd : Problem} {run : List Char} (isDigits : IsDigits run)
    (ended : ∀ c ∈ rest.head?, c.isDigit = false) :
    someDigits atEnd (run ++ rest) = .ok (run, rest) := by
  rw [someDigits, digits_of_run isDigits.all ended]
  cases run with
  | nil => exact absurd rfl isDigits.some
  | cons c run => rfl

theorem exists_of_someDigits {atEnd : Problem} {run : List Char}
    (read : someDigits atEnd s = .ok (run, rest)) : IsDigits run ∧ s = run ++ rest := by
  unfold someDigits at read
  split at read
  next => cases read
  next found left some split =>
    cases read
    obtain ⟨rfl, rfl⟩ := Prod.mk.inj split
    refine ⟨⟨?_, fun c member => List.all_eq_true.1 List.all_takeWhile c member⟩,
      List.takeWhile_append_dropWhile.symm⟩
    rintro none
    exact some none

theorem scanWhole_of_isWhole {atEnd : Problem} {whole : List Char} (isWhole : IsWhole whole)
    (ended : ∀ c ∈ rest.head?, c.isDigit = false) :
    scanWhole atEnd (whole ++ rest) = .ok (whole, rest) := by
  cases isWhole with
  | zero =>
    have none : digits ([] ++ rest) = ([], rest) := digits_of_run (by simp) ended
    rw [List.nil_append] at none
    simp [scanWhole, none]
  | digits isDigits noZero =>
    rw [scanWhole.eq_2]
    · exact someDigits_of_run isDigits ended
    · rintro behind same
      obtain ⟨c, others, rfl, -⟩ := isDigits.exists_cons
      obtain ⟨rfl, -⟩ := List.cons.inj same
      exact noZero rfl

theorem isWhole_of_scanWhole {atEnd : Problem} {whole : List Char}
    (read : scanWhole atEnd s = .ok (whole, rest)) : IsWhole whole ∧ s = whole ++ rest := by
  unfold scanWhole at read
  split at read
  next =>
    split at read
    next =>
      cases read
      exact ⟨.zero, rfl⟩
    next => cases read
  next noZero =>
    obtain ⟨isDigits, rfl⟩ := exists_of_someDigits read
    refine ⟨.digits isDigits fun zero => ?_, rfl⟩
    obtain ⟨others, rfl⟩ := List.head?_eq_some_iff.1 zero
    exact noZero _ rfl

theorem exists_scanFraction {fraction : List Char} (isFraction : IsFraction fraction) :
    ∃ found, ∀ atEnd rest, (∀ c ∈ rest.head?, c.isDigit = false ∧ c ≠ '.') →
      scanFraction atEnd (fraction ++ rest) = .ok (found, rest) := by
  cases isFraction with
  | none =>
    refine ⟨none, fun atEnd rest ended => scanFraction.eq_2 atEnd rest fun behind same => ?_⟩
    exact (ended '.' (by simp [same])).2 rfl
  | @digits run isDigits =>
    refine ⟨some run, fun atEnd rest ended => ?_⟩
    have read : someDigits atEnd (run ++ rest) = .ok (run, rest) :=
      someDigits_of_run isDigits fun c first => (ended c first).1
    simp only [List.cons_append, scanFraction, read]

theorem isFraction_of_scanFraction {atEnd : Problem} {found : Option (List Char)}
    (read : scanFraction atEnd s = .ok (found, rest)) :
    ∃ fraction, IsFraction fraction ∧ s = fraction ++ rest := by
  unfold scanFraction at read
  split at read
  next =>
    split at read
    next => cases read
    next run left taken =>
      cases read
      obtain ⟨isDigits, rfl⟩ := exists_of_someDigits taken
      exact ⟨_, .digits isDigits, rfl⟩
  next =>
    cases read
    exact ⟨[], .none, rfl⟩

/-- A sign is taken off in front of a digit. -/
theorem exists_scanSign {sign run : List Char} (isSign : sign ∈ [[], ['+'], ['-']])
    (isDigits : IsDigits run) :
    ∃ negative, ∀ rest, scanSign (sign ++ (run ++ rest)) = (negative, run ++ rest) := by
  obtain ⟨c, others, rfl, digit⟩ := isDigits.exists_cons
  simp only [List.mem_cons, List.not_mem_nil, or_false] at isSign
  obtain rfl | rfl | rfl := isSign
  · refine ⟨false, fun rest => scanSign.eq_3 _ ?_ ?_⟩
    · rintro behind same
      obtain ⟨rfl, -⟩ := List.cons.inj same
      exact absurd digit (by decide)
    · rintro behind same
      obtain ⟨rfl, -⟩ := List.cons.inj same
      exact absurd digit (by decide)
  · exact ⟨false, fun rest => rfl⟩
  · exact ⟨true, fun rest => rfl⟩

theorem exists_of_scanSign (s : List Char) :
    ∃ sign ∈ [[], ['+'], ['-']], s = sign ++ (scanSign s).2 := by
  unfold scanSign
  split
  · exact ⟨['-'], by simp, rfl⟩
  · exact ⟨['+'], by simp, rfl⟩
  · exact ⟨[], by simp, rfl⟩

theorem exists_scanExponent {exponent : List Char} (isExponent : IsExponent exponent) :
    ∃ found, ∀ atEnd rest, Delimited rest →
      scanExponent atEnd (exponent ++ rest) = .ok (found, rest) := by
  cases isExponent with
  | none =>
    refine ⟨none, fun atEnd rest delimited => ?_⟩
    cases rest with
    | nil => rfl
    | cons c rest =>
      obtain ⟨-, -, small, large⟩ := not_isDigit_of_delimited delimited
      simp [scanExponent, small, large]
  | @digits letter sign run isLetter isSign isDigits =>
    obtain ⟨negative, signed⟩ := exists_scanSign isSign isDigits
    refine ⟨some ⟨negative, run⟩, fun atEnd rest delimited => ?_⟩
    have ended : ∀ c ∈ rest.head?, c.isDigit = false := by
      rintro c first
      obtain ⟨others, rfl⟩ := List.head?_eq_some_iff.1 first
      exact (not_isDigit_of_delimited delimited).1
    rw [List.cons_append, List.append_assoc]
    simp only [scanExponent, isLetter, ↓reduceIte, signed, someDigits_of_run isDigits ended]

theorem isExponent_of_scanExponent {atEnd : Problem} {found : Option Exponent}
    (read : scanExponent atEnd s = .ok (found, rest)) :
    ∃ exponent, IsExponent exponent ∧ s = exponent ++ rest := by
  unfold scanExponent at read
  split at read
  next =>
    cases read
    exact ⟨[], .none, rfl⟩
  next c behind =>
    split at read
    next isLetter =>
      split at read
      next => cases read
      next run left taken =>
        cases read
        obtain ⟨sign, isSign, same⟩ := exists_of_scanSign behind
        obtain ⟨isDigits, signed⟩ := exists_of_someDigits taken
        rw [signed] at same
        exact ⟨_, .digits isLetter isSign isDigits, by rw [same]; simp⟩
    next =>
      cases read
      exact ⟨[], .none, rfl⟩

end Numeral

/-- What can follow the digits of a fraction: no digit and no further point. -/
theorem IsExponent.ended {exponent : List Char} (isExponent : IsExponent exponent)
    (delimited : Delimited rest) :
    ∀ c ∈ (exponent ++ rest).head?, c.isDigit = false ∧ c ≠ '.' := by
  rintro c first
  cases isExponent with
  | none =>
    obtain ⟨others, rfl⟩ := List.head?_eq_some_iff.1 first
    obtain ⟨noDigit, noPoint, -⟩ := Numeral.not_isDigit_of_delimited delimited
    exact ⟨noDigit, noPoint⟩
  | digits isLetter isSign isDigits =>
    obtain rfl := Option.some.inj first
    obtain rfl | rfl := isLetter <;> decide

theorem IsFraction.ended {fraction : List Char} (isFraction : IsFraction fraction)
    (ended : ∀ c ∈ rest.head?, c.isDigit = false ∧ c ≠ '.') :
    ∀ c ∈ (fraction ++ rest).head?, c.isDigit = false := by
  rintro c first
  cases isFraction with
  | none => exact (ended c first).1
  | digits isDigits =>
    obtain rfl := Option.some.inj first
    decide

/-- A number is split into its parts, and ends where it is delimited. -/
theorem IsNumber.scan_eq {number : List Char} (isNumber : IsNumber number) :
    ∃ numeral, ∀ atEnd rest, Delimited rest →
      Numeral.scan atEnd (number ++ rest) = .ok (numeral, rest) := by
  cases isNumber with
  | @parts sign whole fraction exponent isSign isWhole isFraction isExponent =>
    obtain ⟨foundFraction, readFraction⟩ := Numeral.exists_scanFraction isFraction
    obtain ⟨foundExponent, readExponent⟩ := Numeral.exists_scanExponent isExponent
    have signed : ∃ negative, ∀ rest,
        Numeral.scanMinus (sign ++ (whole ++ rest)) = (negative, whole ++ rest) := by
      obtain rfl | isSign := List.mem_cons.1 isSign
      · refine ⟨false, fun rest => Numeral.scanMinus.eq_2 _ ?_⟩
        rintro behind same
        obtain ⟨c, others, rfl, digit⟩ := isWhole.exists_cons
        obtain ⟨rfl, -⟩ := List.cons.inj same
        exact absurd digit (by decide)
      · obtain rfl := List.mem_singleton.1 isSign
        exact ⟨true, fun rest => rfl⟩
    obtain ⟨negative, minus⟩ := signed
    refine ⟨⟨negative, whole, foundFraction, foundExponent⟩, fun atEnd rest delimited => ?_⟩
    -- Each part ends where the next one begins, so the parts behind it have to be known first.
    have ended := isExponent.ended delimited
    simp only [List.append_assoc, Numeral.scan, minus,
      Numeral.scanWhole_of_isWhole isWhole (isFraction.ended ended),
      readFraction atEnd _ ended, readExponent atEnd rest delimited]

theorem isNumber_of_scan {atEnd : Problem} {numeral : Numeral}
    (read : Numeral.scan atEnd s = .ok (numeral, rest)) :
    ∃ number, IsNumber number ∧ s = number ++ rest := by
  have minus : ∃ sign ∈ [[], ['-']], s = sign ++ (Numeral.scanMinus s).2 := by
    unfold Numeral.scanMinus
    split
    · exact ⟨['-'], by simp, rfl⟩
    · exact ⟨[], by simp, rfl⟩
  obtain ⟨sign, isSign, signed⟩ := minus
  unfold Numeral.scan at read
  split at read
  next => cases read
  next whole afterWhole readWhole =>
    split at read
    next => cases read
    next foundFraction afterFraction readFraction =>
      split at read
      next => cases read
      next foundExponent left readExponent =>
        cases read
        obtain ⟨isWhole, wholeSame⟩ := Numeral.isWhole_of_scanWhole readWhole
        obtain ⟨fraction, isFraction, rfl⟩ := Numeral.isFraction_of_scanFraction readFraction
        obtain ⟨exponent, isExponent, rfl⟩ := Numeral.isExponent_of_scanExponent readExponent
        rw [wholeSame] at signed
        exact ⟨_, .parts isSign isWhole isFraction isExponent, by rw [signed]; simp⟩

/-- What a number denotes does not depend on what follows it. -/
theorem Numeral.number_eq_ok {numeral : Numeral} {found : Number}
    (denoted : numeral.number s = .ok found) (rest : List Char) :
    numeral.number rest = .ok found := by
  unfold number at denoted ⊢
  dsimp only at denoted ⊢
  split at denoted
  next plain =>
    rw [if_pos plain]
    exact denoted
  next scaled =>
    rw [if_neg scaled]
    split at denoted
    next =>
      split at denoted
      next => exact denoted
      next => cases denoted
    next =>
      split at denoted
      next =>
        split at denoted
        next => exact denoted
        next => cases denoted
      next =>
        split at denoted
        next => cases denoted
        next zero =>
          rw [if_neg zero]
          exact denoted

theorem IsNumber.skipNumber_eq {number : List Char} (isNumber : IsNumber number)
    (delimited : Delimited rest) : skipNumber (number ++ rest) = .ok rest := by
  obtain ⟨numeral, scanned⟩ := isNumber.scan_eq
  simp only [skipNumber, scanned _ rest delimited]

theorem isNumber_of_skipNumber (read : skipNumber s = .ok rest) :
    ∃ number, IsNumber number ∧ s = number ++ rest := by
  unfold skipNumber at read
  split at read
  next => cases read
  next scanned =>
    cases read
    exact isNumber_of_scan scanned

theorem isNumber_of_readNumber {found : Number} (read : readNumber s = .ok (found, rest)) :
    ∃ number, IsNumber number ∧ s = number ++ rest := by
  unfold readNumber at read
  split at read
  next => cases read
  next scanned =>
    split at read
    next => cases read
    next =>
      cases read
      exact isNumber_of_scan scanned

theorem IsNumber.exact {number : List Char} {found : Number} (isNumber : IsNumber number)
    (delimited : Delimited rest) (read : readNumber (number ++ rest) = .ok (found, t)) :
    t = rest ∧ ∀ rest, Delimited rest → readNumber (number ++ rest) = .ok (found, rest) := by
  obtain ⟨numeral, scanned⟩ := isNumber.scan_eq
  simp only [readNumber, scanned _ rest delimited] at read
  split at read
  next => cases read
  next denoted =>
    cases read
    refine ⟨rfl, fun rest delimited => ?_⟩
    simp only [readNumber, scanned _ rest delimited, Numeral.number_eq_ok denoted rest]

end StaticAtoms.Json
