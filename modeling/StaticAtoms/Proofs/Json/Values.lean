import StaticAtoms.Proofs.Json.Structures

/-!
# Well-formed values

`Json.IsValue` has every JSON value as it is spelled, with the blanks between its tokens and whatever
it denotes: a number can be out of any range, an escape can name half of a surrogate pair, an object
can repeat a key, and brackets can be nested to any depth.

* `IsNumber` and `IsText` are about the tokens.
* `Item` and `Member` are the parts of a list and of an object, which `between` puts between brackets.
* `ValueForm`, `PartForm` and `InsideForm` say how a value, a part of it and the parts up to the
  closing bracket stand in front of a text.
-/

namespace StaticAtoms.Json

/-! ## Numbers -/

/-- One decimal digit or more. -/
structure IsDigits (s : List Char) : Prop where
  some : s ≠ []
  all : ∀ c ∈ s, c.isDigit

/-- The digits before the point: a zero stands alone. -/
inductive IsWhole : List Char → Prop where
  | zero : IsWhole ['0']
  | digits {s : List Char} (isDigits : IsDigits s) (noZero : s.head? ≠ some '0') : IsWhole s

/-- The point and the digits behind it, or nothing. -/
inductive IsFraction : List Char → Prop where
  | none : IsFraction []
  | digits {s : List Char} (isDigits : IsDigits s) : IsFraction ('.' :: s)

/-- The power of ten behind the digits, or nothing. -/
inductive IsExponent : List Char → Prop where
  | none : IsExponent []
  | digits {letter : Char} {sign s : List Char} (isLetter : letter = 'e' ∨ letter = 'E')
      (isSign : sign ∈ [[], ['+'], ['-']]) (isDigits : IsDigits s) :
      IsExponent (letter :: (sign ++ s))

/-- A number. -/
inductive IsNumber : List Char → Prop where
  | parts {sign whole fraction exponent : List Char} (isSign : sign ∈ [[], ['-']])
      (isWhole : IsWhole whole) (isFraction : IsFraction fraction) (isExponent : IsExponent exponent) :
      IsNumber (sign ++ (whole ++ (fraction ++ exponent)))

/-! ## Texts -/

/-- What can stand between quotes for a character, or for half of one: the character itself, a short
escape, or any four digits behind the letter of the long escape. -/
inductive IsSymbol : List Char → Prop where
  | raw {c : Char} (visible : ¬ c < ' ') (notQuote : c ≠ '"') (notBackslash : c ≠ '\\') : IsSymbol [c]
  | short {letter c : Char} (escape : (letter, c) ∈ shortEscapes) : IsSymbol ['\\', letter]
  | unit {digits : List Char} {unit : UInt16} (isUnit : UnitForm unit digits []) :
      IsSymbol ('\\' :: 'u' :: digits)

/-- A text between quotes. -/
inductive IsText : List Char → Prop where
  | quoted {symbols : List (List Char)} (isSymbols : ∀ symbol ∈ symbols, IsSymbol symbol) :
      IsText ('"' :: (symbols.flatten ++ ['"']))

/-- Whether a text is spelled in one of its ways, whatever follows it. -/
def Spells (text : String) (spelling : List Char) : Prop :=
  ∀ rest, TextForm text (spelling ++ rest) rest

/-! ## Lists and objects -/

/-- An item of a list: its value and the blanks around it. -/
structure Item where
  before : List Char
  value : List Char
  behind : List Char
  blankBefore : Blank before
  blankBehind : Blank behind

/-- A member of an object: its key between blanks, and its value as an item behind the colon. -/
structure Member where
  before : List Char
  key : List Char
  behindKey : List Char
  item : Item
  isText : IsText key
  blankBefore : Blank before
  blankBehindKey : Blank behindKey

namespace Item

/-- The item as it is spelled. -/
def text (item : Item) : List Char :=
  item.before ++ (item.value ++ item.behind)

/-- The item with another value. -/
def withValue (item : Item) (value : List Char) : Item :=
  { item with value }

end Item

namespace Member

/-- The member as it is spelled. -/
def text (member : Member) : List Char :=
  member.before ++ (member.key ++ (member.behindKey ++ ':' :: member.item.text))

/-- The member with another value. -/
def withValue (member : Member) (value : List Char) : Member :=
  { member with item := member.item.withValue value }

end Member

/-- The character that opens the bracket. -/
def Bracket.opening : Bracket → Char
  | list => '['
  | object => '\x7b'

/-- Parts between brackets, with commas between them.  Without parts there can be blanks, too. -/
def between (bracket : Bracket) (gap : List Char) (parts : List (List Char)) : List Char :=
  bracket.opening :: (gap ++ ([','].intercalate parts ++ [bracket.close]))

/-- A list of items. -/
def listText (gap : List Char) (items : List Item) : List Char :=
  between .list gap (items.map Item.text)

/-- An object of members. -/
def objectText (gap : List Char) (members : List Member) : List Char :=
  between .object gap (members.map Member.text)

/-- The words that are values. -/
def words : List (List Char) :=
  [['n', 'u', 'l', 'l'], ['t', 'r', 'u', 'e'], ['f', 'a', 'l', 's', 'e']]

/-- A value of any kind and depth, without blanks around it. -/
inductive IsValue : List Char → Prop where
  | word {s : List Char} (known : s ∈ words) : IsValue s
  | number {s : List Char} (isNumber : IsNumber s) : IsValue s
  | text {s : List Char} (isText : IsText s) : IsValue s
  | list {gap : List Char} {items : List Item} (blank : Blank gap)
      (values : ∀ item ∈ items, IsValue item.value) : IsValue (listText gap items)
  | object {gap : List Char} {members : List Member} (blank : Blank gap)
      (values : ∀ member ∈ members, IsValue member.item.value) : IsValue (objectText gap members)

/-! ## First characters -/

theorem IsDigits.exists_cons {s : List Char} (isDigits : IsDigits s) :
    ∃ c t, s = c :: t ∧ c.isDigit := by
  cases s with
  | nil => exact absurd rfl isDigits.some
  | cons c t => exact ⟨c, t, rfl, isDigits.all c List.mem_cons_self⟩

theorem IsWhole.exists_cons {s : List Char} (isWhole : IsWhole s) :
    ∃ c t, s = c :: t ∧ c.isDigit := by
  cases isWhole with
  | zero => exact ⟨_, _, rfl, by decide⟩
  | digits isDigits noZero => exact isDigits.exists_cons

theorem IsNumber.exists_cons {s : List Char} (isNumber : IsNumber s) :
    ∃ c t, s = c :: t ∧ (c = '-' ∨ c.isDigit) := by
  cases isNumber with
  | parts isSign isWhole isFraction isExponent =>
    obtain rfl | isSign := List.mem_cons.1 isSign
    · obtain ⟨c, t, rfl, digit⟩ := isWhole.exists_cons
      exact ⟨c, _, rfl, .inr digit⟩
    · obtain rfl := List.mem_singleton.1 isSign
      exact ⟨'-', _, rfl, .inl rfl⟩

theorem IsText.exists_symbols {s : List Char} (isText : IsText s) :
    ∃ symbols : List (List Char), (∀ symbol ∈ symbols, IsSymbol symbol) ∧
      s = '"' :: (symbols.flatten ++ ['"']) := by
  cases isText with
  | quoted isSymbols => exact ⟨_, isSymbols, rfl⟩

theorem isBlank_eq_false_of_isDigit {c : Char} (lead : c = '-' ∨ c.isDigit) :
    isBlank c = false ∧ c ≠ ']' := by
  obtain rfl | digit := lead
  · decide
  · refine ⟨Numeral.isBlank_of_isDigit digit, ?_⟩
    rintro rfl
    exact absurd digit (by decide)

/-- A value begins with neither a blank nor a closing bracket. -/
theorem IsValue.starts {s : List Char} (value : IsValue s) : Starts s := by
  cases value with
  | word known =>
    have all : ∀ word ∈ words, Starts word := by simp [words, Starts, isBlank]
    exact all s known
  | number isNumber =>
    obtain ⟨c, t, rfl, lead⟩ := isNumber.exists_cons
    exact isBlank_eq_false_of_isDigit lead
  | text isText =>
    cases isText with
    | quoted isSymbols => exact ⟨rfl, by decide⟩
  | list blank values => exact ⟨rfl, by decide⟩
  | object blank values => exact ⟨rfl, by decide⟩

/-- Blanks in front of a value are passed over, and no more. -/
theorem IsValue.skipBlank_eq {gap s : List Char} (value : IsValue s) (blank : Blank gap)
    (rest : List Char) : skipBlank (gap ++ (s ++ rest)) = s ++ rest := by
  rw [skipBlank_append blank]
  have starts := value.starts
  cases s with
  | nil => exact starts.elim
  | cons c s => exact skipBlank_cons starts.1 _

/-! ## Kinds of values -/

section Kinds

variable {c : Char} {s : List Char}

/-- The first character of a value tells of which kind it is. -/
theorem IsValue.kind (value : IsValue (c :: s)) :
    (c :: s) ∈ words ∨ (IsNumber (c :: s) ∧ (c = '-' ∨ c.isDigit)) ∨ (c = '"' ∧ IsText (c :: s)) ∨
    (c = '[' ∧ ∃ gap items, Blank gap ∧ (∀ item ∈ items, IsValue item.value) ∧
      c :: s = listText gap items) ∨
    (c = '\x7b' ∧ ∃ gap members, Blank gap ∧ (∀ member ∈ members, IsValue member.item.value) ∧
      c :: s = objectText gap members) := by
  generalize spelling : c :: s = t at value
  cases value with
  | word known => exact .inl known
  | number isNumber =>
    refine .inr (.inl ⟨isNumber, ?_⟩)
    obtain ⟨d, u, same, lead⟩ := isNumber.exists_cons
    obtain ⟨rfl, -⟩ := List.cons.inj (spelling.trans same)
    exact lead
  | text isText =>
    refine .inr (.inr (.inl ⟨?_, isText⟩))
    cases isText with
    | quoted isSymbols => exact (List.cons.inj spelling).1
  | @list gap items blank values =>
    exact .inr (.inr (.inr (.inl ⟨(List.cons.inj spelling).1, gap, items, blank, values, rfl⟩)))
  | @object gap members blank values =>
    exact .inr (.inr (.inr (.inr ⟨(List.cons.inj spelling).1, gap, members, blank, values, rfl⟩)))

theorem IsValue.mem_words (value : IsValue (c :: s)) (letter : c ∈ ['n', 't', 'f']) :
    (c :: s) ∈ words := by
  have marks : ∀ mark ∈ ['n', 't', 'f'],
      ¬ (mark = '-' ∨ mark.isDigit) ∧ mark ≠ '"' ∧ mark ≠ '[' ∧ mark ≠ '\x7b' := by simp
  obtain ⟨noLead, noQuote, noList, noObject⟩ := marks c letter
  obtain known | ⟨-, lead⟩ | ⟨same, -⟩ | ⟨same, -⟩ | ⟨same, -⟩ := value.kind
  · exact known
  · exact absurd lead noLead
  · exact absurd same noQuote
  · exact absurd same noList
  · exact absurd same noObject

theorem IsValue.isNumber (value : IsValue (c :: s)) (lead : c = '-' ∨ c.isDigit) :
    IsNumber (c :: s) := by
  obtain known | ⟨isNumber, -⟩ | ⟨rfl, -⟩ | ⟨rfl, -⟩ | ⟨rfl, -⟩ := value.kind
  · simp only [words, List.mem_cons, List.not_mem_nil, or_false, List.cons.injEq] at known
    obtain ⟨rfl, -⟩ | ⟨rfl, -⟩ | ⟨rfl, -⟩ := known <;> exact absurd lead (by decide)
  · exact isNumber
  all_goals exact absurd lead (by decide)

theorem IsValue.isText (value : IsValue ('"' :: s)) : IsText ('"' :: s) := by
  obtain known | ⟨-, lead⟩ | ⟨-, isText⟩ | ⟨same, -⟩ | ⟨same, -⟩ := value.kind
  · simp [words] at known
  · exact absurd lead (by decide)
  · exact isText
  · exact absurd same (by decide)
  · exact absurd same (by decide)

theorem IsValue.exists_items (value : IsValue ('[' :: s)) :
    ∃ gap items, Blank gap ∧ (∀ item ∈ items, IsValue item.value) ∧ '[' :: s = listText gap items := by
  obtain known | ⟨-, lead⟩ | ⟨same, -⟩ | ⟨-, found⟩ | ⟨same, -⟩ := value.kind
  · simp [words] at known
  · exact absurd lead (by decide)
  · exact absurd same (by decide)
  · exact found
  · exact absurd same (by decide)

theorem IsValue.exists_members (value : IsValue ('\x7b' :: s)) :
    ∃ gap members, Blank gap ∧ (∀ member ∈ members, IsValue member.item.value) ∧
      '\x7b' :: s = objectText gap members := by
  obtain known | ⟨-, lead⟩ | ⟨same, -⟩ | ⟨same, -⟩ | ⟨-, found⟩ := value.kind
  · simp [words] at known
  · exact absurd lead (by decide)
  · exact absurd same (by decide)
  · exact absurd same (by decide)
  · exact found

end Kinds

end StaticAtoms.Json
