import StaticAtoms.Json.Skip

/-!
# Readers of values

A `Json.Reader` takes one value of a wanted kind off the front of a text.  Every reader shortens the
text, so that lists and records can be read by recursion on its length.

* `Reader.text`, `Reader.word32`, `Reader.boolean` and `Reader.list` read the basic kinds.
* `Json.mismatch` is the failure when a value of another kind stands there.
* `Json.parse` reads a whole source.
-/

namespace StaticAtoms.Json

/-- Reads one value, which takes at least one character. -/
structure Reader (α : Type) where
  read : List Char → Except Failure (α × List Char)
  shrinks : ∀ {s rest : List Char} {value : α}, read s = .ok (value, rest) → rest.length < s.length

/-! ## Values of another kind -/

/-- The failure behind a word that is no value of the wanted kind. -/
def wordMismatch (letters : List Char) (found : Found) (expected : String) (s : List Char) :
    Failure :=
  match word letters s with
  | .error failure => failure
  | .ok rest => .here (.wrongType found expected) rest

/-- The failure when something other than the wanted kind of value stands in front of `s`.  Words,
numbers and texts are read first; brackets are not. -/
def mismatch (expected : String) (s : List Char) : Failure :=
  match s with
  | [] => .here .endInValue []
  | 'n' :: rest => wordMismatch ['u', 'l', 'l'] .null expected rest
  | 't' :: rest => wordMismatch ['r', 'u', 'e'] (.boolean true) expected rest
  | 'f' :: rest => wordMismatch ['a', 'l', 's', 'e'] (.boolean false) expected rest
  | '[' :: _ => .here (.wrongType .list expected) s
  | '\x7b' :: _ => .here (.wrongType .object expected) s
  | '"' :: rest =>
      match readText rest with
      | .error failure => failure
      | .ok (text, rest) => .here (.wrongType (.text text) expected) rest
  | c :: _ =>
      if c = '-' || c.isDigit then
        match readNumber s with
        | .error failure => failure
        | .ok (number, rest) => .here (.wrongType number.found expected) rest
      else .next .notAValue s

/-! ## Basic kinds -/

/-- Reads a text. -/
def textAt (s : List Char) : Except Failure (String × List Char) :=
  match skipBlank s with
  | '"' :: rest => readText rest
  | s => .error (mismatch "a string" s)

/-- The word that a number denotes, if it is an integer of 32 bits. -/
def word32Of : Number → Except Problem UInt32
  | .real value => .error (.wrongType (.real value) "u32")
  | .integer value =>
      if 0 ≤ value ∧ value < 0x100000000 then .ok (UInt32.ofNat value.toNat)
      else .error (.wrongValue (.integer value) "u32")

/-- Reads an integer of 32 bits. -/
def word32At (s : List Char) : Except Failure (UInt32 × List Char) :=
  match skipBlank s with
  | [] => .error (mismatch "u32" [])
  | c :: rest =>
      if c = '-' || c.isDigit then
        match readNumber (c :: rest) with
        | .error failure => .error failure
        | .ok (number, rest) =>
            match word32Of number with
            | .error problem => .error (.here problem rest)
            | .ok value => .ok (value, rest)
      else .error (mismatch "u32" (c :: rest))

/-- Reads the rest of a word that denotes a truth value. -/
def flagWord (letters : List Char) (value : Bool) (s : List Char) :
    Except Failure (Bool × List Char) :=
  match word letters s with
  | .error failure => .error failure
  | .ok rest => .ok (value, rest)

/-- Reads a truth value. -/
def booleanAt (s : List Char) : Except Failure (Bool × List Char) :=
  match skipBlank s with
  | 't' :: rest => flagWord ['r', 'u', 'e'] true rest
  | 'f' :: rest => flagWord ['a', 'l', 's', 'e'] false rest
  | s => .error (mismatch "a boolean" s)

theorem length_textAt {s rest : List Char} {text : String}
    (read : textAt s = .ok (text, rest)) : rest.length < s.length := by
  unfold textAt at read
  have := length_skipBlank_le s
  grind [→ length_readText]

theorem length_word32At {s rest : List Char} {value : UInt32}
    (read : word32At s = .ok (value, rest)) : rest.length < s.length := by
  unfold word32At at read
  have := length_skipBlank_le s
  grind [→ length_readNumber]

theorem length_flagWord {letters s rest : List Char} {value found : Bool}
    (read : flagWord letters value s = .ok (found, rest)) : rest.length ≤ s.length := by
  unfold flagWord at read
  grind [→ length_word]

theorem length_booleanAt {s rest : List Char} {value : Bool}
    (read : booleanAt s = .ok (value, rest)) : rest.length < s.length := by
  unfold booleanAt at read
  have := length_skipBlank_le s
  grind [→ length_flagWord]

namespace Reader

/-- Reads a text. -/
def text : Reader String := ⟨textAt, length_textAt⟩

/-- Reads an integer of 32 bits. -/
def word32 : Reader UInt32 := ⟨word32At, length_word32At⟩

/-- Reads a truth value. -/
def boolean : Reader Bool := ⟨booleanAt, length_booleanAt⟩

/-- Reads a value and turns it into another. -/
def map {α β : Type} (reader : Reader α) (f : α → β) : Reader β where
  read s :=
    match reader.read s with
    | .error failure => .error failure
    | .ok (value, rest) => .ok (f value, rest)
  shrinks := by
    intro s rest value read
    have := @reader.shrinks s
    grind

end Reader

/-! ## Lists -/

/-- Looks for the next element of a list and takes off what stands in front of it: a comma, except
before the first element.  The flag is false at the closing bracket, which is taken off, too. -/
def nextItem (first : Bool) (s : List Char) : Except Failure (Bool × List Char) :=
  match skipBlank s with
  | [] => .error (.here .endInList [])
  | c :: rest =>
      if c = ']' then .ok (false, rest)
      else if first then .ok (true, c :: rest)
      else if c = ',' then
        match skipBlank rest with
        | [] => .error (.here .endInValue [])
        | c :: rest =>
            if c = ']' then .error (.next .trailingComma (c :: rest)) else .ok (true, c :: rest)
      else .error (.next .noCommaInList (c :: rest))

theorem length_nextItem {first more : Bool} {s rest : List Char}
    (read : nextItem first s = .ok (more, rest)) : rest.length ≤ s.length := by
  unfold nextItem at read
  have := length_skipBlank_le s
  grind [length_skipBlank_le]

theorem length_nextItem_end {first : Bool} {s rest : List Char}
    (read : nextItem first s = .ok (false, rest)) : rest.length < s.length := by
  unfold nextItem at read
  have := length_skipBlank_le s
  grind

/-- Reads the elements of a list up to its closing bracket, of which those of `seen` are read, the
last one first. -/
def itemsFrom {α : Type} (element : Reader α) (first : Bool) (seen : List α) (s : List Char) :
    Except Failure (List α × List Char) :=
  match _ : nextItem first s with
  | .error failure => .error failure
  | .ok (false, rest) => .ok (seen.reverse, rest)
  | .ok (true, start) =>
      match _ : element.read start with
      | .error failure => .error failure
      | .ok (value, rest) => itemsFrom element false (value :: seen) rest
termination_by s.length
decreasing_by
  exact Nat.lt_of_lt_of_le (element.shrinks (by assumption)) (length_nextItem (by assumption))

theorem length_itemsFrom {α : Type} {element : Reader α} {first : Bool} {seen values : List α}
    {s rest : List Char} (read : itemsFrom element first seen s = .ok (values, rest)) :
    rest.length < s.length := by
  fun_induction itemsFrom element first seen s with
  | case1 => simp at read
  | case2 => grind [→ length_nextItem_end]
  | case3 => simp at read
  | case4 first seen s start item value rest' taken ih =>
      have := element.shrinks taken
      have := length_nextItem item
      have := ih read
      omega

/-- Reads a list of values. -/
def listAt {α : Type} (element : Reader α) (s : List Char) :
    Except Failure (List α × List Char) :=
  match skipBlank s with
  | '[' :: rest => itemsFrom element true [] rest
  | s => .error (mismatch "a sequence" s)

theorem length_listAt {α : Type} {element : Reader α} {values : List α} {s rest : List Char}
    (read : listAt element s = .ok (values, rest)) : rest.length < s.length := by
  unfold listAt at read
  have := length_skipBlank_le s
  grind [→ length_itemsFrom]

/-- Reads a list of values. -/
def Reader.list {α : Type} (element : Reader α) : Reader (List α) :=
  ⟨listAt element, length_listAt⟩

/-! ## Whole sources -/

/-- Reads a source that holds one value and blanks around it. -/
def parse {α : Type} (reader : Reader α) (source : String) : Except Error α :=
  match reader.read source.toList with
  | .error failure => .error (failure.locate source)
  | .ok (value, rest) =>
      match skipBlank rest with
      | [] => .ok value
      | s => .error ((Failure.next .trailingText s).locate source)

end StaticAtoms.Json
