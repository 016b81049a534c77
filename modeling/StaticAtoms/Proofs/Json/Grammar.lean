import StaticAtoms.Proofs.Json.Reading
import StaticAtoms.Text.Utf16

/-!
# A grammar of JSON

A form relates a text to what is left of it behind something that is spelled in a certain way.  The
forms of this module say how texts, lists and objects may be spelled, without saying how any of them
is read.

* `CharForm` and `TextForm` have every spelling of a character and of a text.
* `ListForm` and `ObjectForm` put parts between brackets, with commas between the parts and blanks
  between all tokens; `MemberForm` is a part of an object.
-/

namespace StaticAtoms.Json

/-- What may stand between the front of a text and what is left of it. -/
abbrev Form := (s rest : List Char) → Prop

/-! ## Texts -/

/-- The letters of the short escapes, with the characters that they stand for. -/
def shortEscapes : List (Char × Char) :=
  [('"', '"'), ('\\', '\\'), ('/', '/'), ('b', '\x08'), ('f', '\x0c'), ('n', '\n'), ('r', '\r'),
    ('t', '\t')]

/-- Whether a character is the hexadecimal digit of a value, in either case. -/
def IsHexDigit (value : Nat) (c : Char) : Prop :=
  "0123456789abcdef".toList[value]? = some c ∨ "0123456789ABCDEF".toList[value]? = some c

/-- Four hexadecimal digits of a code unit. -/
inductive UnitForm (unit : UInt16) : Form where
  | digits {first second third fourth : Nat} {a b c d : Char} {rest : List Char}
      (isFirst : IsHexDigit first a) (isSecond : IsHexDigit second b) (isThird : IsHexDigit third c)
      (isFourth : IsHexDigit fourth d)
      (sum : unit.toNat = ((16 * first + second) * 16 + third) * 16 + fourth) :
      UnitForm unit (a :: b :: c :: d :: rest) rest

/-- The code units of a character in digits, behind the letter of the escape. -/
inductive UnicodeForm (c : Char) : Form where
  | single {unit : UInt16} {s rest : List Char} (units : Utf16.ofChar c = [unit])
      (digits : UnitForm unit s rest) : UnicodeForm c s rest
  | pair {high low : UInt16} {s t rest : List Char} (units : Utf16.ofChar c = [high, low])
      (digits : UnitForm high s ('\\' :: 'u' :: t)) (digitsBehind : UnitForm low t rest) :
      UnicodeForm c s rest

/-- A character between quotes: itself, or an escape. -/
inductive CharForm (c : Char) : Form where
  | raw {rest : List Char} (visible : ¬ c < ' ') (notQuote : c ≠ '"') (notBackslash : c ≠ '\\') :
      CharForm c (c :: rest) rest
  | short {letter : Char} {rest : List Char} (escape : (letter, c) ∈ shortEscapes) :
      CharForm c ('\\' :: letter :: rest) rest
  | unicode {s rest : List Char} (digits : UnicodeForm c s rest) :
      CharForm c ('\\' :: 'u' :: s) rest

/-- Characters one after another. -/
inductive CharsForm : List Char → Form where
  | nil {rest : List Char} : CharsForm [] rest rest
  | cons {c : Char} {chars s t rest : List Char} (char : CharForm c s t)
      (others : CharsForm chars t rest) : CharsForm (c :: chars) s rest

/-- A text between quotes. -/
inductive TextForm (text : String) : Form where
  | quoted {s rest : List Char} (chars : CharsForm text.toList s ('"' :: rest)) :
      TextForm text ('"' :: s) rest

/-! ## Lists and objects -/

/-- What stands in front of a part: blanks, and a comma among them except before the first part. -/
inductive LeadForm : (first : Bool) → Form where
  | first {s rest : List Char} (blanks : Blanks s rest) : LeadForm true s rest
  | next {s t rest : List Char} (blanks : Blanks s (',' :: t)) (blanksBehind : Blanks t rest) :
      LeadForm false s rest

/-- Parts up to the closing bracket. -/
inductive PartsForm (closing : Char) : (first : Bool) → List Form → Form where
  | close {first : Bool} {s rest : List Char} (blanks : Blanks s (closing :: rest)) :
      PartsForm closing first [] s rest
  | part {first : Bool} {part : Form} {parts : List Form} {s t u rest : List Char}
      (lead : LeadForm first s t) (spelled : part t u) (others : PartsForm closing false parts u rest) :
      PartsForm closing first (part :: parts) s rest

theorem partsForm_nil_iff {closing : Char} {first : Bool} {s rest : List Char} :
    PartsForm closing first [] s rest ↔ Blanks s (closing :: rest) := by
  constructor
  · rintro ⟨blanks⟩
    exact blanks
  · exact .close

theorem partsForm_cons_iff {closing : Char} {first : Bool} {part : Form} {parts : List Form}
    {s rest : List Char} : PartsForm closing first (part :: parts) s rest ↔
      ∃ t u, LeadForm first s t ∧ part t u ∧ PartsForm closing false parts u rest := by
  constructor
  · intro form
    cases form with
    | part lead spelled others => exact ⟨_, _, lead, spelled, others⟩
  · rintro ⟨t, u, lead, spelled, others⟩
    exact .part lead spelled others

/-- A list of parts. -/
inductive ListForm (parts : List Form) : Form where
  | brackets {s rest : List Char} (inside : PartsForm ']' true parts s rest) :
      ListForm parts ('[' :: s) rest

/-- An object of members, in the given order. -/
inductive ObjectForm (members : List Form) : Form where
  | braces {s rest : List Char} (inside : PartsForm '\x7d' true members s rest) :
      ObjectForm members ('\x7b' :: s) rest

/-- A key and its colon. -/
inductive KeyForm (key : String) : Form where
  | colon {s t rest : List Char} (text : TextForm key s t) (blanks : Blanks t (':' :: rest)) :
      KeyForm key s rest

/-- A member of an object. -/
inductive MemberForm (key : String) (value : Form) : Form where
  | member {s t u rest : List Char} (named : KeyForm key s t) (blanks : Blanks t u)
      (spelled : value u rest) : MemberForm key value s rest

end StaticAtoms.Json
