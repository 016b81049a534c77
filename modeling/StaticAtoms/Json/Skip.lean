import StaticAtoms.Json.Text
import StaticAtoms.Json.Numeral

/-!
# Values that nobody looks at

`Json.skipValue` passes over a value of any kind and depth.  It keeps the brackets that are open in a
list, so that the depth of a value is bounded by nothing.  Words, numbers and texts have to be spelled
correctly; what they denote does not matter.
-/

namespace StaticAtoms.Json

/-- The two kinds of brackets. -/
inductive Bracket where
  | list
  | object
deriving DecidableEq

/-- What has to come next in a value that is passed over: a value, a key with its colon, or what
follows a value. -/
inductive Want where
  | value
  | key
  | more
deriving DecidableEq

namespace Bracket

/-- The character that closes the bracket. -/
def close : Bracket → Char
  | list => ']'
  | object => '\x7d'

/-- What has to stand between brackets. -/
def wants : Bracket → Want
  | list => .value
  | object => .key

/-- The reason when the text ends between the brackets. -/
def atEnd : Bracket → Problem
  | list => .endInList
  | object => .endInObject

/-- The reason when neither a comma nor the closing bracket follows. -/
def noComma : Bracket → Problem
  | list => .noCommaInList
  | object => .noCommaInObject

end Bracket

/-! ## Steps -/

/-- Passes over a word whose first letter is read. -/
def skipWord (letters s : List Char) : Except Failure (Option Bracket × List Char) :=
  match word letters s with
  | .error failure => .error failure
  | .ok rest => .ok (none, rest)

/-- Passes over a value without brackets, or over the bracket that opens one. -/
def skipToken : List Char → Except Failure (Option Bracket × List Char)
  | [] => .error (.here .endInValue [])
  | 'n' :: rest => skipWord ['u', 'l', 'l'] rest
  | 't' :: rest => skipWord ['r', 'u', 'e'] rest
  | 'f' :: rest => skipWord ['a', 'l', 's', 'e'] rest
  | '[' :: rest => .ok (some .list, rest)
  | '\x7b' :: rest => .ok (some .object, rest)
  | '"' :: rest =>
      match skipText rest with
      | .error failure => .error failure
      | .ok rest => .ok (none, rest)
  | c :: rest =>
      if c = '-' || c.isDigit then
        match skipNumber (c :: rest) with
        | .error failure => .error failure
        | .ok rest => .ok (none, rest)
      else .error (.next .notAValue (c :: rest))

/-- Looks behind an opening bracket for the closing one, and takes it off. -/
def skipClose (bracket : Bracket) (s : List Char) : Except Failure (Bool × List Char) :=
  match skipBlank s with
  | [] => .error (.here bracket.atEnd [])
  | c :: rest => if c = bracket.close then .ok (true, rest) else .ok (false, c :: rest)

/-- Takes off the colon behind a key. -/
def colon (s : List Char) : Except Failure (List Char) :=
  match skipBlank s with
  | [] => .error (.here .endInObject [])
  | ':' :: rest => .ok rest
  | s => .error (.next .noColon s)

/-- Passes over a key and its colon. -/
def skipKey (s : List Char) : Except Failure (List Char) :=
  match skipBlank s with
  | [] => .error (.here .endInObject [])
  | '"' :: rest =>
      match skipText rest with
      | .error failure => .error failure
      | .ok rest => colon rest
  | s => .error (.next .keyNotText s)

/-- Takes off what may follow a value between brackets. -/
def skipMore (bracket : Bracket) (outer : List Bracket) (s : List Char) :
    Except Failure (Want × List Bracket × List Char) :=
  match skipBlank s with
  | [] => .error (.here bracket.atEnd [])
  | c :: rest =>
      if c = ',' then .ok (bracket.wants, bracket :: outer, rest)
      else if c = bracket.close then .ok (.more, outer, rest)
      else .error (.next bracket.noComma (c :: rest))

/-- Passes over a value without brackets or over an opening bracket. -/
def skipStart (opened : List Bracket) (s : List Char) :
    Except Failure (Want × List Bracket × List Char) :=
  match skipToken (skipBlank s) with
  | .error failure => .error failure
  | .ok (none, rest) => .ok (.more, opened, rest)
  | .ok (some bracket, rest) =>
      match skipClose bracket rest with
      | .error failure => .error failure
      | .ok (true, rest) => .ok (.more, opened, rest)
      | .ok (false, rest) => .ok (bracket.wants, bracket :: opened, rest)

/-- One step over a value, with the brackets `opened` around it, the innermost first.  There is no
step when the value is complete. -/
def skipStep (want : Want) (opened : List Bracket) (s : List Char) :
    Except Failure (Option (Want × List Bracket × List Char)) :=
  match want, opened with
  | .more, [] => .ok none
  | .more, bracket :: outer =>
      match skipMore bracket outer s with
      | .error failure => .error failure
      | .ok next => .ok (some next)
  | .key, _ =>
      match skipKey s with
      | .error failure => .error failure
      | .ok rest => .ok (some (.value, opened, rest))
  | .value, _ =>
      match skipStart opened s with
      | .error failure => .error failure
      | .ok next => .ok (some next)

theorem length_skipWord {letters s rest : List Char} {bracket : Option Bracket}
    (read : skipWord letters s = .ok (bracket, rest)) : rest.length ≤ s.length := by
  unfold skipWord at read
  grind [→ length_word]

theorem length_skipToken {s rest : List Char} {bracket : Option Bracket}
    (read : skipToken s = .ok (bracket, rest)) : rest.length < s.length := by
  unfold skipToken at read
  grind [→ length_skipWord, → length_skipText, → length_skipNumber]

theorem length_skipClose {bracket : Bracket} {s rest : List Char} {closed : Bool}
    (read : skipClose bracket s = .ok (closed, rest)) : rest.length ≤ s.length := by
  unfold skipClose at read
  have := length_skipBlank_le s
  grind

theorem length_colon {s rest : List Char} (read : colon s = .ok rest) :
    rest.length < s.length := by
  unfold colon at read
  have := length_skipBlank_le s
  grind

theorem length_skipKey {s rest : List Char} (read : skipKey s = .ok rest) :
    rest.length < s.length := by
  unfold skipKey at read
  have := length_skipBlank_le s
  grind [→ length_skipText, → length_colon]

theorem length_skipMore {bracket : Bracket} {outer opened : List Bracket} {want : Want}
    {s rest : List Char} (read : skipMore bracket outer s = .ok (want, opened, rest)) :
    rest.length < s.length := by
  unfold skipMore at read
  have := length_skipBlank_le s
  grind

theorem length_skipStart {before opened : List Bracket} {want : Want} {s rest : List Char}
    (read : skipStart before s = .ok (want, opened, rest)) : rest.length < s.length := by
  unfold skipStart at read
  have := length_skipBlank_le s
  grind [→ length_skipToken, → length_skipClose]

theorem length_skipStep {before after : Want} {opened inner : List Bracket} {s rest : List Char}
    (read : skipStep before opened s = .ok (some (after, inner, rest))) :
    rest.length < s.length := by
  unfold skipStep at read
  grind [→ length_skipMore, → length_skipKey, → length_skipStart]

/-! ## Whole values -/

/-- Steps on until the value is complete. -/
def skipAll (want : Want) (opened : List Bracket) (s : List Char) : Except Failure (List Char) :=
  match _ : skipStep want opened s with
  | .error failure => .error failure
  | .ok none => .ok s
  | .ok (some (want, opened, rest)) => skipAll want opened rest
termination_by s.length
decreasing_by exact length_skipStep (by assumption)

/-- Passes over one value. -/
def skipValue (s : List Char) : Except Failure (List Char) :=
  skipAll .value [] s

theorem length_skipAll {want : Want} {opened : List Bracket} {s rest : List Char}
    (read : skipAll want opened s = .ok rest) : rest.length ≤ s.length := by
  fun_induction skipAll want opened s <;> grind [→ length_skipStep]

theorem length_skipValue {s rest : List Char} (read : skipValue s = .ok rest) :
    rest.length < s.length := by
  unfold skipValue at read
  rw [skipAll] at read
  grind [skipStep, → length_skipStart, → length_skipAll]

end StaticAtoms.Json
