import StaticAtoms.Text.Utf8
import StaticAtoms.Text.Quoted
import StaticAtoms.Decimal.Shortest

/-!
# What can be wrong with a JSON text

* `Json.Problem` is the cause, `Problem.message` its text.
* `Json.Failure` is a cause with its place, measured from the end of the text, which is what a
  reader of the remaining characters knows.
* `Json.Error` is a cause with its line and column; `Failure.locate` computes them.
-/

namespace StaticAtoms.Json

/-- A value that stands where another kind of value is wanted. -/
inductive Found where
  | null
  | boolean (value : Bool)
  | integer (value : Int)
  | real (value : Decimal)
  | text (value : String)
  | list
  | object
deriving DecidableEq

/-- Why a text is refused. -/
inductive Problem where
  | endInValue
  | endInText
  | endInList
  | endInObject
  | notAWord
  | notAValue
  | notANumber
  | outOfRange
  | noColon
  | noCommaInList
  | noCommaInObject
  | keyNotText
  | trailingComma
  | trailingText
  | badEscape
  | loneSurrogate
  | brokenPair
  | controlCharacter
  | wrongType (found : Found) (expected : String)
  | wrongValue (found : Found) (expected : String)
  | tooShort (length : Nat) (record : String) (wanted : Nat)
  | missingField (key : String)
  | duplicateField (key : String)
  | unknownField (key : String) (known : List String)
deriving DecidableEq

/-- How a value is named in a message. -/
def Found.describe : Found → String
  | null => "null"
  | boolean value => s!"boolean `{value}`"
  | integer value => s!"integer `{value}`"
  | real value => s!"floating point `{value.text}`"
  | text value => s!"string {Quoted.quote value}"
  | list => "sequence"
  | object => "map"

/-- The known keys as a choice. -/
def choice : List String → String
  | [] => ""
  | [only] => s!"`{only}`"
  | [first, second] => s!"`{first}` or `{second}`"
  | keys => "one of " ++ ", ".intercalate (keys.map fun key => s!"`{key}`")

/-- The text of a cause. -/
def Problem.message : Problem → String
  | endInValue => "EOF while parsing a value"
  | endInText => "EOF while parsing a string"
  | endInList => "EOF while parsing a list"
  | endInObject => "EOF while parsing an object"
  | notAWord => "expected ident"
  | notAValue => "expected value"
  | notANumber => "invalid number"
  | outOfRange => "number out of range"
  | noColon => "expected `:`"
  | noCommaInList => "expected `,` or `]`"
  | noCommaInObject => "expected `,` or `\x7d`"
  | keyNotText => "key must be a string"
  | trailingComma => "trailing comma"
  | trailingText => "trailing characters"
  | badEscape => "invalid escape"
  | loneSurrogate => "lone leading surrogate in hex escape"
  | brokenPair => "unexpected end of hex escape"
  | controlCharacter => "control character (\\u0000-\\u001F) found while parsing a string"
  | wrongType found expected => s!"invalid type: {found.describe}, expected {expected}"
  | wrongValue found expected => s!"invalid value: {found.describe}, expected {expected}"
  | tooShort length record wanted =>
      let elements := if wanted = 1 then "element" else "elements"
      s!"invalid length {length}, expected struct {record} with {wanted} {elements}"
  | missingField key => s!"missing field `{key}`"
  | duplicateField key => s!"duplicate field `{key}`"
  | unknownField key [] => s!"unknown field `{key}`, there are no fields"
  | unknownField key known => s!"unknown field `{key}`, expected {choice known}"

/-! ## Places -/

/-- A cause and the number of bytes behind its place. -/
structure Failure where
  problem : Problem
  left : Nat
deriving DecidableEq

/-- The number of bytes of what is left of a text. -/
def bytesLeft (rest : List Char) : Nat :=
  rest.foldl (fun count c => count + c.utf8Size) 0

namespace Failure

/-- A failure in front of what is left. -/
def here (problem : Problem) (rest : List Char) : Failure :=
  ⟨problem, bytesLeft rest⟩

/-- A failure behind the next byte, if there is one. -/
def next (problem : Problem) (rest : List Char) : Failure :=
  ⟨problem, bytesLeft rest - 1⟩

end Failure

/-- A cause and its place. -/
structure Error where
  problem : Problem
  line : Nat
  column : Nat
deriving DecidableEq

/-- The cause and its place. -/
def Error.message (e : Error) : String :=
  s!"{e.problem.message} at line {e.line} column {e.column}"

/-- The line and column behind one more byte. -/
def advance (place : Nat × Nat) (byte : UInt8) : Nat × Nat :=
  if byte = 10 then (place.1 + 1, 0) else (place.1, place.2 + 1)

/-- Counts lines from one, and bytes since the last line break, over the bytes read so far. -/
def position (bytes : Bytes) : Nat × Nat :=
  bytes.foldl advance (1, 0)

/-- Turns a distance from the end of the source into a line and a column. -/
def Failure.locate (failure : Failure) (source : String) : Error :=
  let bytes := Text.utf8 source
  let (line, column) := position (bytes.take (bytes.length - failure.left))
  ⟨failure.problem, line, column⟩

end StaticAtoms.Json
