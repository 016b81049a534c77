/-!
# Levels of urgency

* `Level.rank` numbers the levels, and `Level.column` writes one.
* `Level.ofText?` reads a level, or `off`.
-/

namespace StaticAtoms.Log

/-- How urgent an event is. -/
inductive Level where
  | error
  | warn
  | info
  | debug
  | trace
deriving DecidableEq

namespace Level

/-- The number of a level, which grows with its detail. -/
def rank : Level → Nat
  | error => 1
  | warn => 2
  | info => 3
  | debug => 4
  | trace => 5

/-- A level in five columns. -/
def column : Level → String
  | error => "ERROR"
  | warn => " WARN"
  | info => " INFO"
  | debug => "DEBUG"
  | trace => "TRACE"

/-! ## Reading -/

/-- The number that decimal digits denote. -/
def ofDigits (digits : List Char) : Nat :=
  digits.foldl (fun value c => 10 * value + (c.toNat - '0'.toNat)) 0

/-- A level by its number. -/
def ofRank? : Nat → Option (Option Level)
  | 0 => some none
  | 1 => some (some error)
  | 2 => some (some warn)
  | 3 => some (some info)
  | 4 => some (some debug)
  | 5 => some (some trace)
  | _ => none

/-- A level by its name in lowercase. -/
def ofName? : String → Option (Option Level)
  | "off" => some none
  | "error" => some (some error)
  | "warn" => some (some warn)
  | "info" => some (some info)
  | "debug" => some (some debug)
  | "trace" => some (some trace)
  | _ => none

/-- Takes a plus sign off that may stand in front of digits. -/
def dropPlus : List Char → List Char
  | '+' :: rest => rest
  | s => s

/-- A level, or none for the level `off`, by its number or by its name in any case of ASCII. -/
def ofText? (text : List Char) : Option (Option Level) :=
  let digits := dropPlus text
  if !digits.isEmpty && digits.all Char.isDigit then ofRank? (ofDigits digits)
  else ofName? (String.ofList (text.map Char.toLower))

end Level

end StaticAtoms.Log
