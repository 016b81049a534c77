import StaticAtoms.Log.Level
import StaticAtoms.Text.Hex

/-!
# Log events

A `Log.Event` is something worth telling about a run.  Commands only collect events; `Log.Filter`
decides which of them are shown.

* `Source.target` is the name by which filters know where an event comes from.
* `Event.line` writes an event, with the characters spelled out that terminals act on.
-/

namespace StaticAtoms.Log

/-- The part of the tool that an event comes from. -/
inductive Source where
  | command
  | table
  | manifest
  | cache
deriving DecidableEq

/-- The name that filters match. -/
def Source.target : Source → String
  | command => "atomtab"
  | table => "atomtab::table"
  | manifest => "atomtab::manifest"
  | cache => "atomtab::manifest::cache"

/-- Something worth telling. -/
structure Event where
  level : Level
  source : Source
  message : String
deriving DecidableEq

namespace Event

/-- The names of the fields that an event has: its message is the only one. -/
def fields : List String := ["message"]

/-- Whether a terminal acts on a character of ASCII: bell, backspace, form feed, escape and delete. -/
def isCommand (c : Char) : Bool :=
  c = '\x07' || c = '\x08' || c = '\x0c' || c = '\x1b' || c = '\x7f'

/-- The spelling of a character in a line: whatever a terminal could act on is written as its number,
and line breaks and tabs are kept. -/
def spell (c : Char) : List Char :=
  if isCommand c then ['\\', 'x'] ++ Hex.fixed 2 c.toNat
  else if 0x80 ≤ c.toNat ∧ c.toNat ≤ 0x9F then
    ['\\', 'u', '\x7b'] ++ Hex.shortest c.toNat ++ ['\x7d']
  else [c]

/-- The line of an event. -/
def line (event : Event) : String :=
  let message := String.ofList (event.message.toList.flatMap spell)
  s!"{event.level.column} {event.source.target}: {message}"

end Event

end StaticAtoms.Log
