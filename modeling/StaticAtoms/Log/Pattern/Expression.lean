import StaticAtoms.Log.Pattern.Set
import StaticAtoms.Text.Alphanumeric

/-!
# Regular expressions

Expressions are only checked, from the first character to the last, and never matched.

* `Expression.accepts` recognises them.
* `Expression.maxHeight` bounds the height of the tree of an expression, in which groups, repetitions,
  sets, sequences and alternatives stand above what they hold.

Where bytes are matched because the flag `u` is off, nothing is allowed that could match a part of a
character.
-/

namespace StaticAtoms.Log.Pattern.Expression

/-- The greatest height of an expression. -/
def maxHeight : Nat := 250

/-! ## Open groups -/

/-- What is read of a group: the flags in force, the heights of the finished alternatives and of the
parts behind them, the last first, and whether the last part can be repeated. -/
structure Progress where
  flags : Flags
  alternatives : List Nat
  parts : List Nat
  repeatable : Bool
deriving DecidableEq

namespace Progress

/-- Nothing is read. -/
def start (flags : Flags) : Progress := ⟨flags, [], [], false⟩

/-- The height of what is read. -/
def height (progress : Progress) : Nat :=
  together (together progress.parts :: progress.alternatives)

/-- Adds a part that can be repeated. -/
def add (progress : Progress) (height : Nat) : Progress :=
  { progress with parts := height :: progress.parts, repeatable := true }

/-- Adds a change of flags. -/
def change (progress : Progress) (flags : Flags) : Progress :=
  { progress with flags, parts := 0 :: progress.parts, repeatable := false }

/-- Begins another alternative. -/
def alternate (progress : Progress) : Progress :=
  { progress with
    alternatives := together progress.parts :: progress.alternatives
    parts := []
    repeatable := false }

/-- Repeats the last part. -/
def repeat? (progress : Progress) : Option Progress :=
  match progress.repeatable, progress.parts with
  | true, height :: parts => some { progress with parts := (height + 1) :: parts }
  | _, _ => none

end Progress

/-- What is read of a group, and of the groups around it, the innermost first, with the names of all
groups so far. -/
structure State where
  inner : Progress
  outer : List Progress
  names : List String
deriving DecidableEq

namespace State

/-- Nothing is read. -/
def start : State := ⟨.start .start, [], []⟩

/-- Adds a part. -/
def add (state : State) (height : Nat) : State :=
  { state with inner := state.inner.add height }

/-- Opens a group. -/
def enter (state : State) (flags : Flags) : State :=
  { state with inner := .start flags, outer := state.inner :: state.outer }

/-- Closes the innermost group. -/
def close? (state : State) : Option State :=
  match state.outer with
  | [] => none
  | around :: outer => some { state with inner := around.add (1 + state.inner.height), outer }

end State

/-! ## Reading -/

/-- Whether a text may name a group. -/
def isGroupName : List Char → Bool
  | [] => false
  | first :: rest =>
      (first = '_' || Text.isAlphabetic first)
        && rest.all fun c => ['_', '.', '[', ']'].contains c || Text.isAlphanumeric c

/-- Opens a group behind its name, which no other group has. -/
def enterNamed (state : State) (s : List Char) : Option (State × List Char) :=
  let letters := s.takeWhile (· ≠ '>')
  let name := String.ofList letters
  match s.dropWhile (· ≠ '>') with
  | [] => none
  | _ :: rest =>
      if isGroupName letters && !state.names.contains name then
        some ({ state.enter state.inner.flags with names := name :: state.names }, rest)
      else none

/-- Reads the beginning of a group, or flags, behind a bracket. -/
def readGroup (state : State) (s : List Char) : Option (State × List Char) :=
  match state.inner.flags.skip s with
  | '?' :: 'P' :: '<' :: rest => enterNamed state rest
  | '?' :: '<' :: rest => enterNamed state rest
  | '?' :: rest =>
      match Flags.read [] true state.inner.flags rest with
      | none => none
      | some (flags, true, rest) => some (state.enter flags, rest)
      | some (flags, false, rest) => some ({ state with inner := state.inner.change flags }, rest)
  | rest => some (state.enter state.inner.flags, rest)

/-- Adds a smallest part.  No table tells the other case of a character. -/
def readPart (state : State) (part : Part) (rest : List Char) : Option (State × List Char) :=
  match part with
  | .character _ => if state.inner.flags.foldsAll then none else some (state.add 0, rest)
  | _ => some (state.add 0, rest)

/-- Repeats the last part; a question mark directly behind belongs to the sign. -/
def readRepeat (state : State) (rest : List Char) : Option (State × List Char) :=
  state.inner.repeat?.map fun inner =>
    ({ state with inner }, if rest.head? = some '?' then rest.tail else rest)

/-- Reads on.  An opening brace would begin a count, which no directive can hold. -/
def step (state : State) : List Char → Option (State × List Char)
  | [] => none
  | '(' :: rest => readGroup state rest
  | ')' :: rest => state.close?.map fun state => (state, rest)
  | '|' :: rest => some ({ state with inner := state.inner.alternate }, rest)
  | '[' :: rest =>
      (Set.read state.inner.flags rest).map fun (height, rest) => (state.add height, rest)
  | '\\' :: rest =>
      match Part.readEscape state.inner.flags rest with
      | none => none
      | some (part, rest) => readPart state part rest
  | '.' :: rest => if state.inner.flags.unicode then readPart state .set rest else none
  | c :: rest =>
      if ['*', '+', '?'].contains c then readRepeat state rest
      else if ['^', '$'].contains c then readPart state .place rest
      else if c = '\x7b' then none
      else readPart state (.character c) rest

/-- Whether an expression may end: no group is open, and it is not too high. -/
def mayEnd (state : State) : Bool :=
  state.outer.isEmpty && state.inner.height ≤ maxHeight

/-- Whether the rest of an expression completes it.  Every step shortens what is left. -/
def completes (state : State) (s : List Char) : Bool :=
  match state.inner.flags.skip s with
  | [] => mayEnd state
  | c :: rest =>
      match step state (c :: rest) with
      | none => false
      | some (state, rest) =>
          if _shorter : rest.length < s.length then completes state rest else false
termination_by s.length

/-- Whether a text is a regular expression. -/
def accepts (s : List Char) : Bool :=
  completes .start s

end StaticAtoms.Log.Pattern.Expression
