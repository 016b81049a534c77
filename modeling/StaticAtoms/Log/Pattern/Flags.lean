import StaticAtoms.Text.Blank

/-!
# Flags of regular expressions

The flags in force at a place of an expression, as far as they decide what may stand there.

* `Flags.read` reads flags such as `i-u`.
* `Flags.skip` passes over blanks and comments where the flag `x` allows them.
-/

namespace StaticAtoms.Log.Pattern

/-- The flags that decide what is allowed: `i`, `u` and `x`. -/
structure Flags where
  ignoreCase : Bool
  unicode : Bool
  spaced : Bool
deriving DecidableEq

namespace Flags

/-- The flags at the beginning. -/
def start : Flags := ⟨false, true, false⟩

/-- Whether there is a flag of this name. -/
def isName (c : Char) : Bool :=
  ['i', 'm', 's', 'u', 'U', 'R', 'x'].contains c

/-- Turns a flag on or off. -/
def turn (flags : Flags) (on : Bool) : Char → Flags
  | 'i' => { flags with ignoreCase := on }
  | 'u' => { flags with unicode := on }
  | 'x' => { flags with spaced := on }
  | _ => flags

/-- Whether letters stand for both of their cases in all scripts, for which there is no table. -/
def foldsAll (flags : Flags) : Bool :=
  flags.ignoreCase && flags.unicode

/-! ## Reading -/

/-- Reads flags up to a colon, which begins a group, or up to a bracket, which leaves the flags to the
rest of the group around.  `seen` holds what is read, the last first: nothing may come twice, and a
minus sign has to be followed by a flag. -/
def read (seen : List Char) (on : Bool) (flags : Flags) :
    List Char → Option (Flags × Bool × List Char)
  | [] => none
  | c :: rest =>
      if c = ':' then if seen.head? = some '-' then none else some (flags, true, rest)
      else if c = ')' then
        if seen.isEmpty || seen.head? = some '-' then none else some (flags, false, rest)
      else if seen.contains c then none
      else if c = '-' then read (c :: seen) false flags rest
      else if isName c then read (c :: seen) on (flags.turn on c) rest
      else none

/-! ## Blanks and comments -/

/-- Passes over blanks and comments, which reach from `#` to the end of the line. -/
def skipSpace (comment : Bool) : List Char → List Char
  | [] => []
  | c :: rest =>
      if comment then skipSpace (c ≠ '\n') rest
      else if Text.isBlank c then skipSpace false rest
      else if c = '#' then skipSpace true rest
      else c :: rest

/-- Passes over what has no meaning under the flags. -/
def skip (flags : Flags) (s : List Char) : List Char :=
  if flags.spaced then skipSpace false s else s

/-- The next character that a hyphen in a set looks at: blanks and the sign of a comment are passed
over under the flag `x`, but not the comment itself. -/
def peek? (flags : Flags) (s : List Char) : Option Char :=
  if flags.spaced then
    match s.dropWhile Text.isBlank with
    | '#' :: rest => (rest.dropWhile Text.isBlank).head?
    | rest => rest.head?
  else s.head?

end Flags

end StaticAtoms.Log.Pattern
