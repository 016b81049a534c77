import StaticAtoms.Log.Pattern.Part

/-!
# Sets of characters in regular expressions

A set stands between square brackets.  It holds characters, ranges, named sets and other sets, and
operators between them.

* `Progress` is what is read of a set that is open.
* `Set.read` reads a set and gives its height.

Where bytes are matched, a set may hold nothing outside of ASCII, and so may not be negated.
-/

namespace StaticAtoms.Log.Pattern.Set

/-! ## Members -/

/-- The sets that have a name. -/
def names : List String :=
  ["alnum", "alpha", "ascii", "blank", "cntrl", "digit", "graph", "lower", "print", "punct",
    "space", "upper", "word", "xdigit"]

/-- Reads the name of a set between colons, behind its bracket, and the bracket that closes it.  The
first result says whether `^` makes it stand for all other characters. -/
def readName? : List Char → Option (Bool × List Char)
  | ':' :: rest =>
      let negated := rest.head? = some '^'
      let rest := if negated then rest.tail else rest
      match rest.dropWhile (· ≠ ':') with
      | ':' :: ']' :: behind =>
          let name := String.ofList (rest.takeWhile (· ≠ ':'))
          if names.contains name then some (negated, behind) else none
      | _ => none
  | _ => none

/-- Reads one end of a range. -/
def readEnd (flags : Flags) : List Char → Option (Part × List Char)
  | [] => none
  | '\\' :: rest => Part.readEscape flags rest
  | c :: rest => some (.character c, rest)

/-- Whether a part may belong to a set. -/
def isMember (flags : Flags) : Part → Bool
  | .character c => flags.unicode || c.toNat < 0x80
  | .set => true
  | .place => false

/-- Whether two parts are the ends of a range. -/
def isRange (flags : Flags) : Part → Part → Bool
  | .character low, .character high =>
      low ≤ high && isMember flags (.character low) && isMember flags (.character high)
  | _, _ => false

/-- Reads the end of a range behind a hyphen. -/
def readRange (flags : Flags) (first : Part) (s : List Char) : Option (List Char) :=
  match readEnd flags (flags.skip s) with
  | none => none
  | some (last, rest) => if isRange flags first last then some rest else none

/-- Whether a hyphen makes a range with what stands behind it: not in front of another hyphen or of
the closing bracket. -/
def beginsRange (flags : Flags) (s : List Char) : Bool :=
  flags.peek? s ≠ some ']' && flags.peek? s ≠ some '-'

/-- Reads a character or a range. -/
def readMember (flags : Flags) (s : List Char) : Option (List Char) :=
  match readEnd flags s with
  | none => none
  | some (first, rest) =>
      let single := if isMember flags first then some (flags.skip rest) else none
      match flags.skip rest with
      | '-' :: behind => if beginsRange flags behind then readRange flags first behind else single
      | _ => single

/-! ## Open sets -/

/-- What is read of a set: the height of what stands in front of the last operator, and the heights of
the members behind it.  A set is fresh as long as it holds only hyphens. -/
structure Progress where
  left : Option Nat
  members : List Nat
  fresh : Bool
deriving DecidableEq

namespace Progress

/-- Nothing is read. -/
def start : Progress := ⟨none, [], true⟩

/-- The height of what is read. -/
def height (progress : Progress) : Nat :=
  match progress.left with
  | none => together progress.members
  | some left => 1 + max left (together progress.members)

/-- Adds a member. -/
def add (progress : Progress) (height : Nat) : Progress :=
  { progress with members := height :: progress.members, fresh := false }

/-- Adds a hyphen that stands for itself at the beginning. -/
def addHyphen (progress : Progress) : Progress :=
  { progress with members := 0 :: progress.members }

/-- Adds an operator. -/
def operate (progress : Progress) : Progress :=
  ⟨some progress.height, [], false⟩

end Progress

/-- What is read of a set, and of the sets around it, the innermost first. -/
structure State where
  inner : Progress
  outer : List Progress
deriving DecidableEq

/-- What a step leads to: another place between brackets, or the end of the outermost set with its
height. -/
inductive Next where
  | within (state : State)
  | closed (height : Nat)
deriving DecidableEq

namespace State

/-- Closes the innermost set. -/
def close (state : State) : Next :=
  let height := 1 + state.inner.height
  match state.outer with
  | [] => .closed height
  | around :: outer => .within ⟨around.add height, outer⟩

/-- Opens a set. -/
def enter (state : State) : State :=
  ⟨.start, state.inner :: state.outer⟩

end State

/-! ## Reading -/

/-- Passes over the sign of a negated set, behind its bracket. -/
def readSign (flags : Flags) (s : List Char) : Option (List Char) :=
  match flags.skip s with
  | '^' :: rest => if flags.unicode then some rest else none
  | s => some s

/-- Reads a set within a set behind its bracket: one with a name, or the beginning of another one. -/
def readInner (flags : Flags) (state : State) (s : List Char) : Option (Next × List Char) :=
  match readName? s with
  | some (negated, rest) =>
      if flags.foldsAll || negated && !flags.unicode then none
      else some (.within { state with inner := state.inner.add 0 }, rest)
  | none => (readSign flags s).map fun rest => (.within state.enter, rest)

/-- Reads what is no bracket and no operator.  No table tells the other case of a character. -/
def readPlain (flags : Flags) (state : State) (s : List Char) : Option (Next × List Char) :=
  if flags.foldsAll then none
  else (readMember flags s).map fun rest => (.within { state with inner := state.inner.add 0 }, rest)

/-- Reads a hyphen that stands for itself at the beginning. -/
def readHyphen (flags : Flags) (state : State) (rest : List Char) : Option (Next × List Char) :=
  if flags.foldsAll then none
  else some (.within { state with inner := state.inner.addHyphen }, rest)

/-- Reads on in a set.  At its very beginning a closing bracket stands for itself. -/
def step (flags : Flags) (state : State) (s : List Char) : Option (Next × List Char) :=
  let operated : Next := .within { state with inner := state.inner.operate }
  match flags.skip s with
  | [] => none
  | ']' :: rest =>
      if state.inner = .start then
        if flags.foldsAll then none
        else some (.within { state with inner := state.inner.add 0 }, rest)
      else some (state.close, rest)
  | '[' :: rest => readInner flags state rest
  | '&' :: '&' :: rest => some (operated, rest)
  | '~' :: '~' :: rest => some (operated, rest)
  | '-' :: rest =>
      if state.inner.fresh then readHyphen flags state rest
      else if rest.head? = some '-' then some (operated, rest.tail)
      else readPlain flags state ('-' :: rest)
  | s => readPlain flags state s

/-- Reads to the end of the outermost set.  Every step shortens what is left. -/
def readAll (flags : Flags) (state : State) (s : List Char) : Option (Nat × List Char) :=
  match step flags state s with
  | none => none
  | some (.closed height, rest) => some (height, rest)
  | some (.within state, rest) =>
      if _shorter : rest.length < s.length then readAll flags state rest else none
termination_by s.length

/-- Reads a set behind its bracket, and gives its height. -/
def read (flags : Flags) (s : List Char) : Option (Nat × List Char) :=
  match readSign flags s with
  | none => none
  | some rest => readAll flags ⟨.start, []⟩ rest

end StaticAtoms.Log.Pattern.Set
