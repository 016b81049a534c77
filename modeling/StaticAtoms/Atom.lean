import StaticAtoms.Hash.Basic
import StaticAtoms.Problem

/-!
# Atoms

An atom is a text with an identity and the two facts that it is looked up by: its hash, and whether
it is free of ASCII capitals.  Both are computed once, by `Atom.ofText`.

* `Atom.ofUnits` builds an atom from UTF-16 code units and refuses unpaired surrogates.
* `StaticAtom` is an atom as a table of static atoms carries it.  Its facts are carried, not computed;
  `StaticAtom.verify` recomputes and compares them.
-/

namespace StaticAtoms

/-! ## Atoms -/

/-- A text with its identity, its hash, and whether it is free of ASCII capitals. -/
structure Atom (ι : Type) where
  ident : ι
  text : String
  hash : UInt32
  lowercase : Bool
deriving DecidableEq, BEq

namespace Atom

variable {ι : Type}

/-- The atom of a text. -/
def ofText (ident : ι) (text : String) : Atom ι where
  ident
  text
  hash := Hash.ofText text
  lowercase := isLowercase text

/-- The atom of the text that code units denote. -/
def ofUnits (ident : ι) (units : List UInt16) : Except Problem (Atom ι) :=
  match Utf16.decode? units with
  | some text => .ok (ofText ident text)
  | none => .error (.unpairedSurrogate (Utf16.faultOffset units))

/-- The number of UTF-16 code units of the text. -/
def lengthUnits (atom : Atom ι) : Nat :=
  Utf16.length atom.text

/-- The quoted text and the hash. -/
def display (atom : Atom ι) : String :=
  s!"{Quoted.quote atom.text}#{Hex.word atom.hash}"

end Atom

/-! ## Static atoms -/

/-- An atom as it is written into a generated table. -/
structure StaticAtom where
  ident : String
  string : String
  hash : UInt32
  lowercase : Bool
deriving DecidableEq

/-- An atom as a table of static atoms carries it, with its identity written out. -/
def Atom.toStatic {ι : Type} [ToString ι] (atom : Atom ι) : StaticAtom where
  ident := toString atom.ident
  string := atom.text
  hash := atom.hash
  lowercase := atom.lowercase

namespace StaticAtom

/-- The static atom of a string, with the facts computed. -/
def compute (ident string : String) : StaticAtom where
  ident
  string
  hash := Hash.ofText string
  lowercase := isLowercase string

/-- Compares the hash with that of the string, and then the flag. -/
def verify (atom : StaticAtom) : Except Problem Unit :=
  let hash := Hash.ofText atom.string
  let lowercase := isLowercase atom.string
  if atom.hash ≠ hash then
    .error (.hashMismatch atom.ident atom.string atom.hash hash)
  else if atom.lowercase ≠ lowercase then
    .error (.lowercaseMismatch atom.ident atom.string atom.lowercase lowercase)
  else
    .ok ()

/-- What `verify` objects to. -/
def problem? (atom : StaticAtom) : Option Problem :=
  match atom.verify with
  | .ok () => none
  | .error problem => some problem

/-- The problems of a list of atoms, one for each atom that has any. -/
def verifyAll (atoms : List StaticAtom) : List Problem :=
  atoms.filterMap problem?

/-- The atom of the string; what is carried along does not matter. -/
def toAtom (atom : StaticAtom) : Atom String :=
  .ofText atom.ident atom.string

end StaticAtom

end StaticAtoms
