import Std.Data.TreeMap
import Std.Data.TreeSet
import StaticAtoms.Atom
import StaticAtoms.Manifest.Basic

/-!
# Validating and compiling manifests

* `Manifest.problems` lists everything that is wrong with a manifest, in the order of its
  declarations; a string that is declared again is blamed on its first declaration.
* `Manifest.compile` computes the static atoms of a manifest without problems.
-/

namespace StaticAtoms

/-! ## Identifiers -/

/-- The letters of identifiers. -/
def isIdentStart (c : Char) : Bool :=
  ('A' ≤ c && c ≤ 'Z') || ('a' ≤ c && c ≤ 'z') || c = '_'

/-- The characters of identifiers behind the first one. -/
def isIdentRest (c : Char) : Bool :=
  isIdentStart c || ('0' ≤ c && c ≤ '9')

/-- Whether a text is a letter or underscore followed by letters, digits and underscores. -/
def isIdent (text : String) : Bool :=
  match text.toList with
  | [] => false
  | first :: rest => isIdentStart first && rest.all isIdentRest

namespace Manifest

/-! ## Problems -/

/-- The identifiers declared so far, and the first identifier of each string. -/
structure Seen where
  idents : Std.TreeSet String
  firsts : Std.TreeMap String String

namespace Seen

/-- Nothing is declared yet. -/
def none : Seen := ⟨∅, ∅⟩

/-- What is declared after one more declaration.  Its identifier takes the place of the first one of
its string, which is put back if there was one. -/
def add (seen : Seen) (declaration : Declaration) : Seen where
  idents := seen.idents.insert declaration.ident
  firsts :=
    let replaced := seen.firsts.insert declaration.string declaration.ident
    match seen.firsts[declaration.string]? with
    | some first => replaced.insert declaration.string first
    | .none => replaced

/-- The problems of a declaration. -/
def problems (seen : Seen) (declaration : Declaration) : List Problem :=
  let invalid :=
    if isIdent declaration.ident then [] else [.invalidIdent declaration.ident]
  let repeated :=
    if declaration.ident ∈ seen.idents then [.duplicateIdent declaration.ident] else []
  let shared :=
    match seen.firsts[declaration.string]? with
    | some first => [.duplicateString declaration.ident declaration.string first]
    | .none => []
  invalid ++ repeated ++ shared

/-- The problems of declarations one after another. -/
def problemsOf (seen : Seen) : List Declaration → List Problem
  | [] => []
  | declaration :: rest => seen.problems declaration ++ (seen.add declaration).problemsOf rest

end Seen

/-- Everything that is wrong with a manifest. -/
def problems (manifest : Manifest) : List Problem :=
  Seen.none.problemsOf manifest.atoms

/-! ## Compiling -/

/-- The static atoms of the declarations, in order, if the manifest has no problems. -/
def compile (manifest : Manifest) : Except (List Problem) (List StaticAtom) :=
  match manifest.problems with
  | [] => .ok (manifest.atoms.map fun declaration =>
      .compute declaration.ident declaration.string)
  | problems => .error problems

end Manifest

end StaticAtoms
