import StaticAtoms.Json.Record
import StaticAtoms.Json.Writer
import StaticAtoms.Problem

/-!
# Manifests

A manifest lists the atoms that are to be generated.

* `Manifest.parse` reads the JSON form, in which unknown keys are refused.
* `Manifest.json` writes it.
-/

namespace StaticAtoms

/-- An identifier and its string. -/
structure Declaration where
  ident : String
  string : String
deriving DecidableEq

/-- The declared atoms, in order. -/
structure Manifest where
  atoms : List Declaration
deriving DecidableEq

namespace Declaration

/-- What is known of a declaration while it is read. -/
structure Draft where
  ident : Option String
  string : Option String

/-- The declaration, or the key of its first missing field. -/
def Draft.finish (draft : Draft) : Except String Declaration :=
  match draft.ident, draft.string with
  | none, _ => .error "ident"
  | some _, none => .error "string"
  | some ident, some string => .ok ⟨ident, string⟩

/-- The JSON form of a declaration. -/
def record : Json.Record Draft Declaration where
  name := "StaticAtomDecl"
  blank := ⟨none, none⟩
  fields :=
    [{ key := "ident"
       isSet := fun draft => draft.ident.isSome
       value := Json.Reader.text.map fun ident draft => { draft with ident := some ident } },
     { key := "string"
       isSet := fun draft => draft.string.isSome
       value := Json.Reader.text.map fun string draft => { draft with string := some string } }]
  isOpen := false
  finish := Draft.finish

/-- A declaration as JSON. -/
def write (layout : Json.Layout) (depth : Nat) (declaration : Declaration) : List Char :=
  Json.writeObject layout depth
    [("ident", Json.writeText declaration.ident), ("string", Json.writeText declaration.string)]

end Declaration

namespace Manifest

/-- What is known of a manifest while it is read. -/
structure Draft where
  atoms : Option (List Declaration)

/-- The manifest, or the key of its missing field. -/
def Draft.finish (draft : Draft) : Except String Manifest :=
  match draft.atoms with
  | none => .error "atoms"
  | some atoms => .ok ⟨atoms⟩

/-- The JSON form of a manifest. -/
def record : Json.Record Draft Manifest where
  name := "Manifest"
  blank := ⟨none⟩
  fields :=
    [{ key := "atoms"
       isSet := fun draft => draft.atoms.isSome
       value := (Json.Reader.list Declaration.record.reader).map fun atoms draft =>
         { draft with atoms := some atoms } }]
  isOpen := false
  finish := Draft.finish

/-- Reads the JSON form of a manifest. -/
def parse (source : String) : Except Problem Manifest :=
  match Json.parse record.reader source with
  | .ok manifest => .ok manifest
  | .error cause => .error (.invalidManifest cause)

/-- A manifest as JSON. -/
def write (layout : Json.Layout) (depth : Nat) (manifest : Manifest) : List Char :=
  Json.writeObject layout depth
    [("atoms",
      Json.writeList layout (depth + 1)
        (manifest.atoms.map (Declaration.write layout (depth + 2))))]

/-- A manifest as JSON without blanks. -/
def json (manifest : Manifest) : String :=
  String.ofList (manifest.write .compact 0)

end Manifest

end StaticAtoms
