import StaticAtoms.Fingerprint
import StaticAtoms.Json.Record
import StaticAtoms.Json.Writer

/-!
# Generated tables

A generated table is a list of static atoms with its fingerprint, in JSON.

* `GeneratedTable.parse` reads it; keys that it does not know are passed over.
* `GeneratedTable.write` writes it, compact or pretty.
* `GeneratedTable.render` is the table of given atoms as the generator prints it.
-/

namespace StaticAtoms

namespace StaticAtom

/-- What is known of a static atom while it is read. -/
structure Draft where
  ident : Option String
  string : Option String
  hash : Option UInt32
  lowercase : Option Bool

/-- The static atom, or the key of its first missing field. -/
def Draft.finish (draft : Draft) : Except String StaticAtom :=
  match draft.ident, draft.string, draft.hash, draft.lowercase with
  | none, _, _, _ => .error "ident"
  | some _, none, _, _ => .error "string"
  | some _, some _, none, _ => .error "hash"
  | some _, some _, some _, none => .error "is_ascii_lowercase"
  | some ident, some string, some hash, some lowercase => .ok ⟨ident, string, hash, lowercase⟩

/-- The JSON form of a static atom. -/
def record : Json.Record Draft StaticAtom where
  name := "PrecomputedAtom"
  blank := ⟨none, none, none, none⟩
  fields :=
    [{ key := "ident"
       isSet := fun draft => draft.ident.isSome
       value := Json.Reader.text.map fun ident draft => { draft with ident := some ident } },
     { key := "string"
       isSet := fun draft => draft.string.isSome
       value := Json.Reader.text.map fun string draft => { draft with string := some string } },
     { key := "hash"
       isSet := fun draft => draft.hash.isSome
       value := Json.Reader.word32.map fun hash draft => { draft with hash := some hash } },
     { key := "is_ascii_lowercase"
       isSet := fun draft => draft.lowercase.isSome
       value := Json.Reader.boolean.map fun lowercase draft =>
         { draft with lowercase := some lowercase } }]
  isOpen := true
  finish := Draft.finish

/-- A static atom as JSON. -/
def write (layout : Json.Layout) (depth : Nat) (atom : StaticAtom) : List Char :=
  Json.writeObject layout depth
    [("ident", Json.writeText atom.ident), ("string", Json.writeText atom.string),
      ("hash", Json.writeNat atom.hash.toNat),
      ("is_ascii_lowercase", Json.writeFlag atom.lowercase)]

end StaticAtom

/-- Static atoms with a fingerprint, which need not be theirs. -/
structure GeneratedTable where
  fingerprint : String
  atoms : List StaticAtom
deriving DecidableEq

namespace GeneratedTable

/-- What is known of a table while it is read. -/
structure Draft where
  fingerprint : Option String
  atoms : Option (List StaticAtom)

/-- The table, or the key of its first missing field. -/
def Draft.finish (draft : Draft) : Except String GeneratedTable :=
  match draft.fingerprint, draft.atoms with
  | none, _ => .error "fingerprint"
  | some _, none => .error "atoms"
  | some fingerprint, some atoms => .ok ⟨fingerprint, atoms⟩

/-- The JSON form of a generated table. -/
def record : Json.Record Draft GeneratedTable where
  name := "GeneratedTable"
  blank := ⟨none, none⟩
  fields :=
    [{ key := "fingerprint"
       isSet := fun draft => draft.fingerprint.isSome
       value := Json.Reader.text.map fun fingerprint draft =>
         { draft with fingerprint := some fingerprint } },
     { key := "atoms"
       isSet := fun draft => draft.atoms.isSome
       value := (Json.Reader.list StaticAtom.record.reader).map fun atoms draft =>
         { draft with atoms := some atoms } }]
  isOpen := true
  finish := Draft.finish

/-- Reads the JSON form of a generated table. -/
def parse (source : String) : Except Problem GeneratedTable :=
  match Json.parse record.reader source with
  | .ok table => .ok table
  | .error cause => .error (.invalidTable cause)

/-- A generated table as JSON. -/
def write (layout : Json.Layout) (depth : Nat) (table : GeneratedTable) : List Char :=
  Json.writeObject layout depth
    [("fingerprint", Json.writeText table.fingerprint),
      ("atoms",
        Json.writeList layout (depth + 1)
          (table.atoms.map (StaticAtom.write layout (depth + 2))))]

/-- A generated table as JSON without blanks. -/
def compact (table : GeneratedTable) : String :=
  String.ofList (table.write .compact 0)

/-- A generated table as indented JSON, ended by a line feed. -/
def pretty (table : GeneratedTable) : String :=
  String.ofList (table.write .pretty 0 ++ ['\n'])

/-- The fingerprint of the entries, as it should be recorded. -/
def computedFingerprint (table : GeneratedTable) : String :=
  (Fingerprint.ofAtoms table.atoms).hex

/-- Whether the recorded fingerprint is that of the entries. -/
def fingerprintMatches (table : GeneratedTable) : Bool :=
  table.computedFingerprint = table.fingerprint

/-- The table of the given atoms. -/
def ofAtoms (atoms : List StaticAtom) : GeneratedTable :=
  ⟨(Fingerprint.ofAtoms atoms).hex, atoms⟩

/-- The table of the given atoms as the generator prints it. -/
def render (atoms : List StaticAtom) : String :=
  (ofAtoms atoms).pretty

end GeneratedTable

end StaticAtoms
