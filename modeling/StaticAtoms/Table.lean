import Std.Data.TreeMap
import StaticAtoms.Atom

/-!
# Tables of atoms

A table holds atoms with pairwise different texts and hands out their indices.  Atoms are filed in
buckets by hash, and texts are compared within a bucket, so that colliding texts are kept apart.

* `Table.intern` and `Table.insert` add an atom unless its text is there already.
* `Table.lookup` and `Table.get?` find an atom by its text and by its index.
* `Table.register` adds static atoms, all of them or none.
* `Table.stats` counts collisions.
-/

namespace StaticAtoms

/-- A map whose keys are hashes. -/
abbrev ByHash (β : Type) := Std.TreeMap UInt32 β

/-- The index of an atom in the table that handed it out. -/
structure AtomId where
  index : Nat
deriving DecidableEq

/-- The number of indices that there are.  The tool stops rather than hand out another one; a `Table`
goes on, and statements about its indices say where they stay below this number. -/
def AtomId.limit : Nat := 0x100000000

/-- How an index is shown in messages. -/
def AtomId.display (id : AtomId) : String :=
  s!"AtomId({id.index})"

/-- Atoms in the order of their insertion, and their indices by hash. -/
structure Table (ι : Type) where
  buckets : ByHash (List AtomId)
  entries : Array (Atom ι)

/-- The occupancy of a table. -/
structure TableStats where
  /-- The number of atoms. -/
  atoms : Nat
  /-- The number of different hashes. -/
  buckets : Nat
  /-- The largest number of atoms with one hash. -/
  largestBucket : Nat
  /-- The number of atoms that share their hash with another. -/
  collided : Nat
deriving DecidableEq

namespace Table

variable {ι : Type}

/-- The table without atoms. -/
def empty : Table ι := ⟨∅, #[]⟩

/-- The number of atoms. -/
def size (table : Table ι) : Nat :=
  table.entries.size

/-- Whether there are no atoms. -/
def isEmpty (table : Table ι) : Bool :=
  table.entries.isEmpty

/-- Makes room for more atoms, which nothing can observe. -/
def reserve (table : Table ι) (_count : Nat) : Table ι :=
  table

/-- Forgets all atoms. -/
def clear (_table : Table ι) : Table ι :=
  empty

/-! ## Looking up -/

/-- The atom with the given index. -/
def get? (table : Table ι) (id : AtomId) : Option (Atom ι) :=
  table.entries[id.index]?

/-- Whether the atom with the given index has the given text. -/
def holds (table : Table ι) (text : String) (id : AtomId) : Bool :=
  match table.get? id with
  | some atom => atom.text = text
  | none => false

/-- The index of the atom with the given text in the bucket of the given hash. -/
def find? (table : Table ι) (hash : UInt32) (text : String) : Option AtomId :=
  (table.buckets.getD hash []).find? (table.holds text)

/-- The index of the atom with the given text. -/
def lookup (table : Table ι) (text : String) : Option AtomId :=
  table.find? (Hash.ofText text) text

/-- The index of the atom with the given text, when the caller has its hash already. -/
def lookupWithHash (table : Table ι) (hash : UInt32) (text : String) : Option AtomId :=
  table.find? hash text

/-- All atoms with their indices, in the order of their insertion. -/
def toList (table : Table ι) : List (AtomId × Atom ι) :=
  table.entries.toList.zipIdx.map fun (atom, index) => (⟨index⟩, atom)

/-! ## Adding -/

/-- Appends an atom, whatever its text, and files it under its hash.  There is an index for it if the
table has fewer than `AtomId.limit` atoms. -/
def push (table : Table ι) (atom : Atom ι) : AtomId × Table ι :=
  let id : AtomId := ⟨table.entries.size⟩
  let bucket := table.buckets.getD atom.hash []
  (id, ⟨table.buckets.insert atom.hash (bucket ++ [id]), table.entries.push atom⟩)

/-- Adds an atom unless there is one with the same text; gives the index of the one that is there. -/
def insert (table : Table ι) (atom : Atom ι) : AtomId × Table ι :=
  match table.find? atom.hash atom.text with
  | some id => (id, table)
  | none => table.push atom

/-- Adds the atom of a text unless the text is there already, in which case its atom keeps the
identity that it has. -/
def intern (table : Table ι) (ident : ι) (text : String) : AtomId × Table ι :=
  match table.find? (Hash.ofText text) text with
  | some id => (id, table)
  | none => table.push (.ofText ident text)

/-! ## Registering static atoms -/

/-- Checks static atoms one after another: each has to carry the facts of its string, and its string
must be neither in the table nor among the strings of `pending`, the atoms checked before. -/
def checkStatic (table : Table String) (pending : ByHash (List String)) :
    List StaticAtom → Except Problem Unit
  | [] => .ok ()
  | atom :: rest =>
      match atom.verify with
      | .error problem => .error problem
      | .ok () =>
          let seen := pending.getD atom.hash []
          if atom.string ∈ seen ∨ (table.find? atom.hash atom.string).isSome then
            .error (.reRegistered atom.ident atom.string)
          else
            table.checkStatic (pending.insert atom.hash (seen ++ [atom.string])) rest

/-- Appends the atoms of static atoms. -/
def pushStatic (table : Table String) : List StaticAtom → List AtomId × Table String
  | [] => ([], table)
  | atom :: rest =>
      let (id, table) := table.push atom.toAtom
      let (ids, table) := table.pushStatic rest
      (id :: ids, table)

/-- Adds static atoms and gives their indices, and the table afterwards.  All of them are checked before
the first one is added. -/
def register (table : Table String) (atoms : List StaticAtom) :
    Except Problem (List AtomId) × Table String :=
  match table.checkStatic ∅ atoms with
  | .error problem => (.error problem, table)
  | .ok () =>
      let (ids, table) := (table.reserve atoms.length).pushStatic atoms
      (.ok ids, table)

/-! ## Occupancy -/

/-- Counts one more bucket. -/
def addBucket (stats : TableStats) (bucket : List AtomId) : TableStats :=
  { stats with
    largestBucket := max stats.largestBucket bucket.length
    collided := stats.collided + if 1 < bucket.length then bucket.length else 0 }

/-- The occupancy of the table. -/
def stats (table : Table ι) : TableStats :=
  table.buckets.foldl (fun stats _ bucket => addBucket stats bucket)
    ⟨table.entries.size, table.buckets.size, 0, 0⟩

end Table

end StaticAtoms
