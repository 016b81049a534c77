import StaticAtoms.Proofs.Table.Runs

/-!
# Tables as plain lists

A `Roster` is a table without buckets: atoms in the order of their insertion, searched from the front.
Its operations are those of a table, said in terms of the list alone.

`Table.run_refines_roster` is the main statement.  A table that a run leads to has the atoms of the
roster of that run and hands out the same indices, and its buckets find every text, whatever hashes
collide.
-/

namespace StaticAtoms

/-- Atoms in the order of their insertion. -/
abbrev Roster (ι : Type) := List (Atom ι)

namespace Roster

variable {ι : Type}

def index? (roster : Roster ι) (text : String) : Option AtomId :=
  (roster.findIdx? fun atom => atom.text = text).map AtomId.mk

def add (roster : Roster ι) (atom : Atom ι) : AtomId × Roster ι :=
  match roster.index? atom.text with
  | some id => (id, roster)
  | none => (⟨roster.length⟩, roster ++ [atom])

/-- Whether static atoms can be added: they carry the facts of their strings, and the strings are
pairwise distinct and new. -/
def Accepts (roster : Roster String) (atoms : List StaticAtom) : Prop :=
  (∀ atom ∈ atoms, atom = .compute atom.ident atom.string) ∧
    (atoms.map StaticAtom.string).Nodup ∧ ∀ atom ∈ atoms, roster.index? atom.string = none

instance (roster : Roster String) (atoms : List StaticAtom) : Decidable (roster.Accepts atoms) :=
  inferInstanceAs (Decidable (_ ∧ _ ∧ _))

end Roster

/-- Carries out an operation, and gives the indices that it hands out. -/
def Roster.step {ι : Type} (roster : Roster ι) : Operation ι → List AtomId × Roster ι
  | .intern ident text =>
      let (id, after) := roster.add (.ofText ident text)
      ([id], after)
  | .insert atom _ =>
      let (id, after) := roster.add atom
      ([id], after)
  | .register atoms =>
      if roster.Accepts atoms then
        ((List.range' roster.length atoms.length).map AtomId.mk,
          roster ++ atoms.map StaticAtom.toAtom)
      else ([], roster)
  | .reserve _ => ([], roster)
  | .clone => ([], roster)
  | .clear => ([], [])

namespace Roster

variable {ι : Type}

def runFrom (roster : Roster ι) (operations : List (Operation ι)) : Roster ι :=
  operations.foldl (fun roster operation => (roster.step operation).2) roster

def run (operations : List (Operation ι)) : Roster ι :=
  runFrom [] operations

/-! ## What stays -/

theorem getElem?_of_index? {roster : Roster ι} {text : String} {id : AtomId}
    (found : roster.index? text = some id) :
    ∃ atom, roster[id.index]? = some atom ∧ atom.text = text := by
  obtain ⟨index, first, rfl⟩ := Option.map_eq_some_iff.1 found
  obtain ⟨bound, same, -⟩ := List.findIdx?_eq_some_iff_getElem.1 first
  exact ⟨roster[index], List.getElem?_eq_getElem bound, of_decide_eq_true same⟩

theorem index?_eq_none_iff {roster : Roster ι} {text : String} :
    roster.index? text = none ↔ ∀ atom ∈ roster, atom.text ≠ text := by
  simp [index?]

theorem prefix_add (roster : Roster ι) (atom : Atom ι) : roster <+: (roster.add atom).2 := by
  unfold add
  split
  · exact List.prefix_refl roster
  · exact List.prefix_append roster [atom]

theorem prefix_step (roster : Roster ι) {operation : Operation ι} (kept : operation ≠ .clear) :
    roster <+: (roster.step operation).2 := by
  cases operation with
  | intern ident text => exact prefix_add roster _
  | insert atom built => exact prefix_add roster atom
  | register atoms =>
    rw [step]
    split
    · exact List.prefix_append roster _
    · exact List.prefix_refl roster
  | reserve count => exact List.prefix_refl roster
  | clone => exact List.prefix_refl roster
  | clear => exact absurd rfl kept

theorem prefix_runFrom (roster : Roster ι) {operations : List (Operation ι)}
    (kept : ∀ operation ∈ operations, operation ≠ .clear) :
    roster <+: roster.runFrom operations := by
  induction operations generalizing roster with
  | nil => exact List.prefix_refl roster
  | cons operation operations ih =>
    rw [List.forall_mem_cons] at kept
    exact (roster.prefix_step kept.1).trans (ih _ kept.2)

theorem getElem?_add (roster : Roster ι) (atom : Atom ι) :
    ∃ known, (roster.add atom).2[(roster.add atom).1.index]? = some known := by
  unfold add
  split
  next id found =>
    obtain ⟨known, present, -⟩ := getElem?_of_index? found
    exact ⟨known, present⟩
  next => exact ⟨atom, List.getElem?_concat_length⟩

theorem getElem?_step (roster : Roster ι) {operation : Operation ι} {id : AtomId}
    (handed : id ∈ (roster.step operation).1) :
    ∃ atom, (roster.step operation).2[id.index]? = some atom := by
  cases operation with
  | intern ident text =>
    obtain rfl := List.mem_singleton.1 handed
    exact getElem?_add roster _
  | insert atom built =>
    obtain rfl := List.mem_singleton.1 handed
    exact getElem?_add roster atom
  | register atoms =>
    rw [step] at handed ⊢
    split at handed
    next accepted =>
      obtain ⟨index, within, rfl⟩ := List.mem_map.1 handed
      rw [List.mem_range'_1] at within
      have bound : index < (roster ++ atoms.map StaticAtom.toAtom).length := by
        rw [List.length_append, List.length_map]
        exact within.2
      rw [if_pos accepted]
      exact ⟨_, List.getElem?_eq_getElem bound⟩
    next => cases handed
  | reserve count => cases handed
  | clone => cases handed
  | clear => cases handed

end Roster

namespace Table

variable {ι : Type}

/-! ## One step -/

theorem Filed.index?_eq_lookup {table : Table ι} (filed : table.Filed) (text : String) :
    Roster.index? table.entries.toList text = table.lookup text := by
  cases found : Roster.index? table.entries.toList text with
  | some id =>
    obtain ⟨atom, present, same⟩ := Roster.getElem?_of_index? found
    rw [Array.getElem?_toList] at present
    exact (filed.lookup_eq_some_iff.2 ⟨atom, present, same⟩).symm
  | none =>
    rw [Roster.index?_eq_none_iff] at found
    refine (filed.lookup_eq_none_iff.2 ?_).symm
    rintro ⟨atom, member, same⟩
    exact found atom member same

theorem Filed.insert_refines {table : Table ι} (filed : table.Filed) {atom : Atom ι}
    (built : atom.Built) :
    (table.insert atom).1 = (Roster.add table.entries.toList atom).1 ∧
      (table.insert atom).2.entries.toList = (Roster.add table.entries.toList atom).2 := by
  rw [Roster.add, filed.index?_eq_lookup]
  cases found : table.lookup atom.text with
  | some id =>
    rw [insert_eq_of_lookup built found]
    exact ⟨rfl, rfl⟩
  | none =>
    rw [insert_eq_push built found]
    exact ⟨rfl, Array.toList_push⟩

theorem Filed.registrable_iff {table : Table String} (filed : table.Filed)
    (atoms : List StaticAtom) :
    table.Registrable atoms ↔ Roster.Accepts table.entries.toList atoms := by
  simp only [Roster.Accepts, filed.index?_eq_lookup, filed.lookup_eq_none_iff,
    ← StaticAtom.verify_eq_ok_iff_eq_compute]
  exact ⟨fun ⟨verified, distinct, absent⟩ => ⟨verified, distinct, absent⟩,
    fun ⟨verified, distinct, absent⟩ => ⟨verified, distinct, absent⟩⟩

/-- An operation does to a filed table what it does to the list of its atoms. -/
theorem Filed.step_refines {table : Table ι} (filed : table.Filed) (operation : Operation ι) :
    (table.step operation).1 = (Roster.step table.entries.toList operation).1 ∧
      (table.step operation).2.entries.toList =
        (Roster.step table.entries.toList operation).2 := by
  cases operation with
  | intern ident text =>
    obtain ⟨sameId, sameAtoms⟩ := filed.insert_refines (.ofText ident text)
    exact ⟨congrArg (fun id => [id]) sameId, sameAtoms⟩
  | insert atom built =>
    obtain ⟨sameId, sameAtoms⟩ := filed.insert_refines built
    exact ⟨congrArg (fun id => [id]) sameId, sameAtoms⟩
  | register atoms =>
    rw [Table.step, Roster.step]
    by_cases registrable : table.Registrable atoms
    · obtain ⟨after, registered, sameAtoms, -⟩ := filed.register_eq_ok registrable
      rw [if_pos ((filed.registrable_iff atoms).1 registrable), registered]
      exact ⟨rfl, sameAtoms⟩
    · obtain ⟨problem, failed⟩ := filed.register_eq_error registrable
      rw [if_neg (mt (filed.registrable_iff atoms).2 registrable), failed]
      exact ⟨rfl, rfl⟩
  | reserve count => exact ⟨rfl, rfl⟩
  | clone => exact ⟨rfl, rfl⟩
  | clear => exact ⟨rfl, rfl⟩

/-! ## Runs -/

theorem Filed.runFrom_refines {table : Table ι} (filed : table.Filed)
    (operations : List (Operation ι)) :
    (table.runFrom operations).entries.toList =
      Roster.runFrom table.entries.toList operations := by
  induction operations generalizing table with
  | nil => rfl
  | cons operation operations ih =>
    have next := ih (filed.step operation)
    rw [(filed.step_refines operation).2] at next
    exact next

theorem get?_of_prefix {table after : Table ι}
    (kept : table.entries.toList <+: after.entries.toList) {id : AtomId} {atom : Atom ι}
    (found : table.get? id = some atom) : after.get? id = some atom := by
  rw [get?, ← Array.getElem?_toList] at found ⊢
  obtain ⟨bound, rfl⟩ := List.getElem?_eq_some_iff.1 found
  exact List.prefix_iff_getElem?.1 kept _ bound

/-- Every atom stands in the bucket of its text's hash, once, and in no other; no bucket is empty; and
no two atoms have the same text. -/
structure Partitioned (table : Table ι) : Prop where
  once : ∀ id atom, table.get? id = some atom → ∀ hash : UInt32,
    (table.buckets.getD hash []).count id = if hash = Hash.ofText atom.text then 1 else 0
  inside : ∀ (hash : UInt32) (id : AtomId),
    id ∈ table.buckets.getD hash [] → id.index < table.size
  occupied : ∀ hash : UInt32, table.buckets[hash]? ≠ some []
  distinct : ∀ left right first second, table.get? left = some first →
    table.get? right = some second → first.text = second.text → left = right

theorem Filed.partitioned {table : Table ι} (filed : table.Filed) : table.Partitioned where
  once id atom found hash := by
    have alone : (table.buckets.getD hash []).Nodup := by
      rw [filed.bucket]
      exact nodup_indicesOf _ _
    -- Without repetitions, an index is counted once or not at all.
    rw [alone.count]
    refine ite_congr (propext ?_) (fun _ => rfl) fun _ => rfl
    rw [filed.mem_bucket]
    constructor
    · rintro ⟨other, present, rfl⟩
      rw [found] at present
      cases present
      rfl
    · rintro rfl
      exact ⟨atom, found, rfl⟩
  inside hash id member := by
    obtain ⟨atom, found, -⟩ := filed.mem_bucket.1 member
    exact (Array.getElem?_eq_some_iff.1 found).1
  occupied := filed.occupied
  distinct _ _ _ _ foundLeft foundRight same := filed.unique foundLeft foundRight same

/-- Texts are looked up by what the entries say. -/
structure FindsTexts (table : Table ι) : Prop where
  lookup : ∀ text id, table.lookup text = some id ↔
    ∃ atom, table.get? id = some atom ∧ atom.text = text
  lookupWithHash : ∀ hash text, table.lookupWithHash hash text =
    if hash = Hash.ofText text then table.lookup text else none

/-- Interning and inserting a text are the same.  A text that is there leaves the table as it is, and
another one is appended. -/
structure AddsOnce (table : Table ι) : Prop where
  same : ∀ ident text, table.intern ident text = table.insert (.ofText ident text)
  known : ∀ ident text id, table.lookup text = some id → table.intern ident text = (id, table)
  new : ∀ ident text, table.lookup text = none →
    (table.intern ident text).1 = ⟨table.size⟩ ∧
      (table.intern ident text).2.entries = table.entries.push (.ofText ident text)

theorem addsOnce (table : Table ι) : table.AddsOnce where
  same ident text := intern_eq_insert table ident text
  known ident text _ found := insert_eq_of_lookup (.ofText ident text) found
  new ident text absent := by
    rw [intern_eq_insert, insert_eq_push (.ofText ident text) absent]
    exact ⟨rfl, rfl⟩

/-- An index that is handed out keeps its atom as long as the table is not cleared. -/
theorem Filed.keeps_ids {table : Table ι} (filed : table.Filed) (operation : Operation ι)
    {later : List (Operation ι)} (kept : ∀ other ∈ later, other ≠ .clear) {id : AtomId}
    (handed : id ∈ (table.step operation).1) :
    ∃ atom, (table.step operation).2.get? id = some atom ∧
      ((table.step operation).2.runFrom later).get? id = some atom := by
  obtain ⟨sameIds, sameAtoms⟩ := filed.step_refines operation
  rw [sameIds] at handed
  obtain ⟨atom, found⟩ := Roster.getElem?_step _ handed
  rw [← sameAtoms, Array.getElem?_toList] at found
  -- Later operations append to the roster, so that positions stay.
  refine ⟨atom, found, get?_of_prefix ?_ found⟩
  rw [(filed.step operation).runFrom_refines]
  exact Roster.prefix_runFrom _ kept

/-- A table is a plain list of atoms with different texts, in the order of their insertion, after
every run. -/
theorem run_refines_roster (operations : List (Operation ι)) :
    (run operations).entries.toList = Roster.run operations ∧
    (∀ operation, ((run operations).step operation).1 =
      ((Roster.run operations).step operation).1) ∧
    (run operations).Partitioned ∧ (run operations).FindsTexts ∧ (run operations).AddsOnce ∧
    ∀ operation later, (∀ other ∈ later, other ≠ .clear) →
      ∀ id ∈ ((run operations).step operation).1,
        ∃ atom, (run (operations ++ [operation])).get? id = some atom ∧
          (run (operations ++ operation :: later)).get? id = some atom := by
  have filed := filed_run operations
  have sameAtoms : (run operations).entries.toList = Roster.run operations :=
    filed_empty.runFrom_refines operations
  refine ⟨sameAtoms, fun operation => ?_, filed.partitioned,
    ⟨fun _ _ => filed.lookup_eq_some_iff, filed.find?_eq⟩, addsOnce _, ?_⟩
  · rw [(filed.step_refines operation).1, sameAtoms]
  · intro operation later kept id handed
    rw [run_concat, run_append]
    exact filed.keeps_ids operation kept handed

/-- Two texts with one hash are found apart, and stay where they are. -/
theorem run_refines_roster_colliding :
    let table := run [.intern "first" "atom_359078", .intern "second" "atom_3000486"]
    table.buckets.getD 0x0B2339E6 [] = [⟨0⟩, ⟨1⟩] ∧ table.lookup "atom_3000486" = some ⟨1⟩ ∧
      ∃ atom, table.get? ⟨1⟩ = some atom ∧
        (run [.intern "first" "atom_359078", .intern "second" "atom_3000486", .reserve 7]).get? ⟨1⟩ =
          some atom := by
  obtain ⟨-, -, -, finds, -, -⟩ :=
    run_refines_roster [.intern "first" "atom_359078", .intern "second" "atom_3000486"]
  obtain ⟨-, -, -, -, -, keeps⟩ := run_refines_roster [.intern "first" "atom_359078"]
  refine ⟨by decide +kernel, (finds.lookup _ _).2 ⟨_, rfl, rfl⟩, ?_⟩
  exact keeps (.intern "second" "atom_3000486") [.reserve 7] (by simp) ⟨1⟩ (by decide +kernel)

end Table

end StaticAtoms
