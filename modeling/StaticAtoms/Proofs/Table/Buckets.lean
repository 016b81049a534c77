import StaticAtoms.Table

/-!
# Buckets of a table

The buckets of a table are determined by its entries: the bucket of a hash lists the indices of the
atoms with that hash, in the order of their insertion.  `Table.Filed` says so, together with what
keeps the atoms apart, and every operation that adds an atom keeps it.

* `Table.Filed.find?_eq_some_iff` is the answer of a search in a bucket; all other facts about
  looking up follow from it.
* `Table.Filed.push`, `Table.Filed.insert` and `Table.Filed.intern` are the step lemmas.
-/

namespace StaticAtoms

/-! ## Atoms that carry the facts of their text -/

/-- An atom that comes from one of the ways to build atoms. -/
inductive Atom.Built : {ι : Type} → Atom ι → Prop where
  | ofText {ι : Type} (ident : ι) (text : String) : Built (.ofText ident text)
  | ofUnits {ι : Type} {ident : ι} {units : List UInt16} {atom : Atom ι}
      (decoded : Atom.ofUnits ident units = .ok atom) : Built atom
  | ofStatic (static : StaticAtom) : Built static.toAtom

namespace Atom

variable {ι : Type}

theorem eq_ofText_of_ofUnits {ident : ι} {units : List UInt16} {atom : Atom ι}
    (decoded : ofUnits ident units = .ok atom) : ∃ text, atom = ofText ident text := by
  unfold ofUnits at decoded
  split at decoded
  · cases decoded
    exact ⟨_, rfl⟩
  · cases decoded

/-- Whichever way an atom is built, it carries the facts of its text. -/
theorem Built.eq_ofText {atom : Atom ι} (built : atom.Built) :
    atom = Atom.ofText atom.ident atom.text := by
  cases built with
  | ofText ident text => rfl
  | ofUnits decoded =>
    obtain ⟨text, rfl⟩ := eq_ofText_of_ofUnits decoded
    rfl
  | ofStatic static => rfl

theorem Built.hash_eq {atom : Atom ι} (built : atom.Built) :
    atom.hash = Hash.ofText atom.text :=
  congrArg hash built.eq_ofText

theorem Built.lowercase_eq {atom : Atom ι} (built : atom.Built) :
    atom.lowercase = isLowercase atom.text :=
  congrArg lowercase built.eq_ofText

end Atom

namespace Table

variable {ι : Type}

/-! ## The indices of a hash -/

/-- The indices of the atoms with a hash, in ascending order. -/
def indicesOf (entries : List (Atom ι)) (hash : UInt32) : List AtomId :=
  (entries.zipIdx.filter fun entry => entry.1.hash = hash).map fun entry => ⟨entry.2⟩

@[simp] theorem indicesOf_nil (hash : UInt32) : indicesOf ([] : List (Atom ι)) hash = [] := rfl

theorem indicesOf_concat (entries : List (Atom ι)) (atom : Atom ι) (hash : UInt32) :
    indicesOf (entries ++ [atom]) hash =
      indicesOf entries hash ++ if atom.hash = hash then [⟨entries.length⟩] else [] := by
  by_cases same : atom.hash = hash <;>
    simp [indicesOf, List.zipIdx_append, List.filter_append, same]

theorem mem_indicesOf {entries : List (Atom ι)} {hash : UInt32} {id : AtomId} :
    id ∈ indicesOf entries hash ↔ ∃ atom, entries[id.index]? = some atom ∧ atom.hash = hash := by
  obtain ⟨index⟩ := id
  simp [indicesOf, List.mem_zipIdx_iff_getElem?, and_comm]

theorem nodup_indicesOf (entries : List (Atom ι)) (hash : UInt32) :
    (indicesOf entries hash).Nodup := by
  have ascending : (entries.zipIdx.map Prod.snd).Nodup := by
    rw [List.zipIdx_map_snd]
    exact List.nodup_range'
  -- Filtering and wrapping keep the indices apart.
  have kept := ascending.sublist ((List.filter_sublist (l := entries.zipIdx)
    (p := fun entry => entry.1.hash = hash)).map Prod.snd)
  have mapped := List.Pairwise.map AtomId.mk (S := (· ≠ ·))
    (fun _ _ different same => different (AtomId.mk.inj same)) kept
  rw [List.map_map] at mapped
  exact mapped

/-! ## Filed tables -/

/-- The buckets of the table follow from its entries, and its atoms have different texts. -/
structure Filed (table : Table ι) : Prop where
  bucket : ∀ hash : UInt32, table.buckets.getD hash [] = indicesOf table.entries.toList hash
  occupied : ∀ hash : UInt32, table.buckets[hash]? ≠ some []
  built : ∀ atom ∈ table.entries.toList, atom.Built
  distinct : (table.entries.toList.map Atom.text).Nodup

theorem filed_empty : (empty : Table ι).Filed where
  bucket hash := by simp [empty]
  occupied hash := by simp [empty]
  built atom member := by simp [empty] at member
  distinct := by simp [empty]

/-- Whether the table has an atom with the text. -/
def HasText (table : Table ι) (text : String) : Prop :=
  ∃ atom ∈ table.entries.toList, atom.text = text

instance (table : Table ι) (text : String) : Decidable (table.HasText text) :=
  inferInstanceAs (Decidable (∃ atom ∈ table.entries.toList, atom.text = text))

theorem hasText_iff_get? {table : Table ι} {text : String} :
    table.HasText text ↔ ∃ id atom, table.get? id = some atom ∧ atom.text = text := by
  simp only [HasText, List.mem_iff_getElem?, Array.getElem?_toList, get?]
  constructor
  · rintro ⟨atom, ⟨index, found⟩, same⟩
    exact ⟨⟨index⟩, atom, found, same⟩
  · rintro ⟨⟨index⟩, atom, found, same⟩
    exact ⟨atom, ⟨index, found⟩, same⟩

theorem mem_toList_iff {table : Table ι} {id : AtomId} {atom : Atom ι} :
    (id, atom) ∈ table.toList ↔ table.get? id = some atom := by
  simp only [toList, get?, List.mem_map, Prod.exists, List.mem_zipIdx_iff_getElem?,
    Array.getElem?_toList]
  constructor
  · rintro ⟨_, _, found, same⟩
    cases same
    exact found
  · exact fun found => ⟨atom, id.index, found, rfl⟩

namespace Filed

variable {table : Table ι}

theorem built_of_get? (filed : table.Filed) {id : AtomId} {atom : Atom ι}
    (found : table.get? id = some atom) : atom.Built := by
  have member : atom ∈ table.entries := Array.mem_of_getElem? found
  exact filed.built atom member.val

theorem hash_eq (filed : table.Filed) {id : AtomId} {atom : Atom ι}
    (found : table.get? id = some atom) : atom.hash = Hash.ofText atom.text :=
  (filed.built_of_get? found).hash_eq

theorem unique (filed : table.Filed) {left right : AtomId} {first second : Atom ι}
    (foundLeft : table.get? left = some first) (foundRight : table.get? right = some second)
    (same : first.text = second.text) : left = right := by
  obtain ⟨i⟩ := left
  obtain ⟨j⟩ := right
  simp only [get?, ← Array.getElem?_toList] at foundLeft foundRight
  -- Texts do not repeat, so that equal ones stand at the same position.
  have bound : i < (table.entries.toList.map Atom.text).length := by
    rw [List.length_map]
    exact (List.getElem?_eq_some_iff.1 foundLeft).1
  have texts : (table.entries.toList.map Atom.text)[i]? =
      (table.entries.toList.map Atom.text)[j]? := by
    rw [List.getElem?_map, List.getElem?_map, foundLeft, foundRight]
    exact congrArg some same
  exact congrArg AtomId.mk ((List.getElem?_inj bound filed.distinct).1 texts)

/-! ## Looking up -/

theorem mem_bucket (filed : table.Filed) {hash : UInt32} {id : AtomId} :
    id ∈ table.buckets.getD hash [] ↔
      ∃ atom, table.get? id = some atom ∧ Hash.ofText atom.text = hash := by
  rw [filed.bucket, mem_indicesOf]
  simp only [Array.getElem?_toList]
  constructor
  · rintro ⟨atom, found, rfl⟩
    exact ⟨atom, found, (filed.hash_eq found).symm⟩
  · rintro ⟨atom, found, rfl⟩
    exact ⟨atom, found, filed.hash_eq found⟩

/-- A search finds the atom with the text if the hash is that of the text, and nothing otherwise. -/
theorem find?_eq_some_iff (filed : table.Filed) {hash : UInt32} {text : String} {id : AtomId} :
    table.find? hash text = some id ↔
      hash = Hash.ofText text ∧ ∃ atom, table.get? id = some atom ∧ atom.text = text := by
  constructor
  · intro found
    have member := List.mem_of_find?_eq_some found
    have holding := List.find?_some found
    obtain ⟨atom, present, filedUnder⟩ := filed.mem_bucket.1 member
    simp only [holds, present, decide_eq_true_eq] at holding
    exact ⟨holding ▸ filedUnder.symm, atom, present, holding⟩
  · rintro ⟨rfl, atom, present, rfl⟩
    have member : id ∈ table.buckets.getD (Hash.ofText atom.text) [] :=
      filed.mem_bucket.2 ⟨atom, present, rfl⟩
    have holding : table.holds atom.text id := by simp [holds, present]
    -- Other texts may be in the bucket, but the search passes over them.
    cases found : table.find? (Hash.ofText atom.text) atom.text with
    | none => exact absurd holding (List.find?_eq_none.1 found id member)
    | some other =>
      have otherHolding := List.find?_some found
      simp only [holds] at otherHolding
      split at otherHolding
      next otherAtom otherPresent =>
        rw [filed.unique otherPresent present (of_decide_eq_true otherHolding)]
      next => cases otherHolding

theorem lookup_eq_some_iff (filed : table.Filed) {text : String} {id : AtomId} :
    table.lookup text = some id ↔ ∃ atom, table.get? id = some atom ∧ atom.text = text := by
  simp [lookup, filed.find?_eq_some_iff]

theorem lookup_eq_none_iff (filed : table.Filed) {text : String} :
    table.lookup text = none ↔ ¬ table.HasText text := by
  simp only [Option.eq_none_iff_forall_ne_some, ne_eq, filed.lookup_eq_some_iff, hasText_iff_get?,
    not_exists]

theorem find?_eq (filed : table.Filed) (hash : UInt32) (text : String) :
    table.find? hash text = if hash = Hash.ofText text then table.lookup text else none := by
  split
  next same =>
    rw [same]
    rfl
  next different =>
    refine Option.eq_none_iff_forall_ne_some.2 fun id found => ?_
    exact different (filed.find?_eq_some_iff.1 found).1

theorem isSome_find? (filed : table.Filed) (text : String) :
    (table.find? (Hash.ofText text) text).isSome ↔ table.HasText text := by
  rw [Option.isSome_iff_ne_none]
  exact (not_congr filed.lookup_eq_none_iff).trans Classical.not_not

end Filed

/-! ## Adding -/

@[simp] theorem push_fst (table : Table ι) (atom : Atom ι) :
    (table.push atom).1 = ⟨table.size⟩ := rfl

@[simp] theorem entries_push (table : Table ι) (atom : Atom ι) :
    (table.push atom).2.entries = table.entries.push atom := rfl

theorem hasText_push {table : Table ι} {atom : Atom ι} {text : String} :
    (table.push atom).2.HasText text ↔ table.HasText text ∨ atom.text = text := by
  simp only [HasText, entries_push, Array.toList_push, List.mem_append, List.mem_singleton]
  constructor
  · rintro ⟨known, earlier | rfl, same⟩
    · exact .inl ⟨known, earlier, same⟩
    · exact .inr same
  · rintro (⟨known, earlier, same⟩ | same)
    · exact ⟨known, .inl earlier, same⟩
    · exact ⟨atom, .inr rfl, same⟩

theorem Filed.push {table : Table ι} (filed : table.Filed) {atom : Atom ι} (built : atom.Built)
    (absent : ¬ table.HasText atom.text) : (table.push atom).2.Filed where
  bucket hash := by
    rw [entries_push, Array.toList_push, indicesOf_concat, ← filed.bucket hash, Table.push,
      Std.TreeMap.getD_insert]
    -- Only the bucket of the new atom's hash gets longer.
    by_cases same : atom.hash = hash
    · simp [same]
    · simp [same]
  occupied hash := by
    rw [Table.push, Std.TreeMap.getElem?_insert]
    split
    · simp
    · exact filed.occupied hash
  built other member := by
    rw [entries_push, Array.toList_push, List.mem_append, List.mem_singleton] at member
    obtain earlier | rfl := member
    · exact filed.built other earlier
    · exact built
  distinct := by
    rw [entries_push, Array.toList_push, List.map_append, List.nodup_append]
    refine ⟨filed.distinct, by simp, ?_⟩
    intro text earlier last member same
    rw [List.map_singleton, List.mem_singleton] at member
    subst member same
    exact absent (List.mem_map.1 earlier)

theorem intern_eq_insert (table : Table ι) (ident : ι) (text : String) :
    table.intern ident text = table.insert (.ofText ident text) := rfl

theorem insert_eq_of_lookup {table : Table ι} {atom : Atom ι} (built : atom.Built) {id : AtomId}
    (found : table.lookup atom.text = some id) : table.insert atom = (id, table) := by
  rw [lookup, ← built.hash_eq] at found
  rw [insert, found]

theorem insert_eq_push {table : Table ι} {atom : Atom ι} (built : atom.Built)
    (absent : table.lookup atom.text = none) : table.insert atom = table.push atom := by
  rw [lookup, ← built.hash_eq] at absent
  rw [insert, absent]

theorem Filed.insert {table : Table ι} (filed : table.Filed) {atom : Atom ι}
    (built : atom.Built) : (table.insert atom).2.Filed := by
  cases found : table.lookup atom.text with
  | some id =>
    rw [insert_eq_of_lookup built found]
    exact filed
  | none =>
    rw [insert_eq_push built found]
    exact filed.push built (filed.lookup_eq_none_iff.1 found)

end Table

end StaticAtoms
