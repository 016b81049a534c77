import StaticAtoms.Proofs.Table.Buckets

/-!
# Registering static atoms

`Table.Registrable` is the condition under which static atoms can be added to a table, said without
the buckets: they carry the facts of their strings, and the strings are new and pairwise distinct.

* `Table.Filed.checkStatic_eq_ok_iff` says that the check finds out exactly that.  The strings that
  were checked before are looked for only under the hash that an atom carries, which is enough because
  all of them were verified.
* `Table.Filed.register_eq_ok_iff` and `Table.Filed.register_eq_ok` are the same for registering.
-/

namespace StaticAtoms

/-! ## Verified atoms -/

namespace StaticAtom

theorem verify_eq_ok_iff {atom : StaticAtom} :
    atom.verify = .ok () ↔
      atom.hash = Hash.ofText atom.string ∧ atom.lowercase = isLowercase atom.string := by
  simp only [verify, ne_eq, ite_not]
  by_cases sameHash : atom.hash = Hash.ofText atom.string <;>
    by_cases sameFlag : atom.lowercase = isLowercase atom.string <;> simp [sameHash, sameFlag]

theorem verify_compute (ident string : String) : (compute ident string).verify = .ok () :=
  verify_eq_ok_iff.2 ⟨rfl, rfl⟩

theorem verify_eq_ok_iff_eq_compute {atom : StaticAtom} :
    atom.verify = .ok () ↔ atom = .compute atom.ident atom.string := by
  constructor
  · intro verified
    obtain ⟨sameHash, sameFlag⟩ := verify_eq_ok_iff.1 verified
    rw [compute, ← sameHash, ← sameFlag]
  · intro same
    rw [same]
    exact verify_compute _ _

@[simp] theorem text_toAtom (atom : StaticAtom) : atom.toAtom.text = atom.string := rfl

theorem verifyAll_eq_nil_iff {atoms : List StaticAtom} :
    verifyAll atoms = [] ↔ ∀ atom ∈ atoms, atom.verify = .ok () := by
  rw [verifyAll, List.filterMap_eq_nil_iff]
  refine forall₂_congr fun atom _ => ?_
  unfold problem?
  cases atom.verify <;> simp

end StaticAtom

namespace Table

/-! ## Checking -/

/-- Whether static atoms can be added to a table. -/
structure Registrable (table : Table String) (atoms : List StaticAtom) : Prop where
  verified : ∀ atom ∈ atoms, atom.verify = .ok ()
  distinct : (atoms.map StaticAtom.string).Nodup
  absent : ∀ atom ∈ atoms, ¬ table.HasText atom.string

/-- Whether the pending buckets hold the given strings, each under its hash. -/
def Pends (pending : ByHash (List String)) (strings : List String) : Prop :=
  ∀ (hash : UInt32) (string : String),
    string ∈ pending.getD hash [] ↔ string ∈ strings ∧ Hash.ofText string = hash

theorem pends_nil : Pends ∅ [] := by
  intro hash string
  simp

theorem Pends.insert {pending : ByHash (List String)} {strings : List String}
    (pends : Pends pending strings) (string : String) :
    Pends (pending.insert (Hash.ofText string) (pending.getD (Hash.ofText string) [] ++ [string]))
      (string :: strings) := by
  intro hash other
  rw [Std.TreeMap.getD_insert]
  by_cases same : Hash.ofText string = hash
  · subst same
    simp only [Std.ReflCmp.compare_self, ↓reduceIte, List.mem_append, List.mem_cons,
      List.not_mem_nil, or_false, pends _ other]
    constructor
    · rintro (⟨earlier, sameHash⟩ | rfl)
      · exact ⟨.inr earlier, sameHash⟩
      · exact ⟨.inl rfl, rfl⟩
    · rintro ⟨rfl | earlier, sameHash⟩
      · exact .inr rfl
      · exact .inl ⟨earlier, sameHash⟩
  · -- Another bucket stays as it is, and the string does not belong there.
    simp only [Std.LawfulEqCmp.compare_eq_iff_eq, same, ↓reduceIte, pends hash other, List.mem_cons]
    constructor
    · rintro ⟨earlier, sameHash⟩
      exact ⟨.inr earlier, sameHash⟩
    · rintro ⟨rfl | earlier, sameHash⟩
      · exact absurd sameHash same
      · exact ⟨earlier, sameHash⟩

theorem checkStatic_cons_of_verify {table : Table String} (filed : table.Filed)
    {pending : ByHash (List String)} {strings : List String} (pends : Pends pending strings)
    {atom : StaticAtom} (verified : atom.verify = .ok ()) (rest : List StaticAtom) :
    table.checkStatic pending (atom :: rest) =
      if atom.string ∈ strings ∨ table.HasText atom.string then
        .error (.reRegistered atom.ident atom.string)
      else
        table.checkStatic (pending.insert (Hash.ofText atom.string)
          (pending.getD (Hash.ofText atom.string) [] ++ [atom.string])) rest := by
  have known : atom.string ∈ pending.getD (Hash.ofText atom.string) [] ∨
      (table.find? (Hash.ofText atom.string) atom.string).isSome ↔
      atom.string ∈ strings ∨ table.HasText atom.string := by
    rw [pends, filed.isSome_find?]
    simp
  rw [checkStatic, verified]
  -- The atom carries the hash of its string, so that it is looked for where equal strings are.
  simp only [(StaticAtom.verify_eq_ok_iff.1 verified).1]
  exact ite_congr (propext known) (fun _ => rfl) fun _ => rfl

/-- The check passes atoms that can be added, given that the strings before them were checked, too. -/
theorem Filed.checkStatic_eq_ok_iff {table : Table String} (filed : table.Filed)
    {pending : ByHash (List String)} {strings : List String} (pends : Pends pending strings)
    (atoms : List StaticAtom) :
    table.checkStatic pending atoms = .ok () ↔
      table.Registrable atoms ∧ ∀ atom ∈ atoms, atom.string ∉ strings := by
  -- By induction on the atoms, where `strings` are the strings of those before.
  induction atoms generalizing pending strings with
  | nil => exact ⟨fun _ => ⟨⟨by simp, by simp, by simp⟩, by simp⟩, fun _ => rfl⟩
  | cons atom rest ih =>
    cases verified : atom.verify with
    | error problem =>
      refine ⟨fun passed => ?_, fun ⟨registrable, _⟩ => ?_⟩
      · rw [checkStatic, verified] at passed
        cases passed
      · rw [registrable.verified atom List.mem_cons_self] at verified
        cases verified
    | ok =>
      rw [checkStatic_cons_of_verify filed pends verified]
      split
      next known =>
        refine ⟨nofun, fun ⟨registrable, fresh⟩ => ?_⟩
        obtain earlier | present := known
        · exact absurd earlier (fresh atom List.mem_cons_self)
        · exact absurd present (registrable.absent atom List.mem_cons_self)
      next unknown =>
        obtain ⟨later, missing⟩ := not_or.1 unknown
        rw [ih (pends.insert atom.string)]
        constructor
        · rintro ⟨registrable, fresh⟩
          refine ⟨⟨?_, ?_, ?_⟩, ?_⟩
          · exact List.forall_mem_cons.2 ⟨verified, registrable.verified⟩
          · rw [List.map_cons, List.nodup_cons]
            refine ⟨fun repeated => ?_, registrable.distinct⟩
            obtain ⟨other, member, same⟩ := List.mem_map.1 repeated
            exact fresh other member (same ▸ List.mem_cons_self)
          · exact List.forall_mem_cons.2 ⟨missing, registrable.absent⟩
          · exact List.forall_mem_cons.2 ⟨later, fun other member earlier =>
              fresh other member (List.mem_cons_of_mem _ earlier)⟩
        · rintro ⟨registrable, fresh⟩
          have distinct := registrable.distinct
          rw [List.map_cons, List.nodup_cons] at distinct
          refine ⟨⟨(List.forall_mem_cons.1 registrable.verified).2, distinct.2,
            (List.forall_mem_cons.1 registrable.absent).2⟩, fun other member earlier => ?_⟩
          obtain same | before := List.mem_cons.1 earlier
          · exact distinct.1 (same ▸ List.mem_map_of_mem member)
          · exact fresh other (List.mem_cons_of_mem _ member) before

/-! ## Adding -/

theorem pushStatic_fst (table : Table String) (atoms : List StaticAtom) :
    (table.pushStatic atoms).1 = (List.range' table.size atoms.length).map AtomId.mk := by
  induction atoms generalizing table with
  | nil => rfl
  | cons atom rest ih =>
    have grown : (table.push atom.toAtom).2.size = table.size + 1 := Array.size_push _
    simp only [pushStatic, push_fst, ih, grown, List.length_cons, List.range'_succ, List.map_cons]

theorem entries_pushStatic (table : Table String) (atoms : List StaticAtom) :
    (table.pushStatic atoms).2.entries.toList =
      table.entries.toList ++ atoms.map StaticAtom.toAtom := by
  induction atoms generalizing table with
  | nil => simp [pushStatic]
  | cons atom rest ih => simp [pushStatic, ih]

/-- Strings stay new when an atom with another string is added. -/
theorem not_hasText_push {table : Table String} {atom : StaticAtom} {rest : List StaticAtom}
    (other : atom.string ∉ rest.map StaticAtom.string)
    (absent : ∀ later ∈ rest, ¬ table.HasText later.string) :
    ∀ later ∈ rest, ¬ (table.push atom.toAtom).2.HasText later.string := by
  intro later member present
  obtain earlier | same := hasText_push.1 present
  · exact absent later member earlier
  · rw [StaticAtom.text_toAtom] at same
    exact other (same ▸ List.mem_map_of_mem member)

theorem Filed.pushStatic {table : Table String} (filed : table.Filed) {atoms : List StaticAtom}
    (distinct : (atoms.map StaticAtom.string).Nodup)
    (absent : ∀ atom ∈ atoms, ¬ table.HasText atom.string) :
    (table.pushStatic atoms).2.Filed := by
  induction atoms generalizing table with
  | nil => exact filed
  | cons atom rest ih =>
    rw [List.map_cons, List.nodup_cons] at distinct
    rw [List.forall_mem_cons] at absent
    have filedNext := filed.push (.ofStatic atom) absent.1
    exact ih filedNext distinct.2 (not_hasText_push distinct.1 absent.2)

/-! ## Registering -/

/-- Registering succeeds for atoms that can be added, and for no others. -/
theorem Filed.register_eq_ok_iff {table : Table String} (filed : table.Filed)
    {atoms : List StaticAtom} :
    (∃ ids, (table.register atoms).1 = .ok ids) ↔ table.Registrable atoms := by
  have passes := filed.checkStatic_eq_ok_iff pends_nil atoms
  simp only [List.not_mem_nil, not_false_eq_true, implies_true, and_true] at passes
  rw [← passes, register]
  cases table.checkStatic ∅ atoms with
  | error problem => simp
  | ok => simp

theorem Filed.register_eq_ok {table : Table String} (filed : table.Filed)
    {atoms : List StaticAtom} (registrable : table.Registrable atoms) :
    ∃ after, table.register atoms =
        (.ok ((List.range' table.size atoms.length).map AtomId.mk), after) ∧
      after.entries.toList = table.entries.toList ++ atoms.map StaticAtom.toAtom ∧
      after.Filed := by
  have passed : table.checkStatic ∅ atoms = .ok () :=
    (filed.checkStatic_eq_ok_iff pends_nil atoms).2 ⟨registrable, by simp⟩
  refine ⟨(table.pushStatic atoms).2, ?_, entries_pushStatic table atoms,
    filed.pushStatic registrable.distinct registrable.absent⟩
  rw [register, passed, ← pushStatic_fst]
  rfl

/-- A registration that fails leaves the table as it is. -/
theorem register_of_error {table : Table String} {atoms : List StaticAtom} {problem : Problem}
    (failed : (table.register atoms).1 = .error problem) :
    table.register atoms = (.error problem, table) := by
  rw [register] at failed ⊢
  split at failed
  next found =>
    cases failed
    rfl
  next => cases failed

theorem Filed.register_eq_error {table : Table String} (filed : table.Filed)
    {atoms : List StaticAtom} (refused : ¬ table.Registrable atoms) :
    ∃ problem, table.register atoms = (.error problem, table) := by
  cases result : (table.register atoms).1 with
  | error problem => exact ⟨problem, register_of_error result⟩
  | ok ids => exact absurd (filed.register_eq_ok_iff.1 ⟨ids, result⟩) refused

end Table

end StaticAtoms
