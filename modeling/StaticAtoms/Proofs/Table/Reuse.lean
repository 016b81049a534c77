import Mathlib.Data.List.Induction
import StaticAtoms.Proofs.Table.Roster

/-!
# Indices after clearing

A table that was cleared is an empty table, so that it hands its indices out again from the first one
on.  An index from before is therefore dead only until it is handed out again, and from then on it is
that of a later atom: `Table.get?_of_cleared`.
-/

namespace StaticAtoms

variable {ι : Type}

/-- An index within a roster was there before the last operation or is handed out by it. -/
theorem Roster.lt_or_mem_of_step {roster : Roster ι} {operation : Operation ι} {index : Nat}
    (within : index < (roster.step operation).2.length) :
    index < roster.length ∨ ⟨index⟩ ∈ (roster.step operation).1 := by
  have added (atom : Atom ι) (within : index < (roster.add atom).2.length) :
      index < roster.length ∨ ⟨index⟩ ∈ [(roster.add atom).1] := by
    unfold add at within ⊢
    split at within
    next => exact .inl within
    next =>
      rw [List.length_append, List.length_singleton, Nat.lt_succ_iff_lt_or_eq] at within
      refine within.imp_right fun last => ?_
      rw [last]
      exact List.mem_singleton_self _
  cases operation with
  | intern ident text => exact added _ within
  | insert atom built => exact added atom within
  | register atoms =>
    rw [step] at within ⊢
    split
    next accepted =>
      rw [if_pos accepted, List.length_append, List.length_map] at within
      refine (Nat.lt_or_ge index roster.length).imp_right fun beyond => ?_
      exact List.mem_map_of_mem (List.mem_range'_1.2 ⟨beyond, within⟩)
    next refused =>
      rw [if_neg refused] at within
      exact .inl within
  | reserve count => exact .inl within
  | clone => exact .inl within
  | clear => cases within

namespace Table

/-- The indices that operations hand out, one operation after another. -/
def issuedFrom (table : Table ι) : List (Operation ι) → List AtomId
  | [] => []
  | operation :: operations =>
      (table.step operation).1 ++ (table.step operation).2.issuedFrom operations

/-- The indices that a run hands out. -/
def issued (operations : List (Operation ι)) : List AtomId :=
  issuedFrom empty operations

theorem issuedFrom_append (table : Table ι) (operations later : List (Operation ι)) :
    table.issuedFrom (operations ++ later) =
      table.issuedFrom operations ++ (table.runFrom operations).issuedFrom later := by
  induction operations generalizing table with
  | nil => rfl
  | cons operation operations ih =>
    rw [List.cons_append, issuedFrom, ih, ← List.append_assoc]
    rfl

theorem issued_concat (operations : List (Operation ι)) (operation : Operation ι) :
    issued (operations ++ [operation]) = issued operations ++ ((run operations).step operation).1 := by
  rw [issued, issuedFrom_append, issuedFrom, issuedFrom, List.append_nil]
  rfl

/-- Every index of a table was handed out by the run that leads to it. -/
theorem mem_issued_of_lt {operations : List (Operation ι)} {index : Nat}
    (within : index < (run operations).size) : ⟨index⟩ ∈ issued operations := by
  induction operations using List.reverseRecOn with
  | nil => cases within
  | append_singleton operations operation ih =>
    obtain ⟨sameIds, sameAtoms⟩ := (filed_run operations).step_refines operation
    rw [issued_concat, List.mem_append, sameIds]
    rw [run_concat, size, ← Array.length_toList, sameAtoms] at within
    exact (Roster.lt_or_mem_of_step within).imp_left ih

/-- An index that a run hands out is handed out by one of its operations. -/
theorem exists_step_of_mem_issued {operations : List (Operation ι)} {id : AtomId}
    (handed : id ∈ issued operations) :
    ∃ before operation after, operations = before ++ operation :: after ∧
      id ∈ ((run before).step operation).1 := by
  induction operations using List.reverseRecOn with
  | nil => cases handed
  | append_singleton operations operation ih =>
    rw [issued_concat, List.mem_append] at handed
    obtain earlier | last := handed
    · obtain ⟨before, other, after, rfl, step⟩ := ih earlier
      exact ⟨before, other, after ++ [operation], by simp, step⟩
    · exact ⟨operations, operation, [], rfl, last⟩

/-- In a run without clearing, the indices of the table are those that were handed out. -/
theorem lt_size_iff_mem_issued {operations : List (Operation ι)}
    (kept : ∀ operation ∈ operations, operation ≠ .clear) {id : AtomId} :
    id.index < (run operations).size ↔ id ∈ issued operations := by
  refine ⟨mem_issued_of_lt, fun handed => ?_⟩
  obtain ⟨before, operation, after, rfl, step⟩ := exists_step_of_mem_issued handed
  have keptBehind : ∀ other ∈ after, other ≠ .clear := fun other member =>
    kept other (List.mem_append_right before (List.mem_cons_of_mem operation member))
  obtain ⟨atom, -, found⟩ := (filed_run before).keeps_ids operation keptBehind step
  rw [← run_concat, ← run_append, List.append_assoc] at found
  exact (Array.getElem?_eq_some_iff.1 found).1

/-- What comes before a table is cleared leaves no trace in it. -/
theorem run_clear (earlier later : List (Operation ι)) :
    run (earlier ++ .clear :: later) = run later := by
  rw [run_append]
  rfl

/-- After a table was cleared, an index is dead exactly as long as the table has not grown past it, and
that is as long as it is not handed out again.  Then it stands for the atom that got it since. -/
theorem get?_of_cleared (earlier later : List (Operation ι)) (id : AtomId) :
    ((run (earlier ++ .clear :: later)).get? id = none ↔ (run later).size ≤ id.index) ∧
    ((∀ operation ∈ later, operation ≠ .clear) →
      ((run (earlier ++ .clear :: later)).get? id = none ↔ id ∉ issued later)) ∧
    (run (earlier ++ .clear :: later)).get? id = (run later).get? id := by
  rw [run_clear]
  have dead : (run later).get? id = none ↔ (run later).size ≤ id.index :=
    Array.getElem?_eq_none_iff
  refine ⟨dead, fun kept => ?_, rfl⟩
  rw [dead, ← lt_size_iff_mem_issued kept, Nat.not_lt]

/-- An index that has been handed out before and after the table was cleared. -/
theorem get?_of_cleared_reissued :
    let earlier : List (Operation String) := [.intern "first" "old", .intern "second" "older"]
    let later : List (Operation String) := [.reserve 5, .intern "third" "new"]
    (run (earlier ++ .clear :: later)).get? ⟨0⟩ = some (.ofText "third" "new") ∧
      (run (earlier ++ .clear :: later)).get? ⟨1⟩ = none := by
  intro earlier later
  obtain ⟨-, -, same⟩ := get?_of_cleared earlier later ⟨0⟩
  obtain ⟨-, dead, -⟩ := get?_of_cleared earlier later ⟨1⟩
  exact ⟨same, (dead (by simp [later])).2 (by decide +kernel)⟩

/-- An index that was handed out before the table was cleared stands for another atom afterwards. -/
theorem stale_id_resolves :
    ¬ ∀ (earlier later : List (Operation String)), ∀ id ∈ issued earlier,
      (run (earlier ++ .clear :: later)).get? id = none := by
  intro dead
  have handed : (⟨0⟩ : AtomId) ∈ issued [.intern "first" "old"] := List.mem_singleton_self _
  have found : (run [.intern "first" "old", .clear, .intern "second" "new"]).get? ⟨0⟩ =
      some (.ofText "second" "new") := rfl
  exact Option.some_ne_none _ (found.symm.trans (dead _ [.intern "second" "new"] _ handed))

end Table

end StaticAtoms
