import StaticAtoms.Proofs.Table.Registration

/-!
# Runs of a table

A run is a list of operations on a table that is empty at first.  `Table.step` carries out one of them
and gives the indices that it hands out; `Table.run` is the table at the end.  Every table that a run
leads to is filed.
-/

namespace StaticAtoms

/-- What can be done to a table whose atoms have identities in `ι`.  Static atoms have texts as their
identities. -/
inductive Operation : Type → Type 1 where
  | intern {ι : Type} (ident : ι) (text : String) : Operation ι
  | insert {ι : Type} (atom : Atom ι) (built : atom.Built) : Operation ι
  | register (atoms : List StaticAtom) : Operation String
  | reserve {ι : Type} (count : Nat) : Operation ι
  /-- Goes on with a copy, which as a value is the table itself. -/
  | clone {ι : Type} : Operation ι
  | clear {ι : Type} : Operation ι

namespace Table

/-- Carries out an operation, and gives the indices that it hands out.  A registration that fails hands
out none. -/
def step {ι : Type} (table : Table ι) : Operation ι → List AtomId × Table ι
  | .intern ident text =>
      let (id, after) := table.intern ident text
      ([id], after)
  | .insert atom _ =>
      let (id, after) := table.insert atom
      ([id], after)
  | .register atoms =>
      match table.register atoms with
      | (.ok ids, after) => (ids, after)
      | (.error _, after) => ([], after)
  | .reserve count => ([], table.reserve count)
  | .clone => ([], table)
  | .clear => ([], table.clear)

variable {ι : Type}

def runFrom (table : Table ι) (operations : List (Operation ι)) : Table ι :=
  operations.foldl (fun table operation => (table.step operation).2) table

def run (operations : List (Operation ι)) : Table ι :=
  runFrom empty operations

theorem run_concat (operations : List (Operation ι)) (operation : Operation ι) :
    run (operations ++ [operation]) = ((run operations).step operation).2 := by
  rw [run, runFrom, List.foldl_append]
  rfl

theorem run_append (operations later : List (Operation ι)) :
    run (operations ++ later) = runFrom (run operations) later :=
  List.foldl_append

/-- Whether a run leads to the table. -/
def Reachable (table : Table ι) : Prop :=
  ∃ operations, table = run operations

theorem Reachable.step {table : Table ι} (reachable : table.Reachable) (operation : Operation ι) :
    (table.step operation).2.Reachable := by
  obtain ⟨operations, rfl⟩ := reachable
  exact ⟨operations ++ [operation], (run_concat operations operation).symm⟩

theorem step_register_snd (table : Table String) (atoms : List StaticAtom) :
    (table.step (.register atoms)).2 = (table.register atoms).2 := by
  rw [Table.step]
  split <;> rename_i registered <;> rw [registered]

theorem Reachable.register {table : Table String} (reachable : table.Reachable)
    (atoms : List StaticAtom) : (table.register atoms).2.Reachable := by
  rw [← step_register_snd]
  exact reachable.step (.register atoms)

theorem Filed.register {table : Table String} (filed : table.Filed) (atoms : List StaticAtom) :
    (table.register atoms).2.Filed := by
  by_cases registrable : table.Registrable atoms
  · obtain ⟨after, registered, -, filedAfter⟩ := filed.register_eq_ok registrable
    rw [registered]
    exact filedAfter
  · obtain ⟨problem, failed⟩ := filed.register_eq_error registrable
    rw [failed]
    exact filed

theorem Filed.step {table : Table ι} (filed : table.Filed) (operation : Operation ι) :
    (table.step operation).2.Filed := by
  cases operation with
  | intern ident text => exact filed.insert (.ofText ident text)
  | insert atom built => exact filed.insert built
  | register atoms =>
    rw [step_register_snd]
    exact filed.register atoms
  | reserve count => exact filed
  | clone => exact filed
  | clear => exact filed_empty

theorem Filed.runFrom {table : Table ι} (filed : table.Filed) (operations : List (Operation ι)) :
    (table.runFrom operations).Filed := by
  induction operations generalizing table with
  | nil => exact filed
  | cons operation operations ih => exact ih (filed.step operation)

theorem filed_run (operations : List (Operation ι)) : (run operations).Filed :=
  filed_empty.runFrom operations

theorem Reachable.filed {table : Table ι} (reachable : table.Reachable) : table.Filed := by
  obtain ⟨operations, rfl⟩ := reachable
  exact filed_run operations

end Table

end StaticAtoms
