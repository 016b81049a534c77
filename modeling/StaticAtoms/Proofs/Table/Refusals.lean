import StaticAtoms.Proofs.Table.Runs

/-!
# Refused registrations

Static atoms are registered all or none, and a refusal names the first of them that is at fault.

* `StaticAtom.Objection` says what can be objected to one atom, and which objection goes first.
* `Table.checkStatic_cons` is one step of the check, and `Table.Filed.checkStatic_eq_error_iff` the
  whole of it, by induction on the atoms.
* `Table.Filed.pushStatic_eq_runFrom` compares registering with interning.

`Table.register_all_or_none` is the main statement.
-/

namespace StaticAtoms

/-! ## Objections -/

/-- What is objected to a static atom, where `known` says whether its string is there already.  The hash
is looked at first and the string last. -/
inductive StaticAtom.Objection (atom : StaticAtom) (known : Prop) : Problem → Prop where
  | hash (wrongHash : atom.hash ≠ Hash.ofText atom.string) :
      Objection atom known
        (.hashMismatch atom.ident atom.string atom.hash (Hash.ofText atom.string))
  | flag (sameHash : atom.hash = Hash.ofText atom.string)
      (wrongFlag : atom.lowercase ≠ isLowercase atom.string) :
      Objection atom known
        (.lowercaseMismatch atom.ident atom.string atom.lowercase (isLowercase atom.string))
  | string (sameHash : atom.hash = Hash.ofText atom.string)
      (sameFlag : atom.lowercase = isLowercase atom.string) (there : known) :
      Objection atom known (.reRegistered atom.ident atom.string)

namespace StaticAtom

variable {atom : StaticAtom} {known : Prop} {problem : Problem}

theorem Objection.unique {other : Problem} (objection : atom.Objection known problem)
    (second : atom.Objection known other) : problem = other := by
  cases objection with
  | hash wrongHash =>
    cases second with
    | hash => rfl
    | flag sameHash => exact absurd sameHash wrongHash
    | string sameHash => exact absurd sameHash wrongHash
  | flag sameHash wrongFlag =>
    cases second with
    | hash wrongHash => exact absurd sameHash wrongHash
    | flag => rfl
    | string _ sameFlag => exact absurd sameFlag wrongFlag
  | string sameHash sameFlag =>
    cases second with
    | hash wrongHash => exact absurd sameHash wrongHash
    | flag _ wrongFlag => exact absurd sameFlag wrongFlag
    | string => rfl

/-- The code tells the fault that goes first. -/
theorem Objection.code_eq (objection : atom.Objection known problem) :
    problem.code.text =
      if atom.hash ≠ Hash.ofText atom.string then "E005"
      else if atom.lowercase ≠ isLowercase atom.string then "E006" else "E003" := by
  cases objection with
  | hash wrongHash =>
    rw [if_pos wrongHash]
    rfl
  | flag sameHash wrongFlag =>
    rw [if_neg (not_not_intro sameHash), if_pos wrongFlag]
    rfl
  | string sameHash sameFlag =>
    rw [if_neg (not_not_intro sameHash), if_neg (not_not_intro sameFlag)]
    rfl

theorem objection_of_verify (failed : atom.verify = .error problem) :
    atom.Objection known problem := by
  simp only [verify] at failed
  split at failed
  next wrongHash =>
    cases failed
    exact .hash wrongHash
  next sameHash =>
    split at failed
    next wrongFlag =>
      cases failed
      exact .flag (Decidable.not_not.1 sameHash) wrongFlag
    next => cases failed

theorem not_objection_of_verify (verified : atom.verify = .ok ()) (new : ¬ known) :
    ¬ atom.Objection known problem := by
  obtain ⟨sameHash, sameFlag⟩ := verify_eq_ok_iff.1 verified
  intro objection
  cases objection with
  | hash wrongHash => exact wrongHash sameHash
  | flag _ wrongFlag => exact wrongFlag sameFlag
  | string _ _ there => exact new there

end StaticAtom

namespace Table

variable {table : Table String}

/-! ## Checking -/

/-- The check either stops at an atom, with the objection to it, or goes on with one more string. -/
theorem checkStatic_cons (filed : table.Filed) {pending : ByHash (List String)}
    {strings : List String} (pends : Pends pending strings) (atom : StaticAtom) :
    (∃ problem,
      atom.Objection (table.HasText atom.string ∨ atom.string ∈ strings) problem ∧
        ∀ rest, table.checkStatic pending (atom :: rest) = .error problem) ∨
    (∀ problem, ¬ atom.Objection (table.HasText atom.string ∨ atom.string ∈ strings) problem) ∧
      ∃ after, Pends after (atom.string :: strings) ∧
        ∀ rest, table.checkStatic pending (atom :: rest) = table.checkStatic after rest := by
  cases verified : atom.verify with
  | error problem =>
    refine .inl ⟨problem, StaticAtom.objection_of_verify verified, fun rest => ?_⟩
    rw [checkStatic, verified]
  | ok =>
    obtain ⟨sameHash, sameFlag⟩ := StaticAtom.verify_eq_ok_iff.1 verified
    by_cases known : atom.string ∈ strings ∨ table.HasText atom.string
    · refine .inl ⟨_, .string sameHash sameFlag known.symm, fun rest => ?_⟩
      rw [checkStatic_cons_of_verify filed pends verified, if_pos known]
    · refine .inr ⟨fun problem => StaticAtom.not_objection_of_verify verified (mt Or.symm known),
        _, pends.insert atom.string, fun rest => ?_⟩
      rw [checkStatic_cons_of_verify filed pends verified, if_neg known]

/-- The check fails at the first atom to which there is an objection. -/
theorem Filed.checkStatic_eq_error_iff (filed : table.Filed) {pending : ByHash (List String)}
    {strings : List String} (pends : Pends pending strings) {atoms : List StaticAtom}
    {problem : Problem} :
    table.checkStatic pending atoms = .error problem ↔
      ∃ earlier atom later, atoms = earlier ++ atom :: later ∧
        table.checkStatic pending earlier = .ok () ∧
        atom.Objection (table.HasText atom.string ∨
          atom.string ∈ earlier.map StaticAtom.string ++ strings) problem := by
  -- By induction on the atoms, where `strings` are the strings of those before.
  induction atoms generalizing pending strings with
  | nil =>
    refine ⟨nofun, fun ⟨earlier, atom, later, parts, _⟩ => ?_⟩
    exact absurd parts.symm (List.append_ne_nil_of_right_ne_nil _ (List.cons_ne_nil _ _))
  | cons first rest ih =>
    obtain ⟨found, objection, stops⟩ | ⟨silent, after, pendsAfter, goesOn⟩ :=
      checkStatic_cons filed pends first
    · rw [stops]
      constructor
      · intro same
        cases same
        exact ⟨[], first, rest, rfl, rfl, objection⟩
      · rintro ⟨earlier, atom, later, parts, passed, other⟩
        cases earlier with
        | nil =>
          cases parts
          rw [objection.unique other]
        | cons head tail =>
          cases parts
          rw [stops] at passed
          cases passed
    · -- The string of the first atom is one of `strings` for the atoms behind it.
      have moved (earlier : List StaticAtom) (string : String) :
          string ∈ (first :: earlier).map StaticAtom.string ++ strings ↔
            string ∈ earlier.map StaticAtom.string ++ first.string :: strings :=
        List.perm_middle.symm.mem_iff
      rw [goesOn, ih pendsAfter]
      constructor
      · rintro ⟨earlier, atom, later, rfl, passed, objection⟩
        rw [← moved] at objection
        exact ⟨first :: earlier, atom, later, rfl, (goesOn earlier).trans passed, objection⟩
      · rintro ⟨earlier, atom, later, parts, passed, objection⟩
        cases earlier with
        | nil =>
          cases parts
          exact absurd objection (silent problem)
        | cons head tail =>
          cases parts
          rw [moved] at objection
          exact ⟨tail, atom, later, rfl, (goesOn tail).symm.trans passed, objection⟩

theorem Filed.register_eq_error_iff (filed : table.Filed) {atoms : List StaticAtom}
    {problem : Problem} :
    (table.register atoms).1 = .error problem ↔
      ∃ earlier atom later, atoms = earlier ++ atom :: later ∧ table.Registrable earlier ∧
        atom.Objection (table.HasText atom.string ∨
          ∃ other ∈ earlier, other.string = atom.string) problem := by
  have failed : (table.register atoms).1 = .error problem ↔
      table.checkStatic ∅ atoms = .error problem := by
    rw [Table.register]
    cases table.checkStatic ∅ atoms <;> simp
  rw [failed, filed.checkStatic_eq_error_iff pends_nil]
  simp only [filed.checkStatic_eq_ok_iff pends_nil, List.not_mem_nil, not_false_eq_true,
    implies_true, and_true, List.append_nil, List.mem_map]

/-! ## Adding -/

/-- Atoms that can be registered are added as if they were interned one after another. -/
theorem Filed.pushStatic_eq_runFrom (filed : table.Filed) {atoms : List StaticAtom}
    (distinct : (atoms.map StaticAtom.string).Nodup)
    (absent : ∀ atom ∈ atoms, ¬ table.HasText atom.string) :
    (table.pushStatic atoms).2 =
      table.runFrom (atoms.map fun atom => .intern atom.ident atom.string) := by
  induction atoms generalizing table with
  | nil => rfl
  | cons atom rest ih =>
    rw [List.map_cons, List.nodup_cons] at distinct
    rw [List.forall_mem_cons] at absent
    have new : table.lookup atom.string = none := filed.lookup_eq_none_iff.2 absent.1
    have interned : (table.step (.intern atom.ident atom.string)).2 =
        (table.push atom.toAtom).2 := by
      have pushed := insert_eq_push (.ofText atom.ident atom.string) new
      rw [Table.step, intern_eq_insert, pushed]
      rfl
    have next : table.runFrom (List.map (fun atom => .intern atom.ident atom.string)
        (atom :: rest)) = (table.push atom.toAtom).2.runFrom
          (rest.map fun atom => .intern atom.ident atom.string) := by
      rw [← interned]
      rfl
    rw [next]
    have filedNext := filed.push (.ofStatic atom) absent.1
    exact ih filedNext distinct.2 (not_hasText_push distinct.1 absent.2)

theorem registrable_iff {atoms : List StaticAtom} :
    table.Registrable atoms ↔
      (∀ atom ∈ atoms,
        atom.hash = Hash.ofText atom.string ∧ atom.lowercase = isLowercase atom.string) ∧
      (atoms.map StaticAtom.string).Nodup ∧ ∀ atom ∈ atoms, ¬ table.HasText atom.string := by
  simp only [← StaticAtom.verify_eq_ok_iff]
  exact ⟨fun ⟨verified, distinct, absent⟩ => ⟨verified, distinct, absent⟩,
    fun ⟨verified, distinct, absent⟩ => ⟨verified, distinct, absent⟩⟩

theorem registrable_iff_of_isEmpty (empty : table.isEmpty) {atoms : List StaticAtom} :
    table.Registrable atoms ↔
      StaticAtom.verifyAll atoms = [] ∧ (atoms.map StaticAtom.string).Nodup := by
  have absent (text : String) : ¬ table.HasText text := by
    rintro ⟨atom, member, -⟩
    rw [Array.isEmpty_iff.1 empty] at member
    cases member
  rw [StaticAtom.verifyAll_eq_nil_iff]
  exact ⟨fun ⟨verified, distinct, _⟩ => ⟨verified, distinct⟩,
    fun ⟨verified, distinct⟩ => ⟨verified, distinct, fun atom _ => absent atom.string⟩⟩

/-- Static atoms are registered if all of them carry the facts of their strings, and the strings are
new and pairwise distinct.  They are then interned one after another and get the next indices, as long as
there are indices.  Otherwise nothing is added, and the problem is that of the first atom at fault. -/
theorem register_all_or_none (reachable : table.Reachable) (atoms : List StaticAtom) :
    ((∃ ids, (table.register atoms).1 = .ok ids) ↔
      (∀ atom ∈ atoms,
        atom.hash = Hash.ofText atom.string ∧ atom.lowercase = isLowercase atom.string) ∧
      (atoms.map StaticAtom.string).Nodup ∧ ∀ atom ∈ atoms, ¬ table.HasText atom.string) ∧
    (table.isEmpty → ((∃ ids, (table.register atoms).1 = .ok ids) ↔
      StaticAtom.verifyAll atoms = [] ∧ (atoms.map StaticAtom.string).Nodup)) ∧
    (∀ ids after, table.register atoms = (.ok ids, after) →
      ids = (List.range' table.size atoms.length).map AtomId.mk ∧
      (table.size + atoms.length ≤ AtomId.limit → ∀ id ∈ ids, id.index < AtomId.limit) ∧
      after = table.runFrom (atoms.map fun atom => .intern atom.ident atom.string)) ∧
    ∀ problem,
      ((table.register atoms).1 = .error problem ↔
        ∃ earlier atom later, atoms = earlier ++ atom :: later ∧ table.Registrable earlier ∧
          atom.Objection (table.HasText atom.string ∨
            ∃ other ∈ earlier, other.string = atom.string) problem ∧
          problem.code.text =
            if atom.hash ≠ Hash.ofText atom.string then "E005"
            else if atom.lowercase ≠ isLowercase atom.string then "E006" else "E003") ∧
      ((table.register atoms).1 = .error problem →
        (table.register atoms).2 = table ∧ table.step (.register atoms) = ([], table)) := by
  have filed := reachable.filed
  refine ⟨?_, fun empty => ?_, fun ids after registered => ?_, fun problem => ⟨?_, fun failed => ?_⟩⟩
  · rw [filed.register_eq_ok_iff, registrable_iff]
  · rw [filed.register_eq_ok_iff, registrable_iff_of_isEmpty empty]
  · have registrable := filed.register_eq_ok_iff.1 ⟨ids, congrArg Prod.fst registered⟩
    have passed := (filed.checkStatic_eq_ok_iff pends_nil atoms).2 ⟨registrable, by simp⟩
    rw [register, passed] at registered
    cases registered
    rw [← filed.pushStatic_eq_runFrom registrable.distinct registrable.absent]
    have indices := pushStatic_fst table atoms
    refine ⟨indices, fun fits id handedOut => ?_, rfl⟩
    have among : id ∈ (List.range' table.size atoms.length).map AtomId.mk := indices ▸ handedOut
    obtain ⟨index, inside, rfl⟩ := List.mem_map.1 among
    exact Nat.lt_of_lt_of_le (List.mem_range'_1.1 inside).2 fits
  · rw [filed.register_eq_error_iff]
    constructor
    · rintro ⟨earlier, atom, later, parts, registrable, objection⟩
      exact ⟨earlier, atom, later, parts, registrable, objection, objection.code_eq⟩
    · rintro ⟨earlier, atom, later, parts, registrable, objection, -⟩
      exact ⟨earlier, atom, later, parts, registrable, objection⟩
  · have unchanged := register_of_error failed
    rw [step, unchanged]
    exact ⟨rfl, rfl⟩

/-- Of two colliding atoms the second has a wrong flag, and a third repeats the string of the first:
the flag is what is reported, and the table keeps its one atom. -/
theorem register_all_or_none_colliding :
    let table := run [.intern "known" "atom_0"]
    let atoms : List StaticAtom :=
      [⟨"first", "atom_359078", 0x0B2339E6, true⟩, ⟨"second", "atom_3000486", 0x0B2339E6, false⟩,
        ⟨"third", "atom_359078", 0x0B2339E6, true⟩]
    table.register atoms = (.error (.lowercaseMismatch "second" "atom_3000486" false true), table) ∧
      table.step (.register atoms) = ([], table) := by
  intro table atoms
  have reachable : table.Reachable := ⟨_, rfl⟩
  obtain ⟨-, -, -, refused⟩ := register_all_or_none reachable atoms
  obtain ⟨refused, unchanged⟩ := refused (.lowercaseMismatch "second" "atom_3000486" false true)
  have first : table.Registrable [⟨"first", "atom_359078", 0x0B2339E6, true⟩] :=
    registrable_iff.2 (by decide +kernel)
  have wrongFlag : false ≠ isLowercase "atom_3000486" := by decide
  have failed := refused.2 ⟨_, _, _, rfl, first, .flag rfl wrongFlag, rfl⟩
  obtain ⟨same, step⟩ := unchanged failed
  exact ⟨Prod.ext failed same, step⟩

end Table

end StaticAtoms
