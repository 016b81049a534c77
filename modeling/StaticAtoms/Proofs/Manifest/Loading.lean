import StaticAtoms.Command.Run
import StaticAtoms.Proofs.Manifest.Validity
import StaticAtoms.Proofs.Table.Runs

/-!
# Loading compiled manifests

What a manifest compiles to can be added to every table that has none of its strings.  Validating
finds repeated strings in one map, registering in buckets by hash; `compiled_registers` is the main
statement, in which both agree.
-/

namespace StaticAtoms

namespace Manifest

variable {manifest : Manifest} {atoms : List StaticAtom}

theorem strings_of_compile (compiled : manifest.compile = .ok atoms) :
    atoms.map StaticAtom.string = manifest.atoms.map Declaration.string := by
  obtain ⟨-, rfl⟩ := compile_eq_ok_iff.1 compiled
  rw [List.map_map]
  rfl

theorem declarations_of_compile (compiled : manifest.compile = .ok atoms) :
    atoms.map (fun atom => (⟨atom.ident, atom.string⟩ : Declaration)) = manifest.atoms := by
  obtain ⟨-, rfl⟩ := compile_eq_ok_iff.1 compiled
  rw [List.map_map]
  exact List.map_id _

theorem verify_of_compile (compiled : manifest.compile = .ok atoms) :
    ∀ atom ∈ atoms, atom.verify = .ok () := by
  obtain ⟨-, rfl⟩ := compile_eq_ok_iff.1 compiled
  rintro atom member
  obtain ⟨declaration, -, rfl⟩ := List.mem_map.1 member
  exact StaticAtom.verify_compute _ _

theorem registrable_of_compile (compiled : manifest.compile = .ok atoms) {table : Table String}
    (absent : ∀ declaration ∈ manifest.atoms, ¬ table.HasText declaration.string) :
    table.Registrable atoms where
  verified := verify_of_compile compiled
  distinct := by
    rw [strings_of_compile compiled]
    exact (compile_eq_ok_iff.1 compiled).1.nodup_strings
  absent atom member := by
    -- The string is that of a declaration, which is not in the table.
    have string : atom.string ∈ manifest.atoms.map Declaration.string := by
      rw [← strings_of_compile compiled]
      exact List.mem_map_of_mem member
    obtain ⟨declaration, declared, same⟩ := List.mem_map.1 string
    exact same ▸ absent declaration declared

end Manifest

theorem Table.not_hasText_empty {ι : Type} (text : String) : ¬ (empty : Table ι).HasText text := by
  rintro ⟨atom, member, -⟩
  simp [empty] at member

/-- The check that the generator makes before it prints never fails. -/
theorem produce_of_compile {source : String} {manifest : Manifest} {atoms : List StaticAtom}
    (parsed : Manifest.parse source = .ok manifest) (compiled : manifest.compile = .ok atoms)
    (format : OutputFormat) : (produce source format).2 = .ok (format.render atoms) := by
  obtain ⟨after, registered, -, -⟩ := Table.filed_empty.register_eq_ok
    (Manifest.registrable_of_compile compiled fun declaration _ => Table.not_hasText_empty _)
  simp only [produce, compileSource, parsed, compiled, registered]

theorem compileSource_eq_ok_iff {source : String} {atoms : List StaticAtom} :
    compileSource source = .ok atoms ↔
      ∃ declared, Manifest.parse source = .ok declared ∧ declared.compile = .ok atoms := by
  rw [compileSource]
  cases Manifest.parse source <;> simp

/-- Only compiling can fail: what was compiled can be registered. -/
theorem produce_eq_error_iff {source : String} {format : OutputFormat} {problems : List Problem} :
    (produce source format).2 = .error problems ↔ compileSource source = .error problems := by
  cases result : compileSource source with
  | error found =>
    simp only [produce, result, Except.error.injEq]
  | ok atoms =>
    obtain ⟨declared, parsed, compiled⟩ := compileSource_eq_ok_iff.1 result
    rw [produce_of_compile parsed compiled format]
    simp only [reduceCtorEq]

/-- Nothing is told of a manifest that does not compile but what is wrong with it. -/
theorem produce_fst_of_error {source : String} {format : OutputFormat} {problems : List Problem}
    (failed : (produce source format).2 = .error problems) : (produce source format).1 = [] := by
  simp only [produce, produce_eq_error_iff.1 failed]

/-- What was added to a table is found there by index, and by hash and string. -/
theorem Table.Filed.get?_of_register {table after : Table String} (filed : after.Filed)
    {atoms : List StaticAtom} (verified : ∀ atom ∈ atoms, atom.verify = .ok ())
    (added : after.entries.toList = table.entries.toList ++ atoms.map StaticAtom.toAtom)
    {index : Nat} {atom : StaticAtom} (listed : atoms[index]? = some atom) :
    after.get? ⟨table.size + index⟩ =
        some ⟨atom.ident, atom.string, atom.hash, atom.lowercase⟩ ∧
      after.lookupWithHash atom.hash atom.string = some ⟨table.size + index⟩ := by
  obtain ⟨sameHash, sameFlag⟩ :=
    StaticAtom.verify_eq_ok_iff.1 (verified atom (List.mem_of_getElem? listed))
  have found : after.get? ⟨table.size + index⟩ = some atom.toAtom := by
    -- The atoms that were there come first.
    have behind : table.entries.toList.length ≤ table.size + index := Nat.le_add_right _ _
    rw [get?, ← Array.getElem?_toList, added, List.getElem?_append_right behind,
      List.getElem?_map, Array.length_toList, size, Nat.add_sub_cancel_left, listed]
    rfl
  constructor
  · rw [found, sameHash, sameFlag]
    rfl
  · rw [sameHash]
    exact filed.find?_eq_some_iff.2 ⟨rfl, atom.toAtom, found, rfl⟩

/-- The atoms of a manifest that compiles are its declarations with the right facts.  They can be
added to every table that has none of their strings, in order and behind the atoms that are there, and
are found under the hashes that they carry. -/
theorem compiled_registers {manifest : Manifest} {atoms : List StaticAtom}
    (compiled : manifest.compile = .ok atoms) {table : Table String} (reachable : table.Reachable)
    (absent : ∀ declaration ∈ manifest.atoms, ¬ table.HasText declaration.string) :
    atoms.map (fun atom => (⟨atom.ident, atom.string⟩ : Declaration)) = manifest.atoms ∧
    StaticAtom.verifyAll atoms = [] ∧
    (∃ after, table.register atoms =
        (.ok ((List.range' table.size atoms.length).map AtomId.mk), after) ∧
      (table.size + atoms.length ≤ AtomId.limit →
        ∀ index < atoms.length, table.size + index < AtomId.limit) ∧
      ∀ index atom, atoms[index]? = some atom →
        after.get? ⟨table.size + index⟩ =
            some ⟨atom.ident, atom.string, atom.hash, atom.lowercase⟩ ∧
          after.lookupWithHash atom.hash atom.string = some ⟨table.size + index⟩) ∧
    ∀ source format, Manifest.parse source = .ok manifest →
      (produce source format).2 = .ok (format.render atoms) := by
  have verified := Manifest.verify_of_compile compiled
  obtain ⟨after, registered, added, filed⟩ :=
    reachable.filed.register_eq_ok (Manifest.registrable_of_compile compiled absent)
  refine ⟨Manifest.declarations_of_compile compiled, StaticAtom.verifyAll_eq_nil_iff.2 verified,
    ⟨after, registered, fun fits index bound => by omega, ?_⟩, ?_⟩
  · intro index atom listed
    exact filed.get?_of_register verified added listed
  · intro source format parsed
    exact produce_of_compile parsed compiled format

/-! ## A manifest of two strings with one hash -/

def collidingManifest : Manifest :=
  ⟨[⟨"first", "atom_359078"⟩, ⟨"second", "atom_3000486"⟩]⟩

/-- What `collidingManifest` compiles to. -/
def collidingAtoms : List StaticAtom :=
  [⟨"first", "atom_359078", 0x0B2339E6, true⟩, ⟨"second", "atom_3000486", 0x0B2339E6, true⟩]

theorem compile_collidingManifest : collidingManifest.compile = .ok collidingAtoms :=
  rfl

/-- Both atoms are added to a table that has another one, and the second is found in its bucket. -/
theorem compiled_registers_colliding :
    ∃ after, (Table.run [.intern "known" "atom_0"]).register collidingAtoms =
        (.ok [⟨1⟩, ⟨2⟩], after) ∧
      after.lookupWithHash 0x0B2339E6 "atom_3000486" = some ⟨2⟩ := by
  have absent : ∀ declaration ∈ collidingManifest.atoms,
      ¬ (Table.run [.intern "known" "atom_0"]).HasText declaration.string := by
    decide +kernel
  obtain ⟨-, -, ⟨after, registered, -, found⟩, -⟩ :=
    compiled_registers compile_collidingManifest ⟨_, rfl⟩ absent
  exact ⟨after, registered, (found 1 _ rfl).2⟩

end StaticAtoms
