import StaticAtoms.Manifest.Validation

/-!
# Valid manifests

`Manifest.Valid` says what validating looks for in terms of the declarations alone: identifiers follow
the rules, and no two declarations share an identifier or a string.

* `Seen.Records` ties what is remembered while validating to the declarations before.
* `Manifest.compile_eq_ok_iff` says that exactly the valid manifests compile, and to what.
-/

namespace StaticAtoms

/-- Whether two declarations have different identifiers and different strings. -/
def Declaration.Apart (left right : Declaration) : Prop :=
  left.ident ≠ right.ident ∧ left.string ≠ right.string

namespace Manifest

/-- Whether all identifiers follow the rules and all declarations are apart. -/
structure Valid (manifest : Manifest) : Prop where
  idents : ∀ declaration ∈ manifest.atoms, isIdent declaration.ident
  apart : manifest.atoms.Pairwise Declaration.Apart

namespace Seen

/-! ## What is remembered -/

/-- Whether exactly the given declarations are remembered: their identifiers, and for every string the
first of them. -/
structure Records (seen : Seen) (earlier : List Declaration) : Prop where
  idents : ∀ ident, ident ∈ seen.idents ↔ ∃ declaration ∈ earlier, declaration.ident = ident
  firsts : ∀ string : String, seen.firsts[string]? =
    (earlier.find? fun declaration => declaration.string = string).map Declaration.ident

theorem records_none : none.Records [] where
  idents ident := by simp [none]
  firsts string := by simp [none]

/-- A declaration gets its identifier under its string only if the string is new: what was there before
is put back. -/
theorem getElem?_firsts_add (seen : Seen) (declaration : Declaration) (string : String) :
    (seen.add declaration).firsts[string]? =
      if declaration.string = string then
        some (seen.firsts[declaration.string]?.getD declaration.ident)
      else seen.firsts[string]? := by
  rw [add]
  cases seen.firsts[declaration.string]? with
  | none => simp [Std.TreeMap.getElem?_insert]
  | some first =>
    by_cases same : declaration.string = string <;> simp [Std.TreeMap.getElem?_insert, same]

theorem Records.add {seen : Seen} {earlier : List Declaration} (records : seen.Records earlier)
    (declaration : Declaration) : (seen.add declaration).Records (earlier ++ [declaration]) where
  idents ident := by
    simp only [Seen.add, Std.TreeSet.mem_insert, Std.LawfulEqCmp.compare_eq_iff_eq,
      records.idents, List.mem_append, List.mem_singleton]
    constructor
    · rintro (same | ⟨other, member, same⟩)
      · exact ⟨declaration, .inr rfl, same⟩
      · exact ⟨other, .inl member, same⟩
    · rintro ⟨other, member | rfl, same⟩
      · exact .inr ⟨other, member, same⟩
      · exact .inl same
  firsts string := by
    rw [getElem?_firsts_add, records.firsts, records.firsts, List.find?_append,
      List.find?_singleton]
    by_cases same : declaration.string = string
    · subst same
      cases found : earlier.find? fun other => other.string = declaration.string <;> simp
    · cases found : earlier.find? fun other => other.string = string <;> simp [same]

theorem Records.problems_eq_nil_iff {seen : Seen} {earlier : List Declaration}
    (records : seen.Records earlier) (declaration : Declaration) :
    seen.problems declaration = [] ↔
      isIdent declaration.ident ∧ ∀ other ∈ earlier, other.Apart declaration := by
  have silent : seen.problems declaration = [] ↔ isIdent declaration.ident ∧
      declaration.ident ∉ seen.idents ∧ seen.firsts[declaration.string]? = .none := by
    cases found : seen.firsts[declaration.string]? <;> simp [problems, found]
  have repeated : declaration.ident ∉ seen.idents ↔
      ∀ other ∈ earlier, other.ident ≠ declaration.ident := by
    simp [records.idents]
  have shared : seen.firsts[declaration.string]? = .none ↔
      ∀ other ∈ earlier, other.string ≠ declaration.string := by
    simp [records.firsts]
  rw [silent, repeated, shared]
  constructor
  · rintro ⟨valid, idents, strings⟩
    exact ⟨valid, fun other member => ⟨idents other member, strings other member⟩⟩
  · rintro ⟨valid, apart⟩
    exact ⟨valid, fun other member => (apart other member).1,
      fun other member => (apart other member).2⟩

theorem Records.problemsOf_eq_nil_iff {seen : Seen} {earlier : List Declaration}
    (records : seen.Records earlier) (declarations : List Declaration) :
    seen.problemsOf declarations = [] ↔
      (∀ declaration ∈ declarations, isIdent declaration.ident) ∧
        declarations.Pairwise Declaration.Apart ∧
        ∀ other ∈ earlier, ∀ declaration ∈ declarations, other.Apart declaration := by
  induction declarations generalizing seen earlier with
  | nil => simp [problemsOf]
  | cons declaration rest ih =>
    rw [problemsOf, List.append_eq_nil_iff, records.problems_eq_nil_iff,
      ih (records.add declaration)]
    simp only [List.forall_mem_cons, List.pairwise_cons, List.forall_mem_append]
    constructor
    · rintro ⟨⟨valid, before⟩, idents, apart, across, behind, -⟩
      exact ⟨⟨valid, idents⟩, ⟨behind, apart⟩,
        fun other member => ⟨before other member, across other member⟩⟩
    · rintro ⟨⟨valid, idents⟩, ⟨behind, apart⟩, across⟩
      exact ⟨⟨valid, fun other member => (across other member).1⟩, idents, apart,
        fun other member => (across other member).2, behind, by simp⟩

end Seen

/-! ## Compiling -/

theorem problems_eq_nil_iff {manifest : Manifest} : manifest.problems = [] ↔ manifest.Valid := by
  rw [problems, Seen.records_none.problemsOf_eq_nil_iff]
  constructor
  · rintro ⟨idents, apart, -⟩
    exact ⟨idents, apart⟩
  · rintro ⟨idents, apart⟩
    exact ⟨idents, apart, by simp⟩

/-- The valid manifests compile, each declaration to its static atom. -/
theorem compile_eq_ok_iff {manifest : Manifest} {atoms : List StaticAtom} :
    manifest.compile = .ok atoms ↔
      manifest.Valid ∧ atoms = manifest.atoms.map fun declaration =>
        .compute declaration.ident declaration.string := by
  rw [← problems_eq_nil_iff, compile]
  cases manifest.problems with
  | nil => simp [eq_comm]
  | cons problem problems => simp

theorem compile_eq_error_iff {manifest : Manifest} {problems : List Problem} :
    manifest.compile = .error problems ↔ manifest.problems ≠ [] ∧ problems = manifest.problems := by
  rw [compile]
  split
  next none => simp [none]
  next wrong =>
    constructor
    · intro same
      exact ⟨wrong, (Except.error.inj same).symm⟩
    · rintro ⟨-, rfl⟩
      rfl

theorem Valid.nodup_strings {manifest : Manifest} (valid : manifest.Valid) :
    (manifest.atoms.map Declaration.string).Nodup :=
  List.pairwise_map.2 (valid.apart.imp And.right)

end Manifest

end StaticAtoms
