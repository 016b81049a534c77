import StaticAtoms.Proofs.Generated.RoundTrip
import StaticAtoms.Proofs.Table.Refusals

/-!
# Checking generated tables

The check of a generated table goes through four stages: the form of the text, the facts that the
entries carry, the fingerprint, and the strings.  `GeneratedTable.Consistent` says what the last three
look for, and `FirstFailure` what is told of a text that does not pass.  Every text has a first failure
or is that of a consistent table: `verify_accepts_consistent`.
-/

namespace StaticAtoms

variable {source : String} {lines : List String} {table : GeneratedTable}

/-! ## Consistent tables -/

/-- Whether an atom carries the facts of its string. -/
def StaticAtom.CarriesFacts (atom : StaticAtom) : Prop :=
  atom.hash = Hash.ofText atom.string ∧ atom.lowercase = isLowercase atom.string

instance : DecidablePred StaticAtom.CarriesFacts :=
  fun atom => inferInstanceAs (Decidable (atom.hash = Hash.ofText atom.string ∧
    atom.lowercase = isLowercase atom.string))

/-- Whether the entries of a table carry the facts of their strings, its fingerprint is theirs, and no
string occurs twice. -/
structure GeneratedTable.Consistent (table : GeneratedTable) : Prop where
  facts : ∀ atom ∈ table.atoms, atom.CarriesFacts
  fingerprint : table.fingerprint = (Fingerprint.ofAtoms table.atoms).hex
  distinct : (table.atoms.map StaticAtom.string).Nodup

/-! ## Failures -/

/-- The line about an atom that does not carry the facts of its string.  The hash comes first. -/
def StaticAtom.objectionLine (atom : StaticAtom) : String :=
  if atom.hash ≠ Hash.ofText atom.string then
    errorLine "E005"
      (s!"atom `{atom.ident}` ({Quoted.quote atom.string}) carries hash 0x{Hex.word atom.hash}, "
        ++ s!"expected 0x{Hex.word (Hash.ofText atom.string)}")
      (some "regenerate the atom table from its manifest")
  else
    errorLine "E006"
      (s!"atom `{atom.ident}` ({Quoted.quote atom.string}) is_ascii_lowercase is {atom.lowercase}, "
        ++ s!"expected {isLowercase atom.string}") none

/-- The lines about a text whose check fails, by the first stage that does: what is wrong with its form;
or one line for each entry that does not carry the facts of its string, in the order of the entries; or the
wrong fingerprint; or the first entry whose string has occurred before. -/
inductive FirstFailure (source : String) : List String → Prop
  | form {cause : Json.Error} (wrong : GeneratedTable.parse source = .error (.invalidTable cause)) :
      FirstFailure source
        [errorLine "E001" s!"invalid generated table at line {cause.line}: {cause.message}" none]
  | facts {table : GeneratedTable} (parsed : GeneratedTable.parse source = .ok table)
      (wrong : ∃ atom ∈ table.atoms, ¬ atom.CarriesFacts) :
      FirstFailure source
        ((table.atoms.filter fun atom => ¬ atom.CarriesFacts).map StaticAtom.objectionLine)
  | fingerprint {table : GeneratedTable} (parsed : GeneratedTable.parse source = .ok table)
      (facts : ∀ atom ∈ table.atoms, atom.CarriesFacts)
      (wrong : table.fingerprint ≠ (Fingerprint.ofAtoms table.atoms).hex) :
      FirstFailure source [errorLine "E009"
        s!"fingerprint {table.fingerprint} does not match entries ({(Fingerprint.ofAtoms table.atoms).hex})"
        (some "the table was edited after generation")]
  | repeated {table : GeneratedTable} {earlier later : List StaticAtom} {atom : StaticAtom}
      (parsed : GeneratedTable.parse source = .ok table)
      (facts : ∀ atom ∈ table.atoms, atom.CarriesFacts)
      (fingerprint : table.fingerprint = (Fingerprint.ofAtoms table.atoms).hex)
      (parts : table.atoms = earlier ++ atom :: later)
      (distinct : (earlier.map StaticAtom.string).Nodup)
      (again : atom.string ∈ earlier.map StaticAtom.string) :
      FirstFailure source [errorLine "E003"
        s!"static atom `{atom.ident}` re-registers string {Quoted.quote atom.string}" none]

theorem GeneratedTable.exists_of_parse_eq_error {problem : Problem}
    (failed : parse source = .error problem) : ∃ cause, problem = .invalidTable cause := by
  rw [parse] at failed
  split at failed
  · cases failed
  · cases failed
    exact ⟨_, rfl⟩

namespace StaticAtom

variable {atom : StaticAtom} {atoms : List StaticAtom} {problem : Problem}

theorem carriesFacts_iff_verify : atom.CarriesFacts ↔ atom.verify = .ok () :=
  verify_eq_ok_iff.symm

theorem verifyAll_eq_nil_iff_carriesFacts :
    verifyAll atoms = [] ↔ ∀ atom ∈ atoms, atom.CarriesFacts := by
  simp only [verifyAll_eq_nil_iff, carriesFacts_iff_verify]

theorem problem?_of_carriesFacts (facts : atom.CarriesFacts) : atom.problem? = none := by
  rw [problem?, carriesFacts_iff_verify.1 facts]

theorem display_of_verify (failed : atom.verify = .error problem) :
    problem.diagnostic.display = atom.objectionLine := by
  rw [Diagnostic.display_eq]
  rw [verify] at failed
  split at failed
  next wrongHash =>
    cases failed
    rw [objectionLine, if_pos wrongHash]
    rfl
  next rightHash =>
    split at failed
    next =>
      cases failed
      rw [objectionLine, if_neg rightHash]
      rfl
    next => cases failed

theorem problem?_of_not_carriesFacts (wrong : ¬ atom.CarriesFacts) :
    ∃ problem, atom.problem? = some problem ∧ problem.diagnostic.display = atom.objectionLine := by
  cases verified : atom.verify with
  | ok => exact absurd (carriesFacts_iff_verify.2 verified) wrong
  | error problem =>
    rw [problem?, verified]
    exact ⟨problem, rfl, display_of_verify verified⟩

/-- There is one line for each entry at fault, in the order of the entries. -/
theorem display_verifyAll (atoms : List StaticAtom) :
    (verifyAll atoms).map (fun problem => problem.diagnostic.display) =
      (atoms.filter fun atom => ¬ atom.CarriesFacts).map objectionLine := by
  induction atoms with
  | nil => rfl
  | cons atom atoms ih =>
    by_cases facts : atom.CarriesFacts
    · rw [List.filter_cons_of_neg (by simpa using facts), verifyAll,
        List.filterMap_cons_none (problem?_of_carriesFacts facts)]
      exact ih
    · obtain ⟨problem, found, line⟩ := problem?_of_not_carriesFacts facts
      rw [List.filter_cons_of_pos (by simpa using facts), verifyAll,
        List.filterMap_cons_some found, List.map_cons, List.map_cons, line]
      exact congrArg _ ih

end StaticAtom

/-! ## Repeated strings -/

namespace Table

variable {atoms : List StaticAtom} {problem : Problem}

theorem registrable_empty_iff (facts : ∀ atom ∈ atoms, atom.CarriesFacts) :
    (empty : Table String).Registrable atoms ↔ (atoms.map StaticAtom.string).Nodup := by
  rw [registrable_iff]
  exact ⟨fun ⟨_, distinct, _⟩ => distinct,
    fun distinct => ⟨facts, distinct, fun _ _ => not_hasText_empty _⟩⟩

/-- Of atoms that carry the facts of their strings, the first one is refused whose string has occurred
before. -/
theorem register_empty_eq_error_iff (facts : ∀ atom ∈ atoms, atom.CarriesFacts) :
    ((empty : Table String).register atoms).1 = .error problem ↔
      ∃ earlier atom later, atoms = earlier ++ atom :: later ∧
        (earlier.map StaticAtom.string).Nodup ∧ atom.string ∈ earlier.map StaticAtom.string ∧
        problem = .reRegistered atom.ident atom.string := by
  rw [filed_empty.register_eq_error_iff]
  constructor
  · rintro ⟨earlier, atom, later, rfl, registrable, objection⟩
    obtain ⟨sameHash, sameFlag⟩ := facts atom (by simp)
    cases objection with
    | hash wrongHash => exact absurd sameHash wrongHash
    | flag _ wrongFlag => exact absurd sameFlag wrongFlag
    | string _ _ there =>
      obtain present | again := there
      · exact absurd present (not_hasText_empty _)
      · exact ⟨earlier, atom, later, rfl, registrable.distinct, List.mem_map.2 again, rfl⟩
  · rintro ⟨earlier, atom, later, rfl, distinct, again, rfl⟩
    obtain ⟨sameHash, sameFlag⟩ := facts atom (by simp)
    have registrable : (empty : Table String).Registrable earlier :=
      (registrable_empty_iff fun atom member => facts atom (by simp [member])).2 distinct
    exact ⟨earlier, atom, later, rfl, registrable,
      .string sameHash sameFlag (.inr (List.mem_map.1 again))⟩

theorem register_empty_eq_ok (facts : ∀ atom ∈ atoms, atom.CarriesFacts)
    (distinct : (atoms.map StaticAtom.string).Nodup) :
    ∃ ids loaded, (empty : Table String).register atoms = (.ok ids, loaded) ∧
      loaded.stats = .ofHashes (atoms.map StaticAtom.hash) := by
  obtain ⟨loaded, registered, added, filed⟩ :=
    filed_empty.register_eq_ok ((registrable_empty_iff facts).2 distinct)
  refine ⟨_, loaded, registered, ?_⟩
  have carried : loaded.hashes = atoms.map StaticAtom.hash := by
    rw [hashes, added, List.map_append, List.map_map]
    exact List.map_congr_left fun atom member => (facts atom member).1.symm
  rw [filed.stats_eq, carried]

end Table

/-! ## The check -/

theorem GeneratedTable.fingerprintMatches_iff : table.fingerprintMatches ↔
    table.fingerprint = (Fingerprint.ofAtoms table.atoms).hex := by
  rw [fingerprintMatches, decide_eq_true_iff, eq_comm]
  rfl

/-- The line about a table that passes the check. -/
def TableStats.line (stats : TableStats) : String :=
  s!"ok: {stats.atoms} atoms, {stats.buckets} buckets, "
    ++ s!"largest bucket {stats.largestBucket}, {stats.collided} collided\n"

theorem check_of_consistent (parsed : GeneratedTable.parse source = .ok table)
    (consistent : table.Consistent) :
    ∃ events, check source =
      (Outcome.done (TableStats.ofHashes (table.atoms.map StaticAtom.hash)).line).after events := by
  obtain ⟨facts, fingerprint, distinct⟩ := consistent
  obtain ⟨ids, loaded, registered, stats⟩ := Table.register_empty_eq_ok facts distinct
  refine ⟨Log.registered table.atoms ids loaded.size, ?_⟩
  simp only [check, parsed, StaticAtom.verifyAll_eq_nil_iff_carriesFacts.2 facts,
    GeneratedTable.fingerprintMatches_iff.2 fingerprint, registered, stats, Bool.not_true,
    Bool.false_eq_true, ↓reduceIte]
  rfl

theorem check_of_firstFailure (failure : FirstFailure source lines) :
    check source = .complain lines := by
  cases failure with
  | form wrong =>
    rw [check, wrong]
    exact congrArg (Outcome.complain [·]) (Diagnostic.display_eq _)
  | facts parsed wrong =>
    rw [← StaticAtom.display_verifyAll]
    cases told : StaticAtom.verifyAll _ with
    | nil =>
      obtain ⟨atom, member, wrongFacts⟩ := wrong
      exact absurd (StaticAtom.verifyAll_eq_nil_iff_carriesFacts.1 told atom member) wrongFacts
    | cons problem problems =>
      simp only [check, parsed, told]
      rfl
  | fingerprint parsed facts wrong =>
    have differs := Bool.eq_false_iff.2 (mt GeneratedTable.fingerprintMatches_iff.1 wrong)
    simp only [check, parsed, StaticAtom.verifyAll_eq_nil_iff_carriesFacts.2 facts, differs,
      Bool.not_false, ↓reduceIte]
    exact congrArg (Outcome.complain [·]) (Diagnostic.display_eq _)
  | repeated parsed facts fingerprint parts distinct again =>
    have refused := Table.register_of_error <| (Table.register_empty_eq_error_iff facts).2
      ⟨_, _, _, parts, distinct, again, rfl⟩
    simp only [check, parsed, StaticAtom.verifyAll_eq_nil_iff_carriesFacts.2 facts,
      GeneratedTable.fingerprintMatches_iff.2 fingerprint, refused, Bool.not_true,
      Bool.false_eq_true, ↓reduceIte]
    exact congrArg (Outcome.complain [·]) (Diagnostic.display_eq _)

/-- Every text that is not that of a consistent table has a first failure. -/
theorem consistent_or_firstFailure (source : String) :
    (∃ table, GeneratedTable.parse source = .ok table ∧ table.Consistent) ∨
      ∃ lines, FirstFailure source lines := by
  cases parsed : GeneratedTable.parse source with
  | error problem =>
    obtain ⟨cause, rfl⟩ := GeneratedTable.exists_of_parse_eq_error parsed
    exact .inr ⟨_, .form parsed⟩
  | ok table =>
    by_cases facts : ∀ atom ∈ table.atoms, atom.CarriesFacts
    · by_cases fingerprint : table.fingerprint = (Fingerprint.ofAtoms table.atoms).hex
      · by_cases distinct : (table.atoms.map StaticAtom.string).Nodup
        · exact .inl ⟨table, rfl, facts, fingerprint, distinct⟩
        · -- Registering finds the first entry whose string has occurred before.
          obtain ⟨problem, refused⟩ := Table.filed_empty.register_eq_error
            (mt (Table.registrable_empty_iff facts).1 distinct)
          obtain ⟨earlier, atom, later, parts, distinct, again, -⟩ :=
            (Table.register_empty_eq_error_iff facts).1 (congrArg Prod.fst refused)
          exact .inr ⟨_, .repeated parsed facts fingerprint parts distinct again⟩
      · exact .inr ⟨_, .fingerprint parsed facts fingerprint⟩
    · have wrong : ∃ atom ∈ table.atoms, ¬ atom.CarriesFacts := by
        simpa only [not_forall, exists_prop] using facts
      exact .inr ⟨_, .facts parsed wrong⟩

/-- The check of a file succeeds for the texts of consistent tables and for no others.  It then prints
the occupancy of the hashes of the entries, and tells events only.  Otherwise it prints nothing, and on the
error output it has the lines about the first failure and nothing else, whatever the log filter shows.
In no case does it change anything. -/
theorem verify_accepts_consistent {arguments : List String} {options : Options} {path : String}
    {store : Store} (understood : understand arguments = .ok (options, .verify path))
    (read : store.readText path = .ok source) :
    ((runOn arguments store).1.status = 0 ↔
      ∃ table, GeneratedTable.parse source = .ok table ∧ table.Consistent) ∧
    (∀ table, GeneratedTable.parse source = .ok table → table.Consistent →
      (runOn arguments store).1.standardOutput =
          (TableStats.ofHashes (table.atoms.map StaticAtom.hash)).line ∧
        ∀ filter, (runOn arguments store).1.errorOutput filter =
          unlines ((runOn arguments store).1.eventLines filter)) ∧
    ((runOn arguments store).1.status ≠ 0 ↔ ∃ lines, FirstFailure source lines) ∧
    (∀ lines, FirstFailure source lines →
      (runOn arguments store).1.status = 1 ∧ (runOn arguments store).1.standardOutput = "" ∧
        ∀ filter, (runOn arguments store).1.errorOutput filter = unlines lines) ∧
    (runOn arguments store).2 = store := by
  have run : runOn arguments store = (check source, store) := by
    rw [runOn_of_understand understood, performOn_verify, read]
  have accepts (table : GeneratedTable) (parsed : GeneratedTable.parse source = .ok table)
      (consistent : table.Consistent) : (check source).status = 0 := by
    obtain ⟨events, passed⟩ := check_of_consistent parsed consistent
    rw [passed]
    rfl
  have fails (lines : List String) (failure : FirstFailure source lines) :
      (check source).status = 1 := by
    rw [check_of_firstFailure failure]
    rfl
  -- A text is consistent or has a first failure, so both outcomes decide the other directions.
  rw [run]
  refine ⟨⟨fun passed => ?_, fun ⟨table, parsed, consistent⟩ => accepts table parsed consistent⟩,
    fun table parsed consistent => ?_, ⟨fun failed => ?_, fun ⟨lines, failure⟩ => ?_⟩,
    fun lines failure => ⟨fails lines failure, ?_, fun filter => ?_⟩, rfl⟩
  · obtain consistent | ⟨lines, failure⟩ := consistent_or_firstFailure source
    · exact consistent
    · cases passed.symm.trans (fails lines failure)
  · obtain ⟨events, passed⟩ := check_of_consistent parsed consistent
    rw [passed, Outcome.standardOutput_after, Outcome.standardOutput_done]
    refine ⟨rfl, fun filter => ?_⟩
    rw [(Outcome.eventsFirst_done _).after events filter, Outcome.errorLines_after]
    exact congrArg unlines (List.append_nil _)
  · obtain ⟨table, parsed, consistent⟩ | failure := consistent_or_firstFailure source
    · exact absurd (accepts table parsed consistent) failed
    · exact failure
  · rw [fails lines failure]
    exact Nat.one_ne_zero
  · rw [check_of_firstFailure failure]
    exact Outcome.standardOutput_complain lines
  · rw [check_of_firstFailure failure]
    exact Outcome.errorOutput_complain lines filter

def tableScene (table : GeneratedTable) : Store :=
  .ofNodes [(["atoms.json"], .file (Text.utf8 table.pretty))]

theorem readText_tableScene (table : GeneratedTable) :
    (tableScene table).readText "atoms.json" = .ok table.pretty :=
  Store.readText_eq_ok_iff.2 rfl

/-- A table whose third entry has the string of the first. -/
def repeatingTable : GeneratedTable :=
  .ofAtoms (collidingAtoms ++ [⟨"third", "atom_359078", 0x0B2339E6, true⟩])

theorem facts_repeatingTable : ∀ atom ∈ repeatingTable.atoms, atom.CarriesFacts := by
  decide +kernel

/-- A table whose entries are both wrong: a hash, and whether there are capitals. -/
def tamperedTable : GeneratedTable :=
  .ofAtoms [⟨"first", "a", 1, true⟩, ⟨"second", "B", Hash.ofText "B", true⟩]

/-- Two strings with one hash share a bucket, one string in two entries is refused, and each wrong entry
has its line. -/
theorem verify_accepts_consistent_colliding :
    (runOn ["verify", "atoms.json"] (tableScene (.ofAtoms collidingAtoms))).1.standardOutput =
        "ok: 2 atoms, 1 buckets, largest bucket 2, 2 collided\n" ∧
      (∀ filter, (runOn ["verify", "atoms.json"] (tableScene repeatingTable)).1.errorOutput filter =
        "error[E003]: static atom `third` re-registers string \"atom_359078\"\n") ∧
      ∀ filter, (runOn ["verify", "atoms.json"] (tableScene tamperedTable)).1.errorOutput filter =
        "error[E005]: atom `first` (\"a\") carries hash 0x00000001, expected 0xf3051f19\n"
          ++ "  hint: regenerate the atom table from its manifest\n"
          ++ "error[E006]: atom `second` (\"B\") is_ascii_lowercase is true, expected false\n" := by
  obtain ⟨-, prints, -⟩ := verify_accepts_consistent understand_verify
    (readText_tableScene (.ofAtoms collidingAtoms))
  obtain ⟨-, -, -, repeats, -⟩ := verify_accepts_consistent understand_verify
    (readText_tableScene repeatingTable)
  obtain ⟨-, -, -, tampered, -⟩ := verify_accepts_consistent understand_verify
    (readText_tableScene tamperedTable)
  have facts : ∀ atom ∈ collidingAtoms, atom.CarriesFacts := by decide +kernel
  obtain ⟨printed, -⟩ := prints _ (GeneratedTable.parse_pretty _) ⟨facts, rfl, by decide⟩
  obtain ⟨-, -, repeated⟩ := repeats _ (.repeated (GeneratedTable.parse_pretty _)
    facts_repeatingTable rfl rfl (by decide) (by decide))
  obtain ⟨-, -, objected⟩ := tampered _ (.facts (GeneratedTable.parse_pretty _)
    (by decide +kernel))
  exact ⟨printed, repeated, objected⟩

end StaticAtoms
