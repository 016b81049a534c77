import StaticAtoms.Proofs.Command.Stores
import StaticAtoms.Proofs.Json.Structures
import StaticAtoms.Proofs.Manifest.Loading
import StaticAtoms.Proofs.Table.Occupancy

/-!
# Generated tables read back

A generated table that is written in either layout is read as the same table, whatever its texts
contain.  The table of a manifest that compiles passes the check of the tool, too:
`parse_written_and_check` is the main statement.
-/

namespace StaticAtoms

open Json

/-! ## Reading what was written -/

theorem StaticAtom.reads_write {layout : Layout} (blank : layout.IsBlank) (depth : Nat)
    (atom : StaticAtom) : Reads record.reader (atom.write layout depth) atom := by
  have finished : record.finish
      ⟨some atom.ident, some atom.string, some atom.hash, some atom.lowercase⟩ = .ok atom := rfl
  refine reads_writeObject blank depth ?_ finished
  refine .member rfl rfl ((reads_writeText atom.ident).map _) ?_
  refine .member rfl rfl ((reads_writeText atom.string).map _) ?_
  refine .member rfl rfl ((reads_writeNat atom.hash).map _) ?_
  refine .member rfl rfl ((reads_writeFlag atom.lowercase).map _) ?_
  exact .done _

namespace GeneratedTable

theorem reads_write {layout : Layout} (blank : layout.IsBlank) (depth : Nat)
    (table : GeneratedTable) : Reads record.reader (table.write layout depth) table := by
  have items : Reads (.list StaticAtom.record.reader)
      (writeList layout (depth + 1) (table.atoms.map (StaticAtom.write layout (depth + 2))))
      table.atoms :=
    reads_writeList blank (depth + 1) table.atoms
      (fun atom _ => atom.reads_write blank (depth + 2)) fun _ _ => starts_writeObject ..
  have finished : record.finish ⟨some table.fingerprint, some table.atoms⟩ = .ok table := rfl
  refine reads_writeObject blank depth ?_ finished
  refine .member rfl rfl ((reads_writeText table.fingerprint).map _) ?_
  refine .member rfl rfl (items.map _) ?_
  exact .done _

theorem parse_compact (table : GeneratedTable) : parse table.compact = .ok table := by
  have read := (table.reads_write Layout.isBlank_compact 0).parse blank_nil
  rw [List.append_nil] at read
  simp only [parse, compact, read]

theorem parse_pretty (table : GeneratedTable) : parse table.pretty = .ok table := by
  have blank : Blank ['\n'] := by
    intro c member
    obtain rfl := List.mem_singleton.1 member
    rfl
  simp only [parse, pretty, (table.reads_write Layout.isBlank_pretty 0).parse blank]

theorem fingerprintMatches_ofAtoms (atoms : List StaticAtom) :
    (ofAtoms atoms).fingerprintMatches = true :=
  decide_eq_true rfl

end GeneratedTable

/-! ## Checking what was written -/

/-- The check of a rendered table succeeds and counts the declarations. -/
theorem check_render {manifest : Manifest} {atoms : List StaticAtom}
    (compiled : manifest.compile = .ok atoms) :
    (check (GeneratedTable.render atoms)).status = 0 ∧
      ∃ buckets largest collided : Nat, (check (GeneratedTable.render atoms)).standardOutput =
        s!"ok: {manifest.atoms.length} atoms, {buckets} buckets, "
          ++ s!"largest bucket {largest}, {collided} collided\n" := by
  have verified := StaticAtom.verifyAll_eq_nil_iff.2 (Manifest.verify_of_compile compiled)
  obtain ⟨loaded, registered, added, -⟩ := Table.filed_empty.register_eq_ok
    (Manifest.registrable_of_compile compiled fun _ _ => Table.not_hasText_empty _)
  have count : loaded.stats.atoms = manifest.atoms.length := by
    rw [Table.atoms_stats, Table.size, ← Array.length_toList, added, List.length_append,
      List.length_map, ← Manifest.declarations_of_compile compiled, List.length_map]
    exact Nat.zero_add _
  simp only [check, GeneratedTable.render, GeneratedTable.parse_pretty,
    GeneratedTable.fingerprintMatches_ofAtoms]
  simp only [GeneratedTable.ofAtoms, verified, Bool.not_true, Bool.false_eq_true, ↓reduceIte,
    registered, count, Outcome.status_after, Outcome.standardOutput_after,
    Outcome.standardOutput_done]
  exact ⟨rfl, _, _, _, rfl⟩

/-- A table that is written in either layout is read as itself.  What a manifest compiles to is read
as its atoms with their fingerprint, and the check of the file that has it counts the declarations. -/
theorem parse_written_and_check :
    (∀ table : GeneratedTable, GeneratedTable.parse table.pretty = .ok table ∧
      GeneratedTable.parse table.compact = .ok table) ∧
    ∀ (manifest : Manifest) (atoms : List StaticAtom), manifest.compile = .ok atoms →
      (∃ table, GeneratedTable.parse (GeneratedTable.render atoms) = .ok table ∧
        table.atoms = atoms ∧ table.fingerprintMatches = true) ∧
      ∀ (arguments : List String) (options : Options) (path : String) (store : Store),
        understand arguments = .ok (options, .verify path) →
        store.read path = .ok (Text.utf8 (GeneratedTable.render atoms)) →
        ∃ outcome, runOn arguments store = (outcome, store) ∧ outcome.status = 0 ∧
          ∃ buckets largest collided : Nat, outcome.standardOutput =
            s!"ok: {manifest.atoms.length} atoms, {buckets} buckets, "
              ++ s!"largest bucket {largest}, {collided} collided\n" := by
  refine ⟨fun table => ⟨table.parse_pretty, table.parse_compact⟩, ?_⟩
  intro manifest atoms compiled
  refine ⟨⟨.ofAtoms atoms, GeneratedTable.parse_pretty _, rfl,
    GeneratedTable.fingerprintMatches_ofAtoms atoms⟩, ?_⟩
  intro arguments options path store understood content
  have text : store.readText path = .ok (GeneratedTable.render atoms) := by
    simp only [Store.readText, content, Text.ofUtf8?_utf8]
  refine ⟨check (GeneratedTable.render atoms), ?_, check_render compiled⟩
  rw [runOn_of_understand understood, performOn_verify, text]

theorem understand_verify : understand ["verify", "atoms.json"] =
    .ok (⟨false, false, false, .listing, none, Options.defaultCacheDir⟩, .verify "atoms.json") := by
  have plain : ["verify", "atoms.json"].find? Options.isFlag = none := by decide +kernel
  simp [understand, Options.ofArguments, Options.takeValue, Options.switches, Options.formatOf,
    plain, Command.ofArguments, Command.onFile, bind, Except.bind, pure, Except.pure]

/-- The table of two colliding strings is checked in a file of the working directory. -/
theorem parse_written_and_check_colliding :
    ∃ outcome store, runOn ["verify", "atoms.json"] store = (outcome, store) ∧
      outcome.status = 0 ∧ ∃ buckets largest collided : Nat, outcome.standardOutput =
        s!"ok: {2} atoms, {buckets} buckets, "
          ++ s!"largest bucket {largest}, {collided} collided\n" := by
  obtain ⟨outcome, ran, succeeded⟩ :=
    (parse_written_and_check.2 _ _ compile_collidingManifest).2 _ _ _
      (.ofNodes [(["atoms.json"], .file (Text.utf8 (GeneratedTable.render collidingAtoms)))])
      understand_verify rfl
  exact ⟨outcome, _, ran, succeeded⟩

end StaticAtoms
