import StaticAtoms.Proofs.Cache.Transparency
import StaticAtoms.Proofs.Command.Delivering

/-!
# Recovery from a damaged cache

A file in the cache that does not begin with the entry of a run costs the run nothing but its output's
being made again: the output is delivered, whatever comes of keeping it.  If it can be kept, it is kept in
place of everything that stood in the file, and the next run takes it from there: `damage_heals`.
-/

namespace StaticAtoms

open Store

variable {options others : Options} {arguments again : List String} {directory : Cache.Directory}
  {manifest source output : String} {store : Store} {declared : Manifest} {atoms : List StaticAtom}

/-- The entry of a run's output. -/
def Options.entry (options : Options) (source : String) (atoms : List StaticAtom) : Cache.Entry :=
  ⟨toolVersion, options.key source, options.format.render atoms⟩

/-! ## The run that regenerates -/

/-- Whether or not an output can be kept, the output file can be written as before. -/
theorem CanWrite.keepIn {out : Option String} (writable : CanWrite out output store)
    (beside : ∀ path ∈ out, Path.Beside directory.path path) (key : Digest) (kept : String) :
    CanWrite out output (keepIn (some directory) key kept store) := by
  intro path named
  obtain ⟨location, found, -⟩ := destination_of_write (writable path named)
  rw [(spares_keepIn directory key kept store).write_snd_eq (beside path named) found]
  exact writable path named

theorem read_delivered {out : Option String} {path : String} {content : Bytes}
    (read : store.read path = .ok content) (beside : Path.Beside directory.path path)
    (other : ∀ written ∈ out, Path.place written ≠ Path.place path) (key : Digest) (output : String) :
    (deliverOn out output (keepIn (some directory) key output store)).2.read path = .ok content :=
  read_deliverOn ((spares_keepIn directory key output store).read_eq_ok beside read) other

/-- What was kept of an output can still be read after it was delivered. -/
theorem read_entryPath_delivered {out : Option String} {key : Digest}
    (writable : directory.Writable key (Cache.Entry.written ⟨toolVersion, key, output⟩) store)
    (beside : ∀ path ∈ out, Path.Beside directory.path path) :
    (deliverOn out output (keepIn (some directory) key output store)).2.read
      (directory.entryPath key) = .ok (Cache.Entry.written ⟨toolVersion, key, output⟩) := by
  have kept : (keepIn (some directory) key output store).read (directory.entryPath key) =
      .ok (Cache.Entry.written ⟨toolVersion, key, output⟩) :=
    Cache.Directory.Writable.read_storeOn writable
  refine read_deliverOn kept fun path named => ?_
  rw [Cache.Directory.place_entryPath]
  exact Cache.Directory.place_ne_location (beside path named) key

/-! ## The next run -/

theorem runOn_of_opens (understood : understand again = .ok (others, .generate manifest))
    (used : others.cache = some directory) (read : store.readText manifest = .ok source)
    {key : Digest} (sameKey : others.key source = key) {content : Bytes}
    (stored : store.read (directory.entryPath key) = .ok content)
    (opens : Cache.Entry.Opens ⟨toolVersion, key, output⟩ content) :
    Utterance.event (Log.hit key) ∈ (runOn again store).1.said ∧
      (CanWrite others.out output store →
        Delivered others.out output (runOn again store).1 (runOn again store).2) := by
  subst sameKey
  have found : outputIn others.cache (others.key source) store = some output :=
    outputIn_eq_some_iff.2 ⟨directory, used, content, stored, opens⟩
  rw [runOn_of_understand understood, performOn_generate_of_hit read found]
  exact ⟨List.mem_cons_self, fun writable => (delivered_deliverOn writable).after _⟩

/-! ## Both -/

/-- A run of the generator whose file in the cache does not begin with the entry that it looks for
delivers the output of its manifest if the output file can be written, whatever comes of keeping it in the
cache.  If the file in the cache can be written, too, it is afterwards the entry of that output and nothing
else, and the next run with the manifest and the format takes the same output from there.  Only an output
of 2^32 bytes or more has no entry.  The manifest itself is not touched unless it is the output file. -/
theorem damage_heals (understood : understand arguments = .ok (options, .generate manifest))
    (used : options.cache = some directory) (read : store.readText manifest = .ok source)
    (parsed : Manifest.parse source = .ok declared) (compiled : declared.compile = .ok atoms)
    (misses : options.Misses source store)
    (beside : ∀ path ∈ options.out, Path.Beside directory.path path) :
    let after := (runOn arguments store).2
    (CanWrite options.out (options.format.render atoms) store →
      Delivered options.out (options.format.render atoms) (runOn arguments store).1 after) ∧
    (∀ content, (options.entry source atoms).encode = .ok content →
      directory.Writable (options.key source) content store →
        after.read (directory.entryPath (options.key source)) = .ok content ∧
        ∀ again others next, understand again = .ok (others, .generate next) →
          others.cache = some directory → others.format = options.format →
          after.readText next = .ok source →
          Utterance.event (Log.hit (options.key source)) ∈ (runOn again after).1.said ∧
          (CanWrite others.out (options.format.render atoms) after →
            Delivered others.out (options.format.render atoms) (runOn again after).1
              (runOn again after).2)) ∧
    (Path.Beside directory.path manifest →
      (∀ path ∈ options.out, Path.place path ≠ Path.place manifest) →
      after.readText manifest = .ok source) := by
  obtain ⟨events, run⟩ := performOn_generate_of_compile read parsed compiled misses
  rw [used] at run
  rw [runOn_of_understand understood, run]
  intro after
  refine ⟨fun writable => ?_, fun content encoded writable => ?_, fun besideManifest other => ?_⟩
  · exact (delivered_deliverOn (writable.keepIn beside _ _)).after events
  · have written : (options.entry source atoms).written = content := by
      rw [Cache.Entry.written, encoded]
    subst written
    have stored := read_entryPath_delivered writable beside
    have opens := Cache.Entry.opens_written encoded
    refine ⟨stored, ?_⟩
    intro again others next understoodNext usedNext sameFormat readNext
    have sameKey : others.key source = options.key source := by
      rw [Options.key, Options.key, sameFormat]
    exact runOn_of_opens understoodNext usedNext readNext sameKey stored opens
  · rw [Store.readText_eq_ok_iff] at read ⊢
    exact read_delivered read besideManifest other _ _

/-! ## A file of zeros -/

def zeroedKey : Digest :=
  (sharedOptions .json true).key sharedSource

def zeroedEntry : Cache.Entry :=
  (sharedOptions .json true).entry sharedSource sharedAtoms

/-- The manifest of `sharedScene`, with a file in the cache that is longer than the entry. -/
def zeroedScene (barriers : Location → Option Barrier) : Store :=
  ⟨[(["cache"], .directory),
    (Cache.Directory.location ⟨"cache"⟩ zeroedKey, .file (List.replicate 1000 0)),
    (["atoms.json"], .file (Text.utf8 sharedSource))], barriers⟩

section Zeroed

variable (barriers : Location → Option Barrier)

theorem node?_zeroedScene :
    (zeroedScene barriers).node? (Cache.Directory.location ⟨"cache"⟩ zeroedKey) =
      some (.file (List.replicate 1000 0)) :=
  Cache.Directory.node?_location ⟨"cache"⟩ zeroedKey _ [_] barriers

theorem misses_zeroedScene :
    (sharedOptions .json true).Misses sharedSource (zeroedScene barriers) := by
  rintro directory ⟨⟩ content output read opens
  obtain ⟨-, -, stands⟩ := Cache.Directory.read_entryPath_eq_ok_iff.1 read
  cases stands.symm.trans (node?_zeroedScene barriers)
  obtain ⟨behind, zeros⟩ := opens.leads
  -- An entry does not begin with a zero.
  have first : some (0x41 : UInt8) = some 0 := congrArg List.head? zeros
  exact absurd first (by decide)

theorem canWrite_zeroedScene (unbarred : barriers ["out.txt"] = none) (output : String) :
    CanWrite (sharedOptions .json true).out output (zeroedScene barriers) := by
  rintro path ⟨⟩
  have barrier : (zeroedScene barriers).barrier? ["out.txt"] = none := by
    rw [barrier?, if_neg (by decide)]
    exact unbarred
  have openable : (zeroedScene barriers).closed? ["out.txt"] = none := by rw [closed?, barrier]
  have found : (zeroedScene barriers).destination "out.txt" = .ok ["out.txt"] :=
    opened_eq_ok_iff.2 ⟨rfl, openable⟩
  rw [write_of_destination found, fill_of_free barrier]

end Zeroed

theorem writable_zeroedScene (content : Bytes) :
    Cache.Directory.Writable ⟨"cache"⟩ zeroedKey content (zeroedScene fun _ => none) := by
  have leads : (zeroedScene fun _ => none).Leads "cache" := by
    show (zeroedScene fun _ => none).walk _ _ = _
    rfl
  have sound := Cache.Directory.fault?_entryPath ⟨"cache"⟩ (by decide) (by decide) zeroedKey
  have free : (zeroedScene fun _ => none).node? (Cache.Directory.location ⟨"cache"⟩ zeroedKey) ≠
      some .directory := by
    rw [node?_zeroedScene]
    exact nofun
  have left := Cache.Directory.leaveOn_of_free leads sound free rfl content
  exact Cache.Directory.leaveOn_eq_ok_iff.1 (congrArg Prod.fst left)

/-- `zeroedScene`, where the file in the cache must not be written. -/
def refusedScene : Store :=
  (zeroedScene fun _ => none).bar (Cache.Directory.location ⟨"cache"⟩ zeroedEntry.key) (.closed .refused)

/-- Nothing is left of the zeros behind the entry, and the next run takes its output from there.  When
the zeros must not be written over, the output is delivered nevertheless. -/
theorem damage_heals_zeroed :
    let after := (runOn (sharedRun .json true) (zeroedScene fun _ => none)).2
    after.read "out.txt" = .ok (Text.utf8 (GeneratedTable.render sharedAtoms)) ∧
      after.read (Cache.Directory.entryPath ⟨"cache"⟩ zeroedKey) = .ok zeroedEntry.written ∧
      zeroedEntry.written.length < 1000 ∧
      Utterance.event (Log.hit zeroedKey) ∈ (runOn (sharedRun .json false) after).1.said ∧
      (runOn (sharedRun .json false) after).1.standardOutput = GeneratedTable.render sharedAtoms ∧
      (∃ cause, (Cache.Directory.storeOn ⟨"cache"⟩ zeroedEntry refusedScene).1 = .error cause) ∧
      (runOn (sharedRun .json true) refusedScene).1.status = 0 ∧
      (runOn (sharedRun .json true) refusedScene).2.read "out.txt" =
        .ok (Text.utf8 (GeneratedTable.render sharedAtoms)) := by
  intro after
  have beside : ∀ path ∈ (sharedOptions .json true).out, Path.Beside "cache" path := by
    rintro path ⟨⟩
    decide
  obtain ⟨delivers, heals, keeps⟩ := damage_heals (understand_sharedRun .json true) rfl
    (readText_eq_ok_iff.2 rfl) parse_sharedSource compile_sharedManifest
    (misses_zeroedScene fun _ => none) beside
  have short : (Text.utf8 zeroedEntry.output).length < 900 := by decide +kernel
  have version : (Text.utf8 zeroedEntry.tool).length = 5 := by decide
  have encoded : zeroedEntry.encode = .ok zeroedEntry.written :=
    Cache.Entry.encode_of_short _ (by omega) (by omega)
  have length : zeroedEntry.written.length < 1000 := by
    rw [Cache.Entry.length_of_encode encoded]
    omega
  have manifest : after.readText "atoms.json" = .ok sharedSource := by
    refine keeps (by decide) ?_
    rintro path ⟨⟩
    decide
  obtain ⟨stored, next⟩ := heals _ encoded (writable_zeroedScene _)
  obtain ⟨hit, delivered⟩ := next _ _ _ (understand_sharedRun .json false) rfl rfl manifest
  have printed := delivered (by rintro path ⟨⟩)
  -- The barrier is at the file in the cache only.
  obtain ⟨failure, stopped, failed, -⟩ := Cache.Directory.storeOn_of_closed
    ((zeroedScene fun _ => none).barriers_bar
      (Cache.Directory.location ⟨"cache"⟩ zeroedEntry.key) (.closed .refused))
  have misses : (sharedOptions .json true).Misses sharedSource refusedScene :=
    misses_zeroedScene refusedScene.barriers
  have unbarred : refusedScene.barriers ["out.txt"] = none :=
    barriers_bar_of_ne (Cache.Directory.place_ne_location (beside _ rfl) zeroedEntry.key) _ _
  obtain ⟨deliversStill, -⟩ := damage_heals (understand_sharedRun .json true) rfl
    (readText_eq_ok_iff.2 rfl) parse_sharedSource compile_sharedManifest misses beside
  obtain ⟨status, -, -, file⟩ := deliversStill (canWrite_zeroedScene _ unbarred _)
  exact ⟨(delivers (canWrite_zeroedScene _ rfl _)).file _ rfl (by decide), stored, length, hit,
    printed.standardOutput, ⟨failure, congrArg Prod.fst failed⟩, status,
    file _ rfl (by decide)⟩

end StaticAtoms
