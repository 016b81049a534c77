import StaticAtoms.Proofs.Cache.Transparency
import StaticAtoms.Proofs.Command.Delivering
import StaticAtoms.Proofs.Manifest.Faults

/-!
# Runs of the generator that fail

Without a hit in the cache, a run fails for two reasons: its manifest is `Rejected`, or its output is
`Undelivered`.  In the first case nothing has been written, and in the second nothing but the cache entry
and, if it could be opened, a part of the output file: `failing_keeps_files`.  Then the old content of that
file is lost, and a warning about a damaged cache entry stands in front of the error:
`failing_loses_output`.
-/

namespace StaticAtoms

open Store

variable {options : Options} {manifest source output path : String} {store : Store}
  {lines : List String} {cause : FileError}

/-! ## Rejected manifests -/

/-- The line about a file that cannot be read or written. -/
def FileError.errorLine (path : String) (cause : FileError) : String :=
  StaticAtoms.errorLine "E008" s!"{path}: {cause.message}" none

/-- The lines about a manifest that cannot be read, does not have the right form, or does not
validate. -/
inductive Rejected (manifest : String) (store : Store) : List String → Prop
  | unread {cause : FileError} (failed : store.readText manifest = .error cause) :
      Rejected manifest store [cause.errorLine manifest]
  | unparsed {source : String} {cause : Json.Error} (read : store.readText manifest = .ok source)
      (wrong : Manifest.parse source = .error (.invalidManifest cause)) :
      Rejected manifest store [errorLine "E001"
        s!"invalid manifest at line {cause.line} column {cause.column}: {cause.message}"
        (some "expected \x7b\"atoms\": [\x7b\"ident\": \"...\", \"string\": \"...\"\x7d, ...]\x7d")]
  | invalid {source : String} {declared : Manifest} (read : store.readText manifest = .ok source)
      (parsed : Manifest.parse source = .ok declared) (wrong : ¬ declared.Sound) :
      Rejected manifest store (declared.faultTexts.map fun texts =>
        errorLine texts.1 texts.2.1 texts.2.2)

/-- What is told of the file that a run looks into in its cache. -/
def Options.warnings (options : Options) (manifest : String) (store : Store) : List Log.Event :=
  match store.readText manifest with
  | .error _ => []
  | .ok source => noticedIn options.cache (options.key source) store

theorem Manifest.exists_of_parse_eq_error {problem : Problem}
    (failed : parse source = .error problem) : ∃ cause, problem = .invalidManifest cause := by
  rw [parse] at failed
  split at failed
  · cases failed
  · cases failed
    exact ⟨_, rfl⟩

theorem map_display_diagnostic (problems : List Problem) :
    problems.map (fun problem => problem.diagnostic.display) =
      (problems.map Problem.texts).map fun texts => errorLine texts.1 texts.2.1 texts.2.2 := by
  simp only [Diagnostic.display_eq, List.map_map]
  rfl

/-- A manifest is rejected with the lines about the problems that compiling it comes to. -/
theorem rejected_iff (read : store.readText manifest = .ok source) :
    Rejected manifest store lines ↔ ∃ problems, compileSource source = .error problems ∧
      lines = problems.map fun problem => problem.diagnostic.display := by
  -- Compiling fails at the parser, with one problem, or at the declarations, with all of theirs.
  constructor
  · intro rejected
    cases rejected with
    | unread failed => cases read.symm.trans failed
    | unparsed again wrong =>
      cases read.symm.trans again
      refine ⟨_, by rw [compileSource, wrong], ?_⟩
      rw [map_display_diagnostic]
      rfl
    | @invalid _ declared again parsed wrong =>
      cases read.symm.trans again
      refine ⟨declared.problems, ?_, ?_⟩
      · rw [compileSource, parsed]
        exact Manifest.compile_eq_error_iff.2 ⟨mt Manifest.problems_eq_nil_iff_sound.1 wrong, rfl⟩
      · rw [map_display_diagnostic, declared.problems_eq_faults, declared.texts_faults]
  · rintro ⟨problems, failed, rfl⟩
    rw [compileSource] at failed
    split at failed
    next wrong =>
      cases failed
      obtain ⟨cause, rfl⟩ := Manifest.exists_of_parse_eq_error wrong
      rw [map_display_diagnostic]
      exact .unparsed read wrong
    next declared parsed =>
      obtain ⟨wrong, rfl⟩ := Manifest.compile_eq_error_iff.1 failed
      rw [map_display_diagnostic, declared.problems_eq_faults, declared.texts_faults]
      exact .invalid read parsed (mt Manifest.problems_eq_nil_iff_sound.2 wrong)

/-- A run with a manifest that is rejected warns and says why, and leaves everything as it was. -/
theorem performOn_of_rejected (rejected : Rejected manifest store lines)
    (misses : ∀ source, store.readText manifest = .ok source → options.Misses source store) :
    performOn options (.generate manifest) store =
      ((Outcome.complain lines).after (options.warnings manifest store), store) := by
  cases read : store.readText manifest with
  | error cause =>
    rw [performOn_generate_of_error read, Options.warnings, read]
    cases rejected with
    | unread failed =>
      cases read.symm.trans failed
      rfl
    | unparsed other => cases read.symm.trans other
    | invalid other => cases read.symm.trans other
  | ok source =>
    obtain ⟨problems, failed, rfl⟩ := (rejected_iff read).1 rejected
    have wrong : (produce source options.format).2 = .error problems :=
      produce_eq_error_iff.2 failed
    obtain ⟨found, again, said, same⟩ | ⟨output, events, made, -⟩ :=
      (performOn_generate read options).cases_of_misses (misses source read)
    · cases wrong.symm.trans again
      rw [Options.warnings, read]
      exact Prod.ext said same
    · cases wrong.symm.trans made

/-! ## Undelivered outputs -/

/-- Whether a manifest is good, and its output cannot be written into the output file, although it may
have been kept in the cache. -/
structure Undelivered (options : Options) (manifest : String) (store : Store)
    (source output path : String) (cause : FileError) : Prop where
  read : store.readText manifest = .ok source
  out : options.out = some path
  makes : ∃ declared atoms, Manifest.parse source = .ok declared ∧ declared.compile = .ok atoms ∧
    output = options.format.render atoms
  fails : ((keepIn options.cache (options.key source) output store).write path
    (Text.utf8 output)).2 = .error cause

theorem performOn_of_undelivered
    (undelivered : Undelivered options manifest store source output path cause)
    (misses : options.Misses source store) :
    ∃ events, performOn options (.generate manifest) store =
      ((Outcome.complain [cause.errorLine path]).after events,
        ((keepIn options.cache (options.key source) output store).write path
          (Text.utf8 output)).1) := by
  obtain ⟨read, out, ⟨declared, atoms, parsed, compiled, rfl⟩, failed⟩ := undelivered
  obtain ⟨events, run⟩ := performOn_generate_of_compile read parsed compiled misses
  rw [out, deliverOn_of_error failed] at run
  exact ⟨events, run⟩

/-- A file that cannot be opened for writing is not changed. -/
theorem write_of_unopened {content : Bytes} (unopened : store.destination path = .error cause) :
    store.write path content = (store, .error cause) := by
  rw [Store.write, unopened]

/-- A file that could be opened and does not take all of a content has a proper part of it. -/
theorem read_write_of_error {content : Bytes} {location : Location}
    (failed : (store.write path content).2 = .error cause)
    (opened : store.destination path = .ok location) (unfixed : fixed? (Path.place path) = none) :
    ∃ part, part <+: content ∧ part ≠ content ∧ (store.write path content).1.read path = .ok part := by
  obtain ⟨part, begins, put, whole⟩ := store.fill_eq_put location content
  obtain ⟨rfl, -⟩ := eq_place_of_destination opened
  rw [write_of_destination opened] at failed ⊢
  refine ⟨part, begins, fun same => ?_, ?_⟩
  · cases failed.symm.trans (whole.2 same)
  · rw [put]
    exact read_put opened unfixed

/-! ## Failing runs -/

/-- There is no other reason for a run to fail when it does not find its output in the cache. -/
theorem rejected_or_undelivered
    (misses : ∀ source, store.readText manifest = .ok source → options.Misses source store)
    (failed : (performOn options (.generate manifest) store).1.status ≠ 0) :
    (∃ lines, Rejected manifest store lines) ∨
      ∃ source output path cause, Undelivered options manifest store source output path cause := by
  cases read : store.readText manifest with
  | error cause => exact .inl ⟨_, .unread read⟩
  | ok source =>
    cases compiled : compileSource source with
    | error problems => exact .inl ⟨_, (rejected_iff read).2 ⟨problems, compiled, rfl⟩⟩
    | ok atoms =>
      -- The output was made, so that only delivering it can have failed.
      obtain ⟨declared, parsed, compiled⟩ := compileSource_eq_ok_iff.1 compiled
      obtain ⟨events, run⟩ :=
        performOn_generate_of_compile read parsed compiled (misses source read)
      rw [run, Outcome.status_after] at failed
      obtain ⟨path, cause, out, fails⟩ := exists_of_status_deliverOn failed
      exact .inr ⟨source, _, path, cause, read, out, ⟨declared, atoms, parsed, compiled, rfl⟩, fails⟩

/-- A run that does not find its output in the cache fails if its manifest is rejected or its output is
undelivered, and for no other reason.

* In the first case it says the lines about the manifest, behind what is told of a damaged cache entry,
  and leaves everything as it was.
* In the second it says the line about the output file, behind events, and changes no file but the cache
  entry and the output file.  If the output file could not be opened, it is as it was.  Otherwise it has
  what was written of the output, which is not all of it. -/
theorem failing_keeps_files {arguments : List String}
    (understood : understand arguments = .ok (options, .generate manifest))
    (misses : ∀ source, store.readText manifest = .ok source → options.Misses source store) :
    (∀ lines, Rejected manifest store lines →
      (runOn arguments store).1.Reports lines ∧
      (runOn arguments store).1.said =
        (options.warnings manifest store).map .event ++ lines.map .complaint ∧
      (runOn arguments store).2 = store) ∧
    (∀ source output path cause, Undelivered options manifest store source output path cause →
      let kept := keepIn options.cache (options.key source) output store
      let elsewhere (location : Location) : Prop :=
        ∀ directory ∈ options.cache, location ≠ directory.location (options.key source)
      let same (location : Location) : Prop :=
        ∀ content, (runOn arguments store).2.node? location = some (.file content) ↔
          store.node? location = some (.file content)
      (runOn arguments store).1.Reports [s!"error[E008]: {path}: {cause.message}"] ∧
      (∀ location, elsewhere location → location ≠ Path.place path → same location) ∧
      (∀ failure, kept.destination path = .error failure →
        ∀ location, elsewhere location → same location) ∧
      ∀ location, kept.destination path = .ok location → fixed? (Path.place path) = none →
        ∃ part, part <+: Text.utf8 output ∧ part ≠ Text.utf8 output ∧
          (runOn arguments store).2.read path = .ok part) ∧
    ((runOn arguments store).1.status ≠ 0 →
      (∃ lines, Rejected manifest store lines) ∨
      ∃ source output path cause, Undelivered options manifest store source output path cause) := by
  rw [runOn_of_understand understood]
  refine ⟨fun lines rejected => ?_, ?_, rejected_or_undelivered misses⟩
  · rw [performOn_of_rejected rejected misses]
    exact ⟨(Outcome.reports_complain lines).after _, rfl, rfl⟩
  · intro source output path cause undelivered kept elsewhere same
    obtain ⟨events, run⟩ := performOn_of_undelivered undelivered (misses source undelivered.read)
    have written : (performOn options (.generate manifest) store).2 =
        (kept.write path (Text.utf8 output)).1 := congrArg Prod.snd run
    -- Keeping the output changes nothing but the cache entry, so only the last write matters elsewhere.
    refine ⟨?_, fun location apart other content => ?_, fun failure unopened location apart content => ?_,
      fun location opened unfixed => ?_⟩
    · rw [run]
      exact (Outcome.reports_complain _).after events
    · rw [written, node?_write_of_ne other]
      exact file_keepIn_iff apart content
    · rw [written, write_of_unopened unopened]
      exact file_keepIn_iff apart content
    · rw [written]
      exact read_write_of_error undelivered.fails opened unfixed

/-- A working directory with an empty cache, a manifest, and something where the output file of
`sharedRun` is to be. -/
def failingScene (source : String) (out : Node) (barriers : Location → Option Barrier) : Store :=
  ⟨[(["cache"], .directory), (["out.txt"], out), (["atoms.json"], .file (Text.utf8 source))], barriers⟩

section Scenes

variable (source : String) (out : Node) (barriers : Location → Option Barrier)

theorem readText_failingScene : (failingScene source out barriers).readText "atoms.json" = .ok source :=
  readText_eq_ok_iff.2 rfl

theorem misses_failingScene (format : OutputFormat) (writes : Bool) (other : String) :
    (sharedOptions format writes).Misses other (failingScene source out barriers) := by
  intro directory used content output found
  cases used
  obtain ⟨-, -, stands⟩ := Cache.Directory.read_entryPath_eq_ok_iff.1 found
  -- There is nothing in the cache.
  obtain ⟨name, rest, inside, -⟩ := Cache.Directory.inside_location ⟨"cache"⟩
    ((sharedOptions format writes).key other)
  have place : Path.place "cache" = ["cache"] := by decide
  have empty := congrArg (failingScene source out barriers).node? (place ▸ inside)
  cases empty.symm.trans stands

end Scenes

/-- The device is full on which the output file is to be. -/
def fullScene : Store :=
  failingScene sharedSource (.file (Text.utf8 "old")) fun location =>
    if location = ["out.txt"] then some (.room 0 .noSpace) else none

theorem destination_fullScene : fullScene.destination "out.txt" = .ok ["out.txt"] := by
  have openable : fullScene.closed? ["out.txt"] = none := rfl
  exact opened_eq_ok_iff.2 ⟨rfl, openable⟩

/-- Writing into the output file empties it and fails, also when something was kept before. -/
theorem write_keepIn_fullScene (key : Digest) (kept : String) {content : Bytes}
    (filled : 0 < content.length) :
    (keepIn (some ⟨"cache"⟩) key kept fullScene).write "out.txt" content =
      ((keepIn (some ⟨"cache"⟩) key kept fullScene).put ["out.txt"] (.file []),
        .error .noSpace) := by
  have spares := spares_keepIn ⟨"cache"⟩ key kept fullScene
  have limited : (keepIn (some ⟨"cache"⟩) key kept fullScene).barrier? ["out.txt"] =
      some (.room 0 .noSpace) := by
    rw [barrier?_congr spares.barriers]
    rfl
  rw [write_of_destination (spares.destination_eq_ok (by decide) destination_fullScene),
    fill_of_room limited filled, List.take_zero]

theorem length_utf8_listing (atoms : List StaticAtom) :
    0 < (Text.utf8 (Listing.render atoms)).length := by
  have filled : Listing.render atoms ≠ "" := by
    rw [Ne, ← String.toList_inj, Listing.render, String.toList_ofList, Listing.lines,
      Listing.header, List.cons_append, List.flatMap_cons]
    simp only [List.append_assoc, List.append_eq_nil_iff, String.toList_empty,
      List.singleton_append, reduceCtorEq, and_false, not_false_eq_true]
  rw [Text.length_utf8]
  exact Nat.pos_of_ne_zero (mt String.utf8ByteSize_eq_zero_iff.1 filled)

theorem undelivered_fullScene :
    Undelivered (sharedOptions .listing true) "atoms.json" fullScene sharedSource
      (Listing.render sharedAtoms) "out.txt" .noSpace where
  read := readText_failingScene _ _ _
  out := rfl
  makes := ⟨_, _, parse_sharedSource, compile_sharedManifest, rfl⟩
  fails := congrArg Prod.snd (write_keepIn_fullScene _ _ (length_utf8_listing _))

def blockedScene : Store :=
  failingScene sharedSource .directory fun _ => none

theorem undelivered_blockedScene :
    Undelivered (sharedOptions .json true) "atoms.json" blockedScene sharedSource
      (GeneratedTable.render sharedAtoms) "out.txt" .isDirectory where
  read := readText_failingScene _ _ _
  out := rfl
  makes := ⟨_, _, parse_sharedSource, compile_sharedManifest, rfl⟩
  fails := by
    have leads : blockedScene.Leads "out.txt" := by
      show blockedScene.walk _ _ = _
      rfl
    -- The directory is still there after the output was kept.
    have kept := (spares_keepIn ⟨"cache"⟩ ((sharedOptions .json true).key sharedSource)
      (GeneratedTable.render sharedAtoms) blockedScene).directories
    have unopened := destination_of_leads (leads.mono kept) (by decide) (by decide) (by decide)
    exact congrArg Prod.snd (write_of_unopened unopened)

def repeatingManifest : Manifest :=
  ⟨[⟨"1st", "a"⟩, ⟨"second", "a"⟩]⟩

def repeatingSource : String :=
  "\x7b\"atoms\": [\x7b\"ident\": \"1st\", \"string\": \"a\"\x7d, "
    ++ "\x7b\"ident\": \"second\", \"string\": \"a\"\x7d]\x7d"

theorem parse_repeatingSource : Manifest.parse repeatingSource = .ok repeatingManifest :=
  Cache.Directory.toOption_eq_some_iff.1 (by decide +kernel)

def repeatingScene : Store :=
  failingScene repeatingSource (.file []) fun _ => none

def repeatingLines : List String :=
  ["error[E004]: `1st` is not a valid atom identifier\n"
      ++ "  hint: identifiers match [A-Za-z_][A-Za-z0-9_]*",
    "error[E003]: string \"a\" of `second` is already declared by `1st`\n"
      ++ "  hint: static atoms must have unique strings"]

theorem rejected_repeatingScene : Rejected "atoms.json" repeatingScene repeatingLines := by
  have unsound : ¬ repeatingManifest.Sound := by
    rw [← Manifest.problems_eq_nil_iff_sound]
    decide
  have rejected := Rejected.invalid (readText_failingScene repeatingSource (.file []) fun _ => none)
    parse_repeatingSource unsound
  rw [← Manifest.texts_faults, ← Manifest.problems_eq_faults] at rejected
  have lines : ((repeatingManifest.problems.map Problem.texts).map fun texts =>
      errorLine texts.1 texts.2.1 texts.2.2) = repeatingLines := by decide +kernel
  rw [lines] at rejected
  exact rejected

/-- The output file is a directory in one run, and does not take anything in another.  In the third the
manifest has two faults. -/
theorem failing_keeps_files_blocked :
    ((runOn (sharedRun .json true) blockedScene).1.errorLines =
        ["error[E008]: out.txt: Is a directory (os error 21)"] ∧
      (runOn (sharedRun .json true) blockedScene).2.node? ["atoms.json"] =
        some (.file (Text.utf8 sharedSource))) ∧
    (∃ part, part <+: Text.utf8 (Listing.render sharedAtoms) ∧
      (runOn (sharedRun .listing true) fullScene).2.read "out.txt" = .ok part) ∧
    (runOn (sharedRun .listing true) repeatingScene).1.Reports repeatingLines ∧
    (runOn (sharedRun .listing true) repeatingScene).2 = repeatingScene := by
  obtain ⟨-, blocked, -⟩ := failing_keeps_files (understand_sharedRun .json true)
    fun source _ => misses_failingScene sharedSource .directory (fun _ => none) .json true source
  have misses (source : String) (_ : fullScene.readText "atoms.json" = .ok source) :
      (sharedOptions .listing true).Misses source fullScene :=
    misses_failingScene _ _ _ .listing true source
  obtain ⟨-, full, -⟩ := failing_keeps_files (understand_sharedRun .listing true) misses
  obtain ⟨rejects, -, -⟩ := failing_keeps_files (understand_sharedRun .listing true)
    fun source _ => misses_failingScene repeatingSource (.file []) (fun _ => none) .listing true source
  obtain ⟨reports, files, -⟩ := blocked _ _ _ _ undelivered_blockedScene
  have beside : Path.Beside "cache" "atoms.json" := by decide
  have elsewhere : ∀ directory ∈ (sharedOptions .json true).cache,
      ["atoms.json"] ≠ directory.location ((sharedOptions .json true).key sharedSource) := by
    rintro directory ⟨⟩
    exact Cache.Directory.place_ne_location beside _
  obtain ⟨-, -, -, parts⟩ := full _ _ _ _ undelivered_fullScene
  have spares := spares_keepIn ⟨"cache"⟩ ((sharedOptions .listing true).key sharedSource)
    (Listing.render sharedAtoms) fullScene
  have opened := spares.destination_eq_ok (by decide) destination_fullScene
  obtain ⟨part, begins, -, left⟩ := parts _ opened rfl
  obtain ⟨rejected, -, same⟩ := rejects _ rejected_repeatingScene
  exact ⟨⟨reports.errorLines, (files _ elsewhere (by decide) _).2 rfl⟩, ⟨part, begins, left⟩,
    rejected, same⟩

/-- The file of the run's key in the cache is no cache entry, and the manifest is no manifest. -/
def damagedScene : Store :=
  .ofNodes [(["cache"], .directory),
    (Cache.Directory.location ⟨"cache"⟩ ((sharedOptions .listing false).key "x"),
      .file (Text.utf8 "damaged")),
    (["atoms.json"], .file (Text.utf8 "x"))]

theorem read_damagedScene :
    damagedScene.read (Cache.Directory.entryPath ⟨"cache"⟩ ((sharedOptions .listing false).key "x")) =
      .ok (Text.utf8 "damaged") := by
  have leads : damagedScene.Leads "cache" := by
    show damagedScene.walk _ _ = _
    rfl
  have sound := Cache.Directory.fault?_entryPath ⟨"cache"⟩ (by decide) (by decide)
    ((sharedOptions .listing false).key "x")
  exact Cache.Directory.read_entryPath_eq_ok_iff.2 ⟨leads, sound,
    Cache.Directory.node?_location ⟨"cache"⟩ _ _ [_] fun _ => none⟩

theorem entryPath_damagedScene :
    Cache.Directory.entryPath ⟨"cache"⟩ ((sharedOptions .listing false).key "x") =
      "cache/dc08be9ab1c38adc0cdb9ef41ce3a66eb8dbbb5aac57c607cf8d10c4111aa3a3.atc" := by
  decide +kernel

theorem load_damaged (key : Digest) (tool : String) :
    Cache.Entry.load (Text.utf8 "damaged") key tool = .error .notAnEntry := by
  have header : Cache.Header.read (Text.utf8 "damaged") = .error .notAnEntry := by rfl
  rw [Cache.Entry.load, header]

theorem misses_damagedScene : (sharedOptions .listing false).Misses "x" damagedScene := by
  rintro directory ⟨⟩ content output read opens
  cases read_damagedScene.symm.trans read
  cases (load_damaged _ _).symm.trans (Cache.Entry.load_eq_ok_iff.2 opens)

theorem parse_damaged : Manifest.parse "x" = .error (.invalidManifest ⟨.notAValue, 1, 1⟩) := by
  rfl

theorem warnings_damagedScene :
    (sharedOptions .listing false).warnings "atoms.json" damagedScene =
      Cache.Miss.notAnEntry.events
        "cache/dc08be9ab1c38adc0cdb9ef41ce3a66eb8dbbb5aac57c607cf8d10c4111aa3a3.atc" := by
  rw [← entryPath_damagedScene]
  have read : damagedScene.readText "atoms.json" = .ok "x" := readText_eq_ok_iff.2 rfl
  rw [Options.warnings, read]
  exact (List.flatMap_singleton _ _).trans
    (Cache.Directory.noticed_of_read read_damagedScene (load_damaged _ _))

def rejectedOutput : String :=
  "error[E001]: invalid manifest at line 1 column 1: expected value at line 1 column 1\n"
    ++ "  hint: expected \x7b\"atoms\": [\x7b\"ident\": \"...\", \"string\": \"...\"\x7d, ...]\x7d\n"

theorem rejected_damagedScene :
    ∃ lines, Rejected "atoms.json" damagedScene lines ∧ unlines lines = rejectedOutput :=
  ⟨_, .unparsed (readText_eq_ok_iff.2 rfl) parse_damaged, by decide +kernel⟩

/-- On a full device the old content of the output file is lost before the run fails.  And what is wrong
with a manifest is not all that is on the error output when the cache entry is damaged: the default filter
shows the warning. -/
theorem failing_loses_output :
    ((sharedOptions .listing true).Misses sharedSource fullScene ∧
      fullScene.read "out.txt" = .ok (Text.utf8 "old") ∧
      (runOn (sharedRun .listing true) fullScene).1.errorLines =
        ["error[E008]: out.txt: No space left on device (os error 28)"] ∧
      (runOn (sharedRun .listing true) fullScene).2.read "out.txt" = .ok []) ∧
    (sharedOptions .listing false).Misses "x" damagedScene ∧
      (runOn (sharedRun .listing false) damagedScene).1.errorOutput (.choose none false) =
        " WARN atomtab::manifest::cache: ignoring cache/"
          ++ "dc08be9ab1c38adc0cdb9ef41ce3a66eb8dbbb5aac57c607cf8d10c4111aa3a3.atc"
          ++ ": not an atomtab cache file\n" ++ rejectedOutput := by
  refine ⟨⟨misses_failingScene _ _ _ .listing true _, rfl, ?_⟩, misses_damagedScene, ?_⟩
  · obtain ⟨events, run⟩ := performOn_of_undelivered undelivered_fullScene
      (misses_failingScene _ _ _ .listing true _)
    have cache : (sharedOptions .listing true).cache = some ⟨"cache"⟩ := rfl
    rw [cache, write_keepIn_fullScene _ _ (length_utf8_listing _)] at run
    rw [runOn_of_understand (understand_sharedRun .listing true), run]
    have spares := spares_keepIn ⟨"cache"⟩ ((sharedOptions .listing true).key sharedSource)
      (Listing.render sharedAtoms) fullScene
    exact ⟨(Outcome.errorLines_after _ _).trans (Outcome.errorLines_complain _),
      read_put (spares.destination_eq_ok (by decide) destination_fullScene) rfl⟩
  · obtain ⟨lines, rejected, output⟩ := rejected_damagedScene
    have misses (source : String) (read : damagedScene.readText "atoms.json" = .ok source) :
        (sharedOptions .listing false).Misses source damagedScene := by
      have same : damagedScene.readText "atoms.json" = .ok "x" := readText_eq_ok_iff.2 rfl
      cases same.symm.trans read
      exact misses_damagedScene
    rw [runOn_of_understand (understand_sharedRun .listing false),
      performOn_of_rejected rejected misses, Outcome.errorOutput_after, Outcome.errorOutput_complain,
      output, warnings_damagedScene]
    exact congrArg (· ++ rejectedOutput) (by decide +kernel)

end StaticAtoms
