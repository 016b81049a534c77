import StaticAtoms.Proofs.Command.Generating
import StaticAtoms.Proofs.Command.Options

/-!
# The cache does not show

Runs of the generator that share a cache directory say and write the same as without the cache.  A hit
skips reading and checking the manifest, so everything in the directory has to be the output of some
manifest that can be read and checked: `Trusted` is the invariant, `SharedCache.trusted` shows it for
all histories of the directory, and `sharedCache_transparent` is the main statement.
-/

namespace StaticAtoms

open Store

variable {place : Location} {store : Store} {options : Options} {inputs : List Bytes}

/-! ## Trust -/

/-- Whatever a file yields is the output of a manifest whose key is made from some of the given
bytes. -/
def Genuine (inputs : List Bytes) (content : Bytes) : Prop :=
  ∀ key output, Cache.Entry.load content key toolVersion = .ok output →
    ∃ source format, Cache.keyInput (Text.utf8 source) format toolVersion ∈ inputs ∧
      key = Cache.key (Text.utf8 source) format toolVersion ∧
      (produce source format).2 = .ok output

def Trusted (place : Location) (inputs : List Bytes) (store : Store) : Prop :=
  ∀ location content, Inside place location → store.node? location = some (.file content) →
    Genuine inputs content

theorem Genuine.mono {inputs others : List Bytes} {content : Bytes} (genuine : Genuine inputs content)
    (more : inputs ⊆ others) : Genuine others content := by
  intro key output loaded
  obtain ⟨source, format, member, made⟩ := genuine key output loaded
  exact ⟨source, format, more member, made⟩

theorem genuine_written {source output : String} {format : OutputFormat}
    (made : (produce source format).2 = .ok output)
    (member : Cache.keyInput (Text.utf8 source) format toolVersion ∈ inputs) :
    Genuine inputs
      (Cache.Entry.written ⟨toolVersion, Cache.key (Text.utf8 source) format toolVersion, output⟩) := by
  intro key other loaded
  obtain ⟨same, -⟩ := Cache.Entry.opens_written_iff.1 (Cache.Entry.load_eq_ok_iff.1 loaded)
  cases same
  exact ⟨source, format, member, rfl, made⟩

/-- A part of what is written of an entry yields nothing, and so does no harm. -/
theorem genuine_part {source output : String} {format : OutputFormat} {part : Bytes}
    (made : (produce source format).2 = .ok output)
    (member : Cache.keyInput (Text.utf8 source) format toolVersion ∈ inputs)
    (begins : part <+:
      Cache.Entry.written ⟨toolVersion, Cache.key (Text.utf8 source) format toolVersion, output⟩) :
    Genuine inputs part := by
  by_cases whole : part =
      Cache.Entry.written ⟨toolVersion, Cache.key (Text.utf8 source) format toolVersion, output⟩
  · rw [whole]
    exact genuine_written made member
  · intro key other loaded
    exact absurd (Cache.Entry.load_eq_ok_iff.1 loaded) (Cache.Entry.not_opens_part begins whole)

namespace Trusted

theorem mono {others : List Bytes} (trusted : Trusted place inputs store) (more : inputs ⊆ others) :
    Trusted place others store :=
  fun location content inside found => (trusted location content inside found).mono more

theorem congr {after : Store} (trusted : Trusted place inputs store)
    (same : ∀ location, Inside place location → after.node? location = store.node? location) :
    Trusted place inputs after := by
  intro location content inside found
  rw [same location inside] at found
  exact trusted location content inside found

theorem put {content : Bytes} (trusted : Trusted place inputs store)
    (genuine : Genuine inputs content) (location : Location) :
    Trusted place inputs (store.put location (.file content)) := by
  intro other found inside stands
  rw [node?_put] at stands
  split at stands
  next same =>
    subst same
    cases fixed : fixed? other with
    | none =>
      rw [fixed] at stands
      cases stands
      exact genuine
    | some node =>
      -- What is fixed stands there in every store.
      rw [fixed] at stands
      refine trusted other found inside ?_
      rw [node?, fixed]
      exact stands
  next => exact trusted other found inside stands

end Trusted

/-! ## Runs -/

/-- The options of a run that has its cache, if it uses one, in the directory at `place`, and its
output file elsewhere. -/
structure Shares (place : Location) (store : Store) (options : Options) : Prop where
  leads : options.noCache = false →
    store.walk (Path.start options.cacheDir) (Path.parts options.cacheDir) =
      .ok (.present place .directory)
  beside : ∀ path ∈ options.out, StaysOut place path

/-- The bytes whose hash is the key of a run, if it can read its manifest. -/
def keyInputs (options : Options) (manifest : String) (store : Store) : List Bytes :=
  match store.readText manifest with
  | .error _ => []
  | .ok source => [options.keyInput source]

/-- Whether none of the given bytes but the last has its hash. -/
def Separated (inputs : List Bytes) (input : Bytes) : Prop :=
  ∀ other ∈ inputs, Sha256.digest other = Sha256.digest input → other = input

theorem Shares.withoutCache (shares : Shares place store options) :
    Shares place store options.withoutCache :=
  ⟨nofun, shares.beside⟩

theorem Shares.eq_cacheDir (shares : Shares place store options) {directory : Cache.Directory}
    (used : options.cache = some directory) :
    store.walk (Path.start directory.path) (Path.parts directory.path) =
      .ok (.present place .directory) := by
  rw [Options.cache] at used
  split at used
  next => cases used
  next on =>
    cases used
    exact shares.leads (Bool.eq_false_iff.2 on)

/-- Keeping an output in a cache writes one file in its directory, or a part of it, or nothing. -/
theorem Shares.keepIn_cases (shares : Shares place store options) (key : Digest) (output : String) :
    keepIn options.cache key output store = store ∨
      ∃ name part, Path.IsName name ∧
        part <+: Cache.Entry.written ⟨toolVersion, key, output⟩ ∧
        keepIn options.cache key output store = store.put (place ++ [name]) (.file part) := by
  cases used : options.cache with
  | none => exact .inl rfl
  | some directory =>
    obtain same | ⟨part, begins, wrote⟩ :=
      Cache.Directory.store_run_of_walk (shares.eq_cacheDir used) ⟨toolVersion, key, output⟩
    · exact .inl same
    · exact .inr ⟨_, part, Cache.Directory.isName_entryName key, begins, wrote⟩

theorem Shares.agree_keepIn (shares : Shares place store options) (key : Digest) (output : String) :
    AgreeBeside place (keepIn options.cache key output store) store := by
  obtain same | ⟨name, part, proper, -, wrote⟩ := shares.keepIn_cases key output
  · rw [same]
    exact .refl place store
  · rw [wrote]
    exact .put_inside (inside_name proper) store _

theorem Trusted.keepIn (trusted : Trusted place inputs store) (shares : Shares place store options)
    {source output : String} (made : (produce source options.format).2 = .ok output)
    (member : options.keyInput source ∈ inputs) :
    Trusted place inputs (keepIn options.cache (options.key source) output store) := by
  obtain same | ⟨name, part, -, begins, wrote⟩ := shares.keepIn_cases (options.key source) output
  · rw [same]
    exact trusted
  · rw [wrote]
    exact trusted.put (genuine_part made member begins) _

/-- What a trusted cache has for a manifest is what would be made of it. -/
theorem Trusted.produce_of_hit (trusted : Trusted place inputs store)
    (shares : Shares place store options) {source output : String}
    (found : outputIn options.cache (options.key source) store = some output)
    (separated : Separated inputs (options.keyInput source)) :
    (produce source options.format).2 = .ok output := by
  cases used : options.cache with
  | none =>
    rw [used] at found
    cases found
  | some directory =>
    rw [used, outputIn, Option.bind_some, Cache.Directory.output?] at found
    split at found
    next => cases found
    next content read =>
      split at found
      next => cases found
      next loaded =>
      cases found
      have stands := node?_of_read_join (shares.eq_cacheDir used)
        (Cache.Directory.isName_entryName _) read
      -- The file says what key it is for, so it does not matter under which name it was kept.
      obtain ⟨origin, format, member, same, made⟩ :=
        trusted _ content (inside_name (Cache.Directory.isName_entryName _)) stands _ _ loaded
      obtain ⟨bytes, rfl⟩ := Cache.keyInput_inj.1 (separated _ member same.symm)
      rw [← Text.utf8_injective bytes]
      exact made

/-- What a run of the generator comes to, with any cache that is trusted: the problems of the manifest,
or its output, delivered to a store that differs in the cache only. -/
theorem Generates.cases_of_trusted {source : String} {outcome : Outcome} {after : Store}
    (run : Generates options source store outcome after) (trusted : Trusted place inputs store)
    (shares : Shares place store options)
    (separated : Separated inputs (options.keyInput source)) :
    (∃ problems events, (produce source options.format).2 = .error problems ∧
      outcome = (Outcome.failed problems).after events ∧ after = store) ∨
    ∃ output events kept, (produce source options.format).2 = .ok output ∧
      AgreeBeside place kept store ∧ outcome = (deliverOn options.out output kept).1.after events ∧
      after = (deliverOn options.out output kept).2 := by
  cases run with
  | hit events found =>
    exact .inr ⟨_, events, store, trusted.produce_of_hit shares found separated,
      .refl place store, rfl, rfl⟩
  | rejected events wrong => exact .inl ⟨_, events, wrong, rfl, rfl⟩
  | made events right keeps =>
    subst keeps
    exact .inr ⟨_, events, _, right, shares.agree_keepIn _ _, rfl, rfl⟩

/-- Runs with and without the cache differ in events and in the cache only. -/
theorem Generates.alike {source : String} {outcome fresh : Outcome} {after other : Store}
    (run : Generates options source store outcome after)
    (again : Generates options.withoutCache source store fresh other)
    (trusted : Trusted place inputs store) (shares : Shares place store options)
    (separated : Separated inputs (options.keyInput source)) :
    Outcome.Alike outcome fresh ∧ AgreeBeside place after other := by
  -- Both runs have the same manifest, so they come to the same problems or to the same output.
  obtain ⟨problems, events, wrong, rfl, rfl⟩ | ⟨output, events, kept, right, agree, rfl, rfl⟩ :=
    run.cases_of_trusted trusted shares separated
  · obtain ⟨others, events', wrong', rfl, rfl⟩ | ⟨_, _, _, right, -⟩ :=
      again.cases_of_trusted trusted shares.withoutCache separated
    · cases wrong.symm.trans wrong'
      exact ⟨Outcome.alike_after _ _ _, .refl place _⟩
    · cases wrong.symm.trans right
  · obtain ⟨_, _, wrong, -⟩ | ⟨output', events', kept', right', agree', rfl, rfl⟩ :=
      again.cases_of_trusted trusted shares.withoutCache separated
    · cases right.symm.trans wrong
    · cases right.symm.trans right'
      obtain ⟨same, beside⟩ := deliverOn_agree (agree.trans agree'.symm) shares.beside output
      refine ⟨?_, beside⟩
      rw [same]
      exact Outcome.alike_after _ _ _

theorem Generates.trusted {source : String} {outcome : Outcome} {after : Store}
    (run : Generates options source store outcome after) (trusted : Trusted place inputs store)
    (shares : Shares place store options)
    (member : options.keyInput source ∈ inputs) : Trusted place inputs after := by
  cases run with
  | hit => exact trusted.congr fun _ => node?_deliverOn shares.beside _ store
  | rejected => exact trusted
  | made _ right keeps =>
    subst keeps
    exact (trusted.keepIn shares right member).congr fun _ => node?_deliverOn shares.beside _ _

/-! ## Histories -/

/-- The stores, each with the bytes that keys were made from, to which runs of the generator lead that
share the cache directory at `place`.  Between the runs, anything may happen to files elsewhere. -/
inductive SharedCache (place : Location) : List Bytes → Store → Prop
  | start {store : Store} (empty : ∀ location, Inside place location → store.node? location = none) :
      SharedCache place [] store
  | change {inputs : List Bytes} {store after : Store} (before : SharedCache place inputs store)
      (same : ∀ location, Inside place location → after.node? location = store.node? location) :
      SharedCache place inputs after
  | run {inputs : List Bytes} {store : Store} {arguments : List String} {options : Options}
      {manifest : String} (before : SharedCache place inputs store)
      (understood : understand arguments = .ok (options, .generate manifest))
      (shares : Shares place store options) :
      SharedCache place (keyInputs options manifest store ++ inputs) (runOn arguments store).2

theorem Trusted.runOn (trusted : Trusted place inputs store) {arguments : List String}
    {manifest : String} (understood : understand arguments = .ok (options, .generate manifest))
    (shares : Shares place store options) :
    Trusted place (keyInputs options manifest store ++ inputs) (runOn arguments store).2 := by
  rw [runOn_of_understand understood]
  cases read : store.readText manifest with
  | error cause =>
    rw [performOn_generate_of_error read, keyInputs, read]
    exact trusted
  | ok source =>
    rw [keyInputs, read]
    -- What was genuine stays so, although one more key is known.
    refine (performOn_generate read options).trusted ?_ shares List.mem_cons_self
    exact trusted.mono (List.subset_cons_self _ _)

theorem SharedCache.trusted (history : SharedCache place inputs store) :
    Trusted place inputs store := by
  induction history with
  | start empty =>
    -- There is no file yet that could yield anything.
    intro location content inside found
    rw [empty location inside] at found
    cases found
  | change _ same ih => exact ih.congr same
  | run _ understood shares ih => exact ih.runOn understood shares

/-- A run of the generator with a shared cache has the same exit status, the same output and the same
error lines as the run without the cache, and leaves the same files, its output file among them. -/
theorem sharedCache_transparent (history : SharedCache place inputs store) {arguments : List String}
    {manifest : String} (understood : understand arguments = .ok (options, .generate manifest))
    (shares : Shares place store options)
    (separated : ∀ left ∈ keyInputs options manifest store ++ inputs,
      ∀ right ∈ keyInputs options manifest store ++ inputs,
        Sha256.digest left = Sha256.digest right → left = right) :
    Outcome.Alike (runOn arguments store).1 (runOn (arguments ++ ["--no-cache"]) store).1 ∧
      ∀ path, StaysOut place path → (runOn arguments store).2.read path =
        (runOn (arguments ++ ["--no-cache"]) store).2.read path := by
  rw [runOn_of_understand understood, runOn_of_understand (understand_noCache understood)]
  cases read : store.readText manifest with
  | error cause =>
    rw [performOn_generate_of_error read, performOn_generate_of_error read]
    exact ⟨.refl _, fun _ _ => rfl⟩
  | ok source =>
    rw [keyInputs, read] at separated
    have alone : Separated inputs (options.keyInput source) :=
      fun input member => separated input (List.mem_cons_of_mem _ member) _ List.mem_cons_self
    obtain ⟨alike, agree⟩ := (performOn_generate read options).alike
      (performOn_generate read options.withoutCache) history.trusted shares alone
    exact ⟨alike, fun path out => agree.read_eq out⟩

/-! ## Three runs -/

theorem Generates.agree {source : String} {outcome : Outcome} {after : Store}
    (run : Generates options source store outcome after) (shares : Shares place store options)
    (prints : options.out = none) : AgreeBeside place after store := by
  cases run with
  | hit =>
    rw [prints]
    exact .refl place store
  | rejected => exact .refl place store
  | made _ _ keeps =>
    subst keeps
    rw [prints]
    exact shares.agree_keepIn _ _

/-- A run that prints its output changes nothing beside the cache. -/
theorem Shares.agree_runOn (shares : Shares place store options) {arguments : List String}
    {manifest : String} (understood : understand arguments = .ok (options, .generate manifest))
    (prints : options.out = none) : AgreeBeside place (runOn arguments store).2 store := by
  rw [runOn_of_understand understood]
  cases read : store.readText manifest with
  | error cause =>
    rw [performOn_generate_of_error read]
    exact .refl place store
  | ok source => exact (performOn_generate read options).agree shares prints

theorem Shares.congr {after : Store} (shares : Shares place store options)
    (agree : AgreeBeside place after store) (direct : StaysOut place options.cacheDir) :
    Shares place after options where
  leads on := (agree.walk_eq direct).trans (shares.leads on)
  beside := shares.beside

theorem keyInputs_congr {after : Store} {manifest : String} (agree : AgreeBeside place after store)
    (beside : StaysOut place manifest) (options : Options) :
    keyInputs options manifest after = keyInputs options manifest store := by
  rw [keyInputs, keyInputs, Store.readText, Store.readText, agree.read_eq beside]

def sharedSource : String :=
  "\x7b\"atoms\": [\x7b\"ident\": \"first\", \"string\": \"a\"\x7d]\x7d"

def sharedManifest : Manifest :=
  ⟨[⟨"first", "a"⟩]⟩

/-- What `sharedManifest` compiles to. -/
def sharedAtoms : List StaticAtom :=
  [.compute "first" "a"]

theorem parse_sharedSource : Manifest.parse sharedSource = .ok sharedManifest :=
  Cache.Directory.toOption_eq_some_iff.1 (by decide +kernel)

theorem compile_sharedManifest : sharedManifest.compile = .ok sharedAtoms :=
  rfl

/-- A working directory with an empty cache and a manifest. -/
def sharedScene : Store :=
  .ofNodes [(["cache"], .directory), (["atoms.json"], .file (Text.utf8 sharedSource))]

/-- A run in `sharedScene`, which prints its output or writes it into a file. -/
def sharedRun (format : OutputFormat) (writes : Bool) : List String :=
  ["gen", "atoms.json", "--cache-dir", "cache", "--format", format.name] ++
    if writes then ["--out", "out.txt"] else []

def sharedOptions (format : OutputFormat) (writes : Bool) : Options :=
  ⟨false, false, false, format, if writes then some "out.txt" else none, "cache"⟩

theorem understand_sharedRun (format : OutputFormat) (writes : Bool) :
    understand (sharedRun format writes) =
      .ok (sharedOptions format writes, .generate "atoms.json") := by
  have plain : ["gen", "atoms.json"].find? Options.isFlag = none := by decide +kernel
  cases format <;> cases writes <;>
    simp [sharedRun, sharedOptions, OutputFormat.name, understand, Options.ofArguments,
      Options.takeValue, Options.switches, Options.formatOf, OutputFormat.ofName?, plain,
      Command.ofArguments, Command.onFile, bind, Except.bind, pure, Except.pure]

theorem shares_sharedScene (format : OutputFormat) (writes : Bool) :
    Shares ["cache"] sharedScene (sharedOptions format writes) where
  leads _ := by
    show sharedScene.walk (Path.start "cache") (Path.parts "cache") = _
    rfl
  beside := by
    intro path named
    cases writes with
    | false => cases named
    | true =>
      cases named
      decide +kernel

theorem keyInputs_sharedScene (format : OutputFormat) (writes : Bool) :
    keyInputs (sharedOptions format writes) "atoms.json" sharedScene =
      [Cache.keyInput (Text.utf8 sharedSource) format toolVersion] := by
  have content : sharedScene.read "atoms.json" = .ok (Text.utf8 sharedSource) := rfl
  simp only [keyInputs, Store.readText, content, Text.ofUtf8?_utf8]
  rfl

/-- After an output was printed in both formats, it comes from the cache. -/
theorem sharedCache_transparent_third_run :
    let printed := (runOn (sharedRun .json false) sharedScene).2
    let store := (runOn (sharedRun .listing false) printed).2
    Outcome.Alike (runOn (sharedRun .json true) store).1
        (runOn (sharedRun .json true ++ ["--no-cache"]) store).1 ∧
      (runOn (sharedRun .json true) store).2.read "out.txt" =
        (runOn (sharedRun .json true ++ ["--no-cache"]) store).2.read "out.txt" := by
  intro printed store
  have direct : StaysOut ["cache"] "cache" := by decide +kernel
  have beside : StaysOut ["cache"] "atoms.json" := by decide +kernel
  have written : StaysOut ["cache"] "out.txt" := by decide +kernel
  have empty : SharedCache ["cache"] [] sharedScene := .start <| by
    rintro _ ⟨name, rest, rfl, -⟩
    rfl
  have first : AgreeBeside ["cache"] printed sharedScene :=
    (shares_sharedScene .json false).agree_runOn (understand_sharedRun .json false) rfl
  have shares := (shares_sharedScene .listing false).congr first direct
  have second : AgreeBeside ["cache"] store sharedScene :=
    (shares.agree_runOn (understand_sharedRun .listing false) rfl).trans first
  have history := (empty.run (understand_sharedRun .json false) (shares_sharedScene .json false)).run
    (understand_sharedRun .listing false) shares
  rw [keyInputs_congr first beside, keyInputs_sharedScene, keyInputs_sharedScene] at history
  have run := sharedCache_transparent history (understand_sharedRun .json true)
    ((shares_sharedScene .json true).congr second direct)
  -- The three runs have two keys, whose hashes are different.
  rw [keyInputs_congr second beside, keyInputs_sharedScene] at run
  obtain ⟨alike, files⟩ := run (by decide +kernel)
  exact ⟨alike, files "out.txt" written⟩

end StaticAtoms
