import StaticAtoms.Proofs.Cache.Directories
import StaticAtoms.Proofs.Command.Stores

/-!
# Generating on a store

`Generates` lists what the generator can do: it delivers an output that the cache has, it rejects a
manifest, or it makes an output, keeps it in the cache and delivers it.  `performOn_generate` says that
there is nothing else.
-/

namespace StaticAtoms

/-! ## Delivering -/

/-- Prints an output, or writes it into a file of a store. -/
def deliverOn (out : Option String) (output : String) (store : Store) : Outcome × Store :=
  (deliver out output : StateM Store Outcome) store

theorem deliverOn_some (path output : String) (store : Store) :
    deliverOn (some path) output store =
      (match (store.write path (Text.utf8 output)).2 with
        | .error cause => .failed [.fileFailure path cause]
        | .ok () => Outcome.after [⟨.debug, .command, s!"wrote {path}"⟩] ⟨[], true⟩,
      (store.write path (Text.utf8 output)).1) := by
  simp only [deliverOn, deliver, writeText, bind, StateT.bind, MonadFiles.writeFile]
  obtain ⟨after, result⟩ := store.write path (Text.utf8 output)
  cases result <;> rfl

/-- Delivering beside a directory does the same in stores that differ in the directory only. -/
theorem deliverOn_agree {place : Location} {left right : Store} {out : Option String}
    (agree : Store.AgreeBeside place left right) (beside : ∀ path ∈ out, Store.StaysOut place path)
    (output : String) :
    (deliverOn out output left).1 = (deliverOn out output right).1 ∧
      Store.AgreeBeside place (deliverOn out output left).2 (deliverOn out output right).2 := by
  cases out with
  | none => exact ⟨rfl, agree⟩
  | some path =>
    obtain ⟨results, agrees⟩ := agree.write (beside path rfl) (Text.utf8 output)
    rw [deliverOn_some, deliverOn_some, results]
    exact ⟨rfl, agrees⟩

theorem node?_deliverOn {place location : Location} {out : Option String}
    (beside : ∀ path ∈ out, Store.StaysOut place path) (output : String) (store : Store)
    (inside : Store.Inside place location) :
    (deliverOn out output store).2.node? location = store.node? location := by
  cases out with
  | none => rfl
  | some path =>
    rw [deliverOn_some]
    obtain ⟨cause, -, failed⟩ | ⟨other, part, found, -, put, -⟩ :=
      store.write_cases path (Text.utf8 output)
    · rw [failed]
    · have outside := Store.not_inside_destination (beside path rfl) found
      have different : location ≠ other := fun same => outside (same ▸ inside)
      rw [put, Store.node?_put, if_neg different]

/-! ## Keeping -/

namespace Cache.Directory

/-- The output that a directory has for a key. -/
def output? (directory : Directory) (key : Digest) (store : Store) : Option String :=
  match store.read (directory.entryPath key) with
  | .error _ => none
  | .ok content =>
      match Entry.load content key toolVersion with
      | .error _ => none
      | .ok output => some output

/-- What is told of the file of a key that has no output.  Of a file that begins with other bytes, or ends
too early, it is a warning. -/
def noticed (directory : Directory) (key : Digest) (store : Store) : List Log.Event :=
  match store.read (directory.entryPath key) with
  | .error _ => []
  | .ok content =>
      match Entry.load content key toolVersion with
      | .error miss => miss.events (directory.entryPath key)
      | .ok _ => []

theorem noticed_of_read {directory : Directory} {key : Digest} {store : Store} {content : Bytes}
    {miss : Miss} (read : store.read (directory.entryPath key) = .ok content)
    (missed : Entry.load content key toolVersion = .error miss) :
    directory.noticed key store = miss.events (directory.entryPath key) := by
  simp only [noticed, read, missed]

theorem load_run (directory : Directory) (key : Digest) (store : Store) :
    (directory.load key toolVersion : StateM Store _) store =
      ((directory.noticed key store, directory.output? key store), store) := by
  simp only [load, noticed, output?, bind, StateT.bind, MonadFiles.readFile]
  cases store.read (directory.entryPath key) with
  | error failure => rfl
  | ok content =>
    dsimp only
    cases Entry.load content key toolVersion <;> rfl

end Cache.Directory

/-! ## Generating -/

/-- The directory in which outputs are looked for and kept. -/
def Options.cache (options : Options) : Option Cache.Directory :=
  if options.noCache then none else some ⟨options.cacheDir⟩

/-- The bytes that the key of a run's output is the hash of. -/
def Options.keyInput (options : Options) (source : String) : Bytes :=
  Cache.keyInput (Text.utf8 source) options.format toolVersion

def Options.key (options : Options) (source : String) : Digest :=
  Cache.key (Text.utf8 source) options.format toolVersion

/-- The output that a cache has for a key, if there is one. -/
def outputIn (cache : Option Cache.Directory) (key : Digest) (store : Store) : Option String :=
  cache.bind fun directory => directory.output? key store

/-- What is told of the file that a cache has for a key. -/
def noticedIn (cache : Option Cache.Directory) (key : Digest) (store : Store) : List Log.Event :=
  cache.toList.flatMap fun directory => directory.noticed key store

theorem fromCache_run (cache : Option Cache.Directory) (key : Digest) (store : Store) :
    (fromCache cache key : StateM Store _) store =
      ((noticedIn cache key store, outputIn cache key store), store) := by
  cases cache with
  | none => rfl
  | some directory =>
    simp only [noticedIn, Option.toList_some, List.flatMap_singleton]
    exact directory.load_run key store

/-- A store after an output was stored in a cache. -/
def keepIn (cache : Option Cache.Directory) (key : Digest) (output : String) (store : Store) : Store :=
  match cache with
  | none => store
  | some directory => ((directory.store ⟨toolVersion, key, output⟩ : StateM Store _) store).2

theorem intoCache_run (cache : Option Cache.Directory) (key : Digest) (output : String)
    (store : Store) : ∃ events, (intoCache cache key output : StateM Store _) store =
      (events, keepIn cache key output store) := by
  cases cache with
  | none => exact ⟨[], rfl⟩
  | some directory =>
    simp only [intoCache, keepIn, bind, StateT.bind]
    obtain ⟨result, after⟩ :=
      (directory.store ⟨toolVersion, key, output⟩ : StateM Store _) store
    cases result with
    | ok path => exact ⟨_, rfl⟩
    | error cause => exact ⟨_, rfl⟩

/-- What the generator can do with a manifest's source. -/
inductive Generates (options : Options) (source : String) (store : Store) : Outcome → Store → Prop
  | hit {output : String} (events : List Log.Event)
      (found : outputIn options.cache (options.key source) store = some output) :
      Generates options source store ((deliverOn options.out output store).1.after events)
        (deliverOn options.out output store).2
  | rejected {problems : List Problem} (events : List Log.Event)
      (wrong : (produce source options.format).2 = .error problems)
      (told : events = noticedIn options.cache (options.key source) store ++
        (produce source options.format).1) :
      Generates options source store ((Outcome.failed problems).after events) store
  | made {output : String} {kept : Store} (events : List Log.Event)
      (right : (produce source options.format).2 = .ok output)
      (keeps : kept = keepIn options.cache (options.key source) output store) :
      Generates options source store ((deliverOn options.out output kept).1.after events)
        (deliverOn options.out output kept).2

theorem performOn_generate_eq (options : Options) (manifest : String) (store : Store) :
    performOn options (.generate manifest) store =
      (generate manifest options.format options.out options.cache : StateM Store Outcome) store :=
  rfl

theorem performOn_generate_of_error {manifest : String} {store : Store} {cause : FileError}
    (failed : store.readText manifest = .error cause) (options : Options) :
    performOn options (.generate manifest) store =
      (.failed [.fileFailure manifest cause], store) := by
  rw [performOn_generate_eq, generate, withText_run, failed]

theorem performOn_generate {manifest source : String} {store : Store}
    (read : store.readText manifest = .ok source) (options : Options) :
    Generates options source store (performOn options (.generate manifest) store).1
      (performOn options (.generate manifest) store).2 := by
  rw [performOn_generate_eq, generate, withText_run, read]
  have key : Cache.key (Text.utf8 source) options.format toolVersion = options.key source := rfl
  simp only [bind, StateT.bind, key, fromCache_run]
  cases found : outputIn options.cache (options.key source) store with
  | some output => exact .hit _ found
  | none =>
    dsimp only
    cases result : produce source options.format with
    | mk made output =>
      cases output with
      | error problems => exact .rejected _ (congrArg Prod.snd result) (by rw [result])
      | ok output =>
        obtain ⟨kept, keeps⟩ := intoCache_run options.cache (options.key source) output store
        simp only [StateT.bind, keeps]
        exact .made _ (congrArg Prod.snd result) rfl

end StaticAtoms
