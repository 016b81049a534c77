import StaticAtoms.Proofs.Cache.Storing
import StaticAtoms.Proofs.Command.Generating
import StaticAtoms.Proofs.Manifest.Loading

/-!
# Delivered outputs, hits and misses

`Delivered` says what a user has of a run that succeeds.  An output that the cache has is delivered with
an event that tells so, `performOn_generate_of_hit`; without one, a run comes to problems, or makes its
output and keeps it: `Generates.cases_of_misses`.  With a good manifest, it makes its output:
`performOn_generate_of_compile`.

Whatever the command, the error output has the events that the filter shows in front of all other lines:
`eventsFirst_runOn`.
-/

namespace StaticAtoms

open Store

/-! ## Delivering -/

section Delivering

variable {out : Option String} {output path : String} {store : Store}

/-- Whether a run printed an output, or wrote it into its output file, and did nothing else that shows but
to tell events.  What is written to a device is not there. -/
structure Delivered (out : Option String) (output : String) (outcome : Outcome) (after : Store) :
    Prop where
  status : outcome.status = 0
  standardOutput : outcome.standardOutput = if out.isNone then output else ""
  errorOutput : ∀ filter, outcome.errorOutput filter = unlines (outcome.eventLines filter)
  file : ∀ path ∈ out, fixed? (Path.place path) = none →
    after.read path = .ok (Text.utf8 output)

theorem Delivered.after {outcome : Outcome} {after : Store}
    (delivered : Delivered out output outcome after) (events : List Log.Event) :
    Delivered out output (outcome.after events) after where
  status := delivered.status
  standardOutput := (Outcome.standardOutput_after events outcome).trans delivered.standardOutput
  errorOutput filter := by
    rw [Outcome.errorOutput_after, delivered.errorOutput, Outcome.eventLines_after, unlines_append]
  file := delivered.file

/-- Whether the output file of a run can be opened and takes all of an output. -/
def CanWrite (out : Option String) (output : String) (store : Store) : Prop :=
  ∀ path ∈ out, (store.write path (Text.utf8 output)).2 = .ok ()

theorem deliverOn_of_ok (written : (store.write path (Text.utf8 output)).2 = .ok ()) :
    deliverOn (some path) output store =
      (Outcome.after [⟨.debug, .command, s!"wrote {path}"⟩] ⟨[], true⟩,
        (store.write path (Text.utf8 output)).1) := by
  rw [deliverOn_some, written]

theorem deliverOn_of_error {cause : FileError}
    (failed : (store.write path (Text.utf8 output)).2 = .error cause) :
    deliverOn (some path) output store =
      (.failed [.fileFailure path cause], (store.write path (Text.utf8 output)).1) := by
  rw [deliverOn_some, failed]

theorem delivered_deliverOn (writable : CanWrite out output store) :
    Delivered out output (deliverOn out output store).1 (deliverOn out output store).2 := by
  cases out with
  | none =>
    have printed : deliverOn none output store = (.done output, store) := rfl
    rw [printed]
    exact ⟨rfl, Outcome.standardOutput_done output, fun _ => rfl, by simp⟩
  | some path =>
    have written := writable path rfl
    rw [deliverOn_of_ok written]
    refine ⟨rfl, Outcome.standardOutput_after _ _, fun filter => ?_, ?_⟩
    · rw [Outcome.errorOutput_after, Outcome.eventLines_after, unlines_append]
      rfl
    · rintro _ ⟨⟩ unfixed
      exact read_write written unfixed

theorem exists_of_status_deliverOn {out : Option String}
    (failed : (deliverOn out output store).1.status ≠ 0) :
    ∃ path cause, out = some path ∧ (store.write path (Text.utf8 output)).2 = .error cause := by
  cases out with
  | none => exact absurd rfl failed
  | some path =>
    cases result : (store.write path (Text.utf8 output)).2 with
    | error cause => exact ⟨path, cause, rfl, result⟩
    | ok done =>
      rw [deliverOn_of_ok result] at failed
      exact absurd rfl failed

/-- Delivering changes the output file only. -/
theorem read_deliverOn {content : Bytes} (read : store.read path = .ok content)
    (other : ∀ written ∈ out, Path.place written ≠ Path.place path) :
    (deliverOn out output store).2.read path = .ok content := by
  cases out with
  | none => exact read
  | some written =>
    rw [deliverOn_some]
    refine read_of_kept read (keepsDirectories_write store written _) ?_
    rw [node?_write_of_ne (other written rfl).symm]
    exact node?_of_read read

end Delivering

/-! ## Keeping -/

theorem spares_keepIn (directory : Cache.Directory) (key : Digest) (output : String) (store : Store) :
    directory.Spares key store (keepIn (some directory) key output store) :=
  directory.spares_storeOn ⟨toolVersion, key, output⟩ store

/-- Keeping an output changes no file but that of its key. -/
theorem file_keepIn_iff {cache : Option Cache.Directory} {key : Digest} {output : String}
    {store : Store} {location : Location}
    (elsewhere : ∀ directory ∈ cache, location ≠ directory.location key) (content : Bytes) :
    (keepIn cache key output store).node? location = some (.file content) ↔
      store.node? location = some (.file content) := by
  cases cache with
  | none => exact .rfl
  | some directory =>
    exact (spares_keepIn directory key output store).file_iff location (elsewhere directory rfl)
      content

/-! ## Hits -/

variable {options : Options} {source output manifest : String} {store : Store}

/-- The event that tells of an output that the cache has. -/
def Log.hit (key : Digest) : Log.Event :=
  ⟨.debug, .command, s!"cache: hit ({key.hex})"⟩

theorem noticedIn_of_outputIn {cache : Option Cache.Directory} {key : Digest}
    (found : outputIn cache key store = some output) : noticedIn cache key store = [] := by
  cases cache with
  | none => cases found
  | some directory =>
    rw [outputIn, Option.bind_some, Cache.Directory.output?] at found
    simp only [noticedIn, Option.toList_some, List.flatMap_singleton, Cache.Directory.noticed]
    cases read : store.read (directory.entryPath key) with
    | error failure => rfl
    | ok content =>
      rw [read] at found
      dsimp only at found ⊢
      cases loaded : Cache.Entry.load content key toolVersion with
      | error miss =>
        rw [loaded] at found
        cases found
      | ok text => rfl

theorem performOn_generate_of_hit (read : store.readText manifest = .ok source)
    (found : outputIn options.cache (options.key source) store = some output) :
    performOn options (.generate manifest) store =
      ((deliverOn options.out output store).1.after [Log.hit (options.key source)],
        (deliverOn options.out output store).2) := by
  have key : Cache.key (Text.utf8 source) options.format toolVersion = options.key source := rfl
  rw [performOn_generate_eq, generate, withText_run, read]
  simp only [bind, StateT.bind, key, fromCache_run, found, noticedIn_of_outputIn found]
  rfl

/-! ## Misses -/

/-- Whether no file of the cache that a run uses begins with an entry for the run and its tool
version. -/
def Options.Misses (options : Options) (source : String) (store : Store) : Prop :=
  ∀ directory ∈ options.cache, ∀ content output,
    store.read (directory.entryPath (options.key source)) = .ok content →
      ¬ Cache.Entry.Opens ⟨toolVersion, options.key source, output⟩ content

theorem Cache.Directory.loadOn_eq_output? (directory : Cache.Directory) (key : Digest)
    (store : Store) : directory.loadOn key toolVersion store = directory.output? key store := by
  rw [Cache.Directory.loadOn, directory.load_run]

theorem outputIn_eq_some_iff {cache : Option Cache.Directory} {key : Digest} :
    outputIn cache key store = some output ↔
      ∃ directory ∈ cache, ∃ content, store.read (directory.entryPath key) = .ok content ∧
        Cache.Entry.Opens ⟨toolVersion, key, output⟩ content := by
  simp only [outputIn, Option.bind_eq_some_iff, ← Cache.Directory.loadOn_eq_output?,
    Cache.Directory.loadOn_eq_some_iff, Option.mem_def]

theorem Options.Misses.outputIn_eq_none (misses : options.Misses source store) :
    outputIn options.cache (options.key source) store = none := by
  refine Option.eq_none_iff_forall_ne_some.2 fun output found => ?_
  obtain ⟨directory, used, content, read, opens⟩ := outputIn_eq_some_iff.1 found
  exact misses directory used content output read opens

/-- Without a hit, a run comes to problems and leaves everything as it was, or it makes an output, keeps
it in the cache and delivers it. -/
theorem Generates.cases_of_misses {outcome : Outcome} {after : Store}
    (run : Generates options source store outcome after) (misses : options.Misses source store) :
    (∃ problems, (produce source options.format).2 = .error problems ∧
      outcome = (Outcome.failed problems).after
        (noticedIn options.cache (options.key source) store) ∧ after = store) ∨
    ∃ output events, (produce source options.format).2 = .ok output ∧
      outcome = (deliverOn options.out output
        (keepIn options.cache (options.key source) output store)).1.after events ∧
      after = (deliverOn options.out output
        (keepIn options.cache (options.key source) output store)).2 := by
  cases run with
  | hit events found =>
    rw [misses.outputIn_eq_none] at found
    cases found
  | rejected events wrong told =>
    -- Nothing is told of an output that is not made, so that only the cache has something to tell.
    rw [produce_fst_of_error wrong, List.append_nil] at told
    subst told
    exact .inl ⟨_, wrong, rfl, rfl⟩
  | made events right keeps =>
    subst keeps
    exact .inr ⟨_, events, right, rfl, rfl⟩

theorem performOn_generate_of_compile {declared : Manifest} {atoms : List StaticAtom}
    (read : store.readText manifest = .ok source) (parsed : Manifest.parse source = .ok declared)
    (compiled : declared.compile = .ok atoms) (misses : options.Misses source store) :
    ∃ events, performOn options (.generate manifest) store =
      ((deliverOn options.out (options.format.render atoms) (keepIn options.cache
          (options.key source) (options.format.render atoms) store)).1.after events,
        (deliverOn options.out (options.format.render atoms) (keepIn options.cache
          (options.key source) (options.format.render atoms) store)).2) := by
  have right := produce_of_compile parsed compiled options.format
  obtain ⟨problems, wrong, -⟩ | ⟨output, events, made, said, after⟩ :=
    (performOn_generate read options).cases_of_misses misses
  · cases right.symm.trans wrong
  · cases right.symm.trans made
    exact ⟨events, Prod.ext said after⟩

/-! ## The error output -/

theorem eventsFirst_failed (problems : List Problem) : (Outcome.failed problems).EventsFirst :=
  Outcome.eventsFirst_complain _

theorem eventsFirst_deliverOn (out : Option String) (output : String) (store : Store) :
    (deliverOn out output store).1.EventsFirst := by
  cases out with
  | none => exact Outcome.eventsFirst_done output
  | some path =>
    rw [deliverOn_some]
    split
    · exact eventsFirst_failed _
    · exact Outcome.EventsFirst.after (fun _ => rfl) _

theorem Generates.eventsFirst {outcome : Outcome} {after : Store}
    (run : Generates options source store outcome after) : outcome.EventsFirst := by
  cases run with
  | hit events => exact (eventsFirst_deliverOn _ _ _).after events
  | rejected events => exact (eventsFirst_failed _).after events
  | made events => exact (eventsFirst_deliverOn _ _ _).after events

theorem eventsFirst_check (source : String) : (check source).EventsFirst := by
  rw [check]
  split
  · exact eventsFirst_failed _
  · split
    · exact eventsFirst_failed _
    · split
      · exact eventsFirst_failed _
      · split
        · exact eventsFirst_failed _
        · exact (Outcome.eventsFirst_done _).after _

theorem eventsFirst_fingerprintOf (source : String) : (fingerprintOf source).EventsFirst := by
  rw [fingerprintOf]
  split
  · exact eventsFirst_failed _
  · exact (Outcome.eventsFirst_done _).after _

/-- A wrong command line is answered with complaints, and perhaps with the help text, which is not on the
error output. -/
theorem eventsFirst_misused (wrong : UsageError) : (misused wrong).EventsFirst := by
  cases wrong with
  | unknownCommand name =>
    have lines := Outcome.eventsFirst_complain (UsageError.unknownCommand name).lines
    intro filter
    simpa [Outcome.EventsFirst, Outcome.errorOutput, Outcome.eventLines, Outcome.errorLines,
      Outcome.complain, misused] using lines filter
  | _ => exact Outcome.eventsFirst_complain _

/-- The error output of every run has the events that the filter shows and then the other lines, in
the order in which they are said, and nothing else. -/
theorem eventsFirst_runOn (arguments : List String) (store : Store) :
    (runOn arguments store).1.EventsFirst := by
  -- Commands about a file fail in one way before they have its text.
  have withText (path : String) (next : String → StateM Store Outcome)
      (first : ∀ text, (next text store).1.EventsFirst) :
      (withText path next store).1.EventsFirst := by
    rw [withText_run]
    split
    · exact eventsFirst_failed _
    · exact first _
  cases understood : understand arguments with
  | error wrong =>
    rw [runOn, run, understood]
    exact eventsFirst_misused wrong
  | ok line =>
    obtain ⟨options, command⟩ := line
    rw [runOn_of_understand understood]
    cases command with
    | help => exact Outcome.eventsFirst_done _
    | hash texts => exact Outcome.eventsFirst_done _
    | generate manifest =>
      cases read : store.readText manifest with
      | error cause =>
        rw [performOn_generate_of_error read]
        exact eventsFirst_failed _
      | ok source => exact (performOn_generate read options).eventsFirst
    | verify path => exact withText path _ eventsFirst_check
    | fingerprint path => exact withText path _ eventsFirst_fingerprintOf
    | cacheInfo path =>
      refine withText path _ fun source => ?_
      exact (Outcome.eventsFirst_done _).after _

end StaticAtoms
