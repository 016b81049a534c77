import StaticAtoms.Proofs.Cache.Storing

/-!
# Histories of a cache directory

A cache directory that nothing else writes is a map from keys to entries.  `History` lists the stores
to which calls that store entries lead; `Faithful` is the invariant: the file of a key has what the
latest call for the key wrote that succeeded, unless a call that failed has left something there.

* `History.latest?_of_loadOn` tells whose output is loaded after any calls.
* `History.behaves_as_map` is the main statement about calls that succeed.
-/

namespace StaticAtoms.Cache.Directory

open Store

variable {directory : Directory} {store after : Store} {key : Digest}

/-! ## Calls -/

/-- A call that stored an entry, and what it gave. -/
structure Attempt where
  entry : Entry
  result : Except FileError String

/-- Whether a call succeeded. -/
def Attempt.Succeeded (attempt : Attempt) : Prop :=
  ∃ path, attempt.result = .ok path

theorem Attempt.succeeded_iff {attempt : Attempt} : attempt.Succeeded ↔ attempt.result.isOk := by
  rw [Succeeded]
  cases attempt.result <;> simp [Except.isOk, Except.toBool]

instance (attempt : Attempt) : Decidable attempt.Succeeded :=
  decidable_of_iff _ Attempt.succeeded_iff.symm

def call (directory : Directory) (entry : Entry) (store : Store) : Attempt :=
  ⟨entry, (directory.storeOn entry store).1⟩

/-- The latest call for a key, of calls with the latest first. -/
def latest? (key : Digest) (attempts : List Attempt) : Option Attempt :=
  attempts.find? fun attempt => attempt.entry.key = key

/-- The calls that succeeded. -/
def successes (attempts : List Attempt) : List Attempt :=
  attempts.filter fun attempt => attempt.Succeeded

variable {attempts : List Attempt} {attempt : Attempt}

theorem successes_eq_self (succeeded : ∀ attempt ∈ attempts, attempt.Succeeded) :
    successes attempts = attempts :=
  List.filter_eq_self.2 fun attempt member => decide_eq_true (succeeded attempt member)

theorem successes_cons_of_succeeded (succeeded : attempt.Succeeded) (attempts : List Attempt) :
    successes (attempt :: attempts) = attempt :: successes attempts :=
  List.filter_cons_of_pos (decide_eq_true succeeded)

theorem successes_cons_of_failed (failed : ¬ attempt.Succeeded) (attempts : List Attempt) :
    successes (attempt :: attempts) = successes attempts :=
  List.filter_cons_of_neg (by simpa using failed)

theorem latest?_cons (key : Digest) (attempt : Attempt) (attempts : List Attempt) :
    latest? key (attempt :: attempts) =
      if attempt.entry.key = key then some attempt else latest? key attempts := by
  by_cases same : attempt.entry.key = key <;> simp [latest?, same]

theorem succeeded_call {entry : Entry} {path : String}
    (stored : (directory.storeOn entry store).1 = .ok path) :
    (directory.call entry store).Succeeded :=
  ⟨path, stored⟩

theorem latest?_call {entry : Entry} : latest? entry.key (directory.call entry store :: attempts) =
    some (directory.call entry store) :=
  (latest?_cons _ _ _).trans (if_pos rfl)

theorem latest?_call_of_ne {entry : Entry} (different : entry.key ≠ key) :
    latest? key (directory.call entry store :: attempts) = latest? key attempts :=
  (latest?_cons _ _ _).trans (if_neg different)

theorem key_of_latest? (found : latest? key attempts = some attempt) : attempt.entry.key = key := by
  simpa using List.find?_some found

theorem mem_of_latest? (found : latest? key attempts = some attempt) : attempt ∈ attempts :=
  List.mem_of_find?_eq_some found

/-- The stores, each with the calls so far, the latest first, to which storing entries in a directory
leads, in which there was no file at first.  Between the calls, anything may happen to files elsewhere
as long as the directory stays. -/
inductive History (directory : Directory) : List Attempt → Store → Prop
  | start {store : Store} (empty : ∀ location content,
        Inside (Path.place directory.path) location → store.node? location ≠ some (.file content)) :
      History directory [] store
  | change {attempts : List Attempt} {store after : Store} (before : History directory attempts store)
      (same : ∀ location,
        Inside (Path.place directory.path) location → after.node? location = store.node? location)
      (stays : store.Leads directory.path → after.Leads directory.path) :
      History directory attempts after
  | store {attempts : List Attempt} {store : Store} (before : History directory attempts store)
      (entry : Entry) :
      History directory (directory.call entry store :: attempts) (directory.storeOn entry store).2

/-! ## Faithful directories -/

/-- Whether the files of a directory are those that the latest calls wrote. -/
structure Faithful (directory : Directory) (attempts : List Attempt) (store : Store) : Prop where
  /-- What is in the file of a key was written by the latest call for the key that succeeded; or a call
  that failed has left it there, and then it is no entry for anything. -/
  written : ∀ key content, store.node? (directory.location key) = some (.file content) →
    (∃ attempt, latest? key (successes attempts) = some attempt ∧
      attempt.entry.written = content ∧ ∃ whole, attempt.entry.encode = .ok whole) ∨
    (∃ attempt ∈ attempts, ¬ attempt.Succeeded) ∧ ∀ entry : Entry, ¬ entry.Opens content
  /-- What a call wrote that succeeded stands there until the next one for its key. -/
  kept : ∀ key attempt, latest? key attempts = some attempt → attempt.Succeeded →
    store.node? (directory.location key) = some (.file attempt.entry.written) ∧
      ∃ whole, attempt.entry.encode = .ok whole
  readable : ∀ key content, store.node? (directory.location key) = some (.file content) →
    store.read (directory.entryPath key) = .ok content

theorem not_succeeded_call {entry : Entry} {cause : FileError}
    (failed : (directory.storeOn entry store).1 = .error cause) :
    ¬ (directory.call entry store).Succeeded := by
  rintro ⟨path, stored⟩
  cases failed.symm.trans stored

namespace Faithful

variable {entry : Entry}

theorem start (empty : ∀ location content,
    Inside (Path.place directory.path) location → store.node? location ≠ some (.file content)) :
    Faithful directory [] store where
  written key content found := absurd found (empty _ content (directory.inside_location key))
  kept _ _ none := nomatch none
  readable key content found := absurd found (empty _ content (directory.inside_location key))

theorem change (faithful : Faithful directory attempts store)
    (same : ∀ location,
      Inside (Path.place directory.path) location → after.node? location = store.node? location)
    (stays : store.Leads directory.path → after.Leads directory.path) :
    Faithful directory attempts after where
  written key content found := by
    rw [same _ (directory.inside_location key)] at found
    exact faithful.written key content found
  kept key attempt found succeeded := by
    rw [same _ (directory.inside_location key)]
    exact faithful.kept key attempt found succeeded
  readable key content found := by
    have stands := found
    rw [same _ (directory.inside_location key)] at stands
    obtain ⟨leads, sound, -⟩ := read_entryPath_eq_ok_iff.1 (faithful.readable key content stands)
    exact read_entryPath_eq_ok_iff.2 ⟨stays leads, sound, found⟩

/-- What was written before is still accounted for after a call that failed, or that was for another
key. -/
theorem written_before (faithful : Faithful directory attempts store) {key : Digest}
    {content : Bytes} (stands : store.node? (directory.location key) = some (.file content))
    (apart : attempt.Succeeded → attempt.entry.key ≠ key) :
    (∃ latest, latest? key (successes (attempt :: attempts)) = some latest ∧
      latest.entry.written = content ∧ ∃ whole, latest.entry.encode = .ok whole) ∨
    (∃ other ∈ attempt :: attempts, ¬ other.Succeeded) ∧ ∀ entry : Entry, ¬ entry.Opens content := by
  have latest : latest? key (successes (attempt :: attempts)) = latest? key (successes attempts) := by
    by_cases succeeded : attempt.Succeeded
    · rw [successes_cons_of_succeeded succeeded, latest?_cons, if_neg (apart succeeded)]
    · rw [successes_cons_of_failed succeeded]
  rw [latest]
  refine (faithful.written key content stands).imp_right ?_
  rintro ⟨⟨other, member, wrong⟩, none⟩
  exact ⟨⟨other, List.mem_cons_of_mem _ member, wrong⟩, none⟩

/-- A call that could not open its file leaves all files alone. -/
theorem store_of_grows (faithful : Faithful directory attempts store) {cause : FileError}
    (failed : (directory.storeOn entry store).1 = .error cause)
    (grows : Grows store (directory.storeOn entry store).2) :
    Faithful directory (directory.call entry store :: attempts)
      (directory.storeOn entry store).2 where
  written key content found :=
    faithful.written_before ((grows.file_iff _ content).1 found) fun succeeded =>
      absurd succeeded (not_succeeded_call failed)
  kept key attempt found succeeded := by
    rw [latest?_cons] at found
    by_cases same : entry.key = key
    · cases (if_pos same).symm.trans found
      exact absurd succeeded (not_succeeded_call failed)
    · rw [grows.file_iff]
      exact faithful.kept key attempt ((if_neg same).symm.trans found) succeeded
  readable key content found := by
    have stands := (grows.file_iff _ content).1 found
    obtain ⟨leads, sound, -⟩ := read_entryPath_eq_ok_iff.1 (faithful.readable key content stands)
    exact read_entryPath_eq_ok_iff.2 ⟨leads.mono grows.directories, sound, found⟩

/-- After a call that could open its file, the files of other keys can be read as before. -/
theorem readable_of_read (faithful : Faithful directory attempts store) {content : Bytes}
    (read : after.read (directory.entryPath entry.key) = .ok content)
    (others : ∀ other ≠ directory.location entry.key, ∀ found,
      after.node? other = some (.file found) ↔ store.node? other = some (.file found))
    {key : Digest} {found : Bytes}
    (stands : after.node? (directory.location key) = some (.file found)) :
    after.read (directory.entryPath key) = .ok found := by
  obtain ⟨leads, sound, whole⟩ := read_entryPath_eq_ok_iff.1 read
  by_cases same : entry.key = key
  · subst same
    cases whole.symm.trans stands
    exact read
  · have different : directory.location key ≠ directory.location entry.key :=
      fun again => same (location_injective again).symm
    obtain ⟨-, sound, -⟩ := read_entryPath_eq_ok_iff.1
      (faithful.readable key found ((others _ different found).1 stands))
    exact read_entryPath_eq_ok_iff.2 ⟨leads, sound, stands⟩

theorem stored (faithful : Faithful directory attempts store) (entry : Entry) :
    Faithful directory (directory.call entry store :: attempts)
      (directory.storeOn entry store).2 := by
  obtain ⟨cause, failed, grows⟩ | ⟨content, read, others, result⟩ :=
    directory.storeOn_cases entry store
  · exact faithful.store_of_grows failed grows
  · obtain ⟨-, -, stands⟩ := read_entryPath_eq_ok_iff.1 read
    have other {key : Digest} (different : entry.key ≠ key) (found : Bytes) :=
      others (directory.location key) (fun same => different (location_injective same).symm) found
    -- The file of the entry has what this call left in it, and the other files are as they were.
    refine ⟨fun key found there => ?_, fun key attempt latest succeeded => ?_,
      fun key found there => faithful.readable_of_read read others there⟩
    · by_cases same : entry.key = key
      · subst same
        cases stands.symm.trans there
        obtain ⟨whole, stored, encoded, rfl⟩ | ⟨cause, failed, none⟩ := result
        · rw [successes_cons_of_succeeded (succeeded_call stored)]
          exact .inl ⟨_, latest?_call, rfl, whole, encoded⟩
        · exact .inr ⟨⟨_, List.mem_cons_self, not_succeeded_call failed⟩, none⟩
      · exact faithful.written_before ((other same found).1 there) fun _ => same
    · by_cases same : entry.key = key
      · subst same
        cases latest?_call.symm.trans latest
        obtain ⟨whole, stored, encoded, rfl⟩ | ⟨cause, failed, -⟩ := result
        · exact ⟨stands, whole, encoded⟩
        · exact absurd succeeded (not_succeeded_call failed)
      · rw [latest?_call_of_ne same] at latest
        obtain ⟨before, encoded⟩ := faithful.kept key attempt latest succeeded
        exact ⟨(other same _).2 before, encoded⟩

end Faithful

/-! ## What is found -/

namespace History

theorem faithful (history : History directory attempts store) :
    Faithful directory attempts store := by
  induction history with
  | start empty => exact .start empty
  | change _ same stays ih => exact ih.change same stays
  | store _ entry ih => exact ih.stored entry

/-- What stands in the way of writing is no part of what was stored. -/
theorem bar (history : History directory attempts store) (location : Location) (barrier : Barrier) :
    History directory attempts (store.bar location barrier) :=
  history.change (fun _ _ => rfl) fun leads => leads.mono fun _ stands => stands

theorem read_eq_ok_iff (history : History directory attempts store) {content : Bytes} :
    store.read (directory.entryPath key) = .ok content ↔
      store.node? (directory.location key) = some (.file content) :=
  ⟨fun read => (read_entryPath_eq_ok_iff.1 read).2.2, history.faithful.readable key content⟩

theorem read_of_succeeded (history : History directory attempts store)
    (found : latest? key attempts = some attempt) (succeeded : attempt.Succeeded) :
    store.read (directory.entryPath key) = .ok attempt.entry.written ∧
      ∃ whole, attempt.entry.encode = .ok whole := by
  obtain ⟨stands, encoded⟩ := history.faithful.kept key attempt found succeeded
  exact ⟨history.read_eq_ok_iff.2 stands, encoded⟩

/-- What is loaded for a key was stored by the latest call for the key that succeeded, whatever calls
have failed since. -/
theorem latest?_of_loadOn (history : History directory attempts store) {tool output : String}
    (loaded : directory.loadOn key tool store = some output) :
    ∃ attempt, latest? key (successes attempts) = some attempt ∧
      attempt.entry = ⟨tool, key, output⟩ := by
  obtain ⟨content, read, opens⟩ := Directory.loadOn_eq_some_iff.1 loaded
  obtain ⟨attempt, found, rfl, -⟩ | ⟨-, none⟩ :=
    history.faithful.written key content (history.read_eq_ok_iff.1 read)
  · exact ⟨attempt, found, (Entry.opens_written_iff.1 opens).1.symm⟩
  · exact absurd opens (none _)

/-- What the latest call for a key stored is loaded for its tool version. -/
theorem loadOn_of_latest? (history : History directory attempts store)
    (found : latest? key attempts = some attempt) (succeeded : attempt.Succeeded) :
    directory.loadOn key attempt.entry.tool store = some attempt.entry.output := by
  obtain ⟨read, encoded⟩ := history.read_of_succeeded found succeeded
  obtain rfl := key_of_latest? found
  exact Directory.loadOn_eq_some_iff.2 ⟨_, read, Entry.opens_written_iff.2 ⟨rfl, encoded⟩⟩

theorem loadOn_call (history : History directory attempts store) {entry : Entry}
    (stored : (directory.call entry store).Succeeded) :
    directory.loadOn entry.key entry.tool (directory.storeOn entry store).2 = some entry.output :=
  (history.store entry).loadOn_of_latest? latest?_call stored

/-- After calls that succeeded, the header of the entry is told that the latest call for the key
stored. -/
theorem inspectOn_eq_some_iff (history : History directory attempts store)
    (succeeded : ∀ attempt ∈ attempts, attempt.Succeeded) {info : Info} :
    directory.inspectOn key store = some info ↔
      ∃ attempt, latest? key attempts = some attempt ∧
        info = ⟨directory.entryPath key, attempt.entry.header⟩ := by
  rw [Directory.inspectOn_eq_some_iff]
  constructor
  · rintro ⟨path, content, read, opens⟩
    obtain ⟨attempt, found, rfl, -⟩ | ⟨⟨attempt, member, failed⟩, -⟩ :=
      history.faithful.written key content (history.read_eq_ok_iff.1 read)
    · rw [successes_eq_self succeeded] at found
      obtain ⟨header, -⟩ := Entry.header_opens_written_iff.1 opens
      refine ⟨attempt, found, ?_⟩
      rw [← path, ← header]
    · exact absurd (succeeded attempt member) failed
  · rintro ⟨attempt, found, rfl⟩
    obtain ⟨read, encoded⟩ := history.read_of_succeeded found (succeeded _ (mem_of_latest? found))
    exact ⟨rfl, _, read, Entry.header_opens_written_iff.2 ⟨rfl, encoded⟩⟩

/-- What is loaded for a key depends on the key's file only. -/
theorem loadOn_congr {others : List Attempt} (history : History directory attempts store)
    (second : History directory others after)
    (same : ∀ content, after.node? (directory.location key) = some (.file content) ↔
      store.node? (directory.location key) = some (.file content)) (tool : String) :
    directory.loadOn key tool after = directory.loadOn key tool store := by
  refine Option.ext fun output => ?_
  simp only [Directory.loadOn_eq_some_iff, second.read_eq_ok_iff, history.read_eq_ok_iff, same]

/-- A call changes nothing in the files of other keys, whether it succeeds or fails. -/
theorem file_storeOn_iff {entry : Entry}
    (different : entry.key ≠ key) (content : Bytes) :
    (directory.storeOn entry store).2.node? (directory.location key) = some (.file content) ↔
      store.node? (directory.location key) = some (.file content) := by
  have elsewhere : directory.location key ≠ directory.location entry.key :=
    fun same => different (location_injective same).symm
  obtain ⟨-, -, grows⟩ | ⟨-, -, others, -⟩ := directory.storeOn_cases entry store
  · exact grows.file_iff _ content
  · exact others _ elsewhere content

theorem loadOn_of_ne (history : History directory attempts store) {entry : Entry}
    (different : entry.key ≠ key) (tool : String) :
    directory.loadOn key tool (directory.storeOn entry store).2 = directory.loadOn key tool store :=
  history.loadOn_congr (history.store entry) (file_storeOn_iff different) tool

theorem inspectOn_of_ne (history : History directory attempts store) {entry : Entry}
    (different : entry.key ≠ key) :
    directory.inspectOn key (directory.storeOn entry store).2 = directory.inspectOn key store := by
  refine Option.ext fun info => ?_
  simp only [Directory.inspectOn_eq_some_iff, (history.store entry).read_eq_ok_iff,
    history.read_eq_ok_iff, file_storeOn_iff different]

/-- The file of a stored entry has the entry in it and nothing else. -/
theorem read_storeOn (history : History directory attempts store) {entry : Entry} {path : String}
    (stored : (directory.storeOn entry store).1 = .ok path) :
    (directory.storeOn entry store).2.read (directory.entryPath entry.key) =
      .ok (entry.header.spelling ++ Text.utf8 entry.output) := by
  obtain ⟨read, whole, encoded⟩ :=
    (history.store entry).read_of_succeeded latest?_call (succeeded_call stored)
  rw [read, Entry.written, encoded, (Entry.encode_eq_ok_iff.1 encoded).2]
  rfl

/-- After calls that succeeded, a directory has for every key what the last call for it stored: it is
loaded for that call's tool version, and its header is told.  A call changes nothing for other keys, and
nothing of what stood in its file is left. -/
theorem behaves_as_map (history : History directory attempts store)
    (succeeded : ∀ attempt ∈ attempts, attempt.Succeeded) (key : Digest) :
    (∀ tool output, directory.loadOn key tool store = some output ↔
      ∃ last, latest? key attempts = some last ∧ last.entry.tool = tool ∧
        last.entry.output = output) ∧
    (∀ info, directory.inspectOn key store = some info ↔
      ∃ last, latest? key attempts = some last ∧
        info = ⟨directory.entryPath key,
          ⟨1, last.entry.tool, key, (Text.utf8 last.entry.output).length⟩⟩) ∧
    ((directory.inspectOn key store).isSome ↔ ∃ attempt ∈ attempts, attempt.entry.key = key) ∧
    (∀ entry, entry.key ≠ key →
      (∀ tool, directory.loadOn key tool (directory.storeOn entry store).2 =
        directory.loadOn key tool store) ∧
      directory.inspectOn key (directory.storeOn entry store).2 = directory.inspectOn key store) ∧
    ∀ entry path, (directory.storeOn entry store).1 = .ok path →
      (directory.storeOn entry store).2.read (directory.entryPath entry.key) =
        .ok (entry.header.spelling ++ Text.utf8 entry.output) := by
  -- The third part follows from the second: something is told when some call was for the key.
  have told (info : Info) : directory.inspectOn key store = some info ↔
      ∃ last, latest? key attempts = some last ∧
        info = ⟨directory.entryPath key,
          ⟨1, last.entry.tool, key, (Text.utf8 last.entry.output).length⟩⟩ := by
    rw [history.inspectOn_eq_some_iff succeeded]
    constructor
    · rintro ⟨last, found, rfl⟩
      obtain rfl := key_of_latest? found
      exact ⟨last, found, rfl⟩
    · rintro ⟨last, found, rfl⟩
      obtain rfl := key_of_latest? found
      exact ⟨last, found, rfl⟩
  refine ⟨fun tool output => ?_, told, ?_, fun entry different => ?_, fun entry path stored => ?_⟩
  · constructor
    · intro loaded
      obtain ⟨last, found, same⟩ := history.latest?_of_loadOn loaded
      rw [successes_eq_self succeeded] at found
      exact ⟨last, found, congrArg Entry.tool same, congrArg Entry.output same⟩
    · rintro ⟨last, found, rfl, rfl⟩
      exact history.loadOn_of_latest? found (succeeded last (mem_of_latest? found))
  · simp only [Option.isSome_iff_exists, told]
    constructor
    · rintro ⟨_, last, found, -⟩
      exact ⟨last, mem_of_latest? found, key_of_latest? found⟩
    · rintro ⟨attempt, member, same⟩
      have some : (latest? key attempts).isSome := by
        rw [latest?, List.find?_isSome]
        exact ⟨attempt, member, by simpa using same⟩
      obtain ⟨last, found⟩ := Option.isSome_iff_exists.1 some
      exact ⟨_, last, found, rfl⟩
  · exact ⟨history.loadOn_of_ne different, history.inspectOn_of_ne different⟩
  · exact history.read_storeOn stored

theorem start_empty : History ⟨"cache"⟩ [] Store.empty := .start fun location content inside => by
  have place : Path.place "cache" = ["cache"] := rfl
  rw [place] at inside
  obtain ⟨name, rest, rfl, -⟩ := inside
  exact nofun

theorem clear_empty : Clear ⟨"cache"⟩ Store.empty where
  created := rfl
  sound := fault?_entryPath _ (by decide) (by decide)
  free key := by
    have place : Path.place "cache" = ["cache"] := rfl
    obtain ⟨name, rest, inside, -⟩ := inside_location ⟨"cache"⟩ key
    rw [inside, place]
    exact nofun
  unbarred _ := rfl

def otherKey : Digest :=
  ⟨List.replicate 30 0 ++ [0x0A, 0x07], rfl⟩

/-- The bytes of the two keys differ in zeros only, and the last output is shorter than the one that it
replaces. -/
theorem behaves_as_map_three_calls :
    let first := (storeOn ⟨"cache"⟩ sampleEntry Store.empty).2
    let second := (storeOn ⟨"cache"⟩ ⟨"1.0é", otherKey, "other"⟩ first).2
    let store := (storeOn ⟨"cache"⟩ ⟨"2", sampleKey, "b"⟩ second).2
    loadOn ⟨"cache"⟩ sampleKey "2" store = some "b" ∧
      inspectOn ⟨"cache"⟩ sampleKey store =
        some ⟨entryPath ⟨"cache"⟩ sampleKey, ⟨1, "2", sampleKey, 1⟩⟩ ∧
      loadOn ⟨"cache"⟩ otherKey "1.0é" store = some "other" := by
  intro first second store
  have history := ((start_empty.store sampleEntry).store ⟨"1.0é", otherKey, "other"⟩).store
    ⟨"2", sampleKey, "b"⟩
  -- There is nothing in the way of any of the calls.
  obtain ⟨storedFirst, clearFirst⟩ := clear_empty.storeOn
    (Entry.encode_of_short sampleEntry (by decide) (by decide))
  obtain ⟨storedSecond, clearSecond⟩ := clearFirst.storeOn
    (Entry.encode_of_short ⟨"1.0é", otherKey, "other"⟩ (by decide) (by decide))
  obtain ⟨storedThird, -⟩ := clearSecond.storeOn
    (Entry.encode_of_short ⟨"2", sampleKey, "b"⟩ (by decide) (by decide))
  have succeeded := List.forall_mem_cons.2 ⟨succeeded_call storedThird, List.forall_mem_cons.2
    ⟨succeeded_call storedSecond, List.forall_mem_singleton.2 (succeeded_call storedFirst)⟩⟩
  have map := history.behaves_as_map succeeded
  obtain ⟨loads, tells, -⟩ := map sampleKey
  obtain ⟨others, -⟩ := map otherKey
  refine ⟨(loads _ _).2 ?_, (tells _).2 ?_, (others _ _).2 ?_⟩
  · exact ⟨_, rfl, rfl, rfl⟩
  · exact ⟨_, rfl, rfl⟩
  · exact ⟨_, rfl, rfl, rfl⟩

end History

end StaticAtoms.Cache.Directory
