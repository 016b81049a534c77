import StaticAtoms.Cache.Directory
import StaticAtoms.Proofs.Cache.Contents
import StaticAtoms.Proofs.Files.Growth
import StaticAtoms.Proofs.Text.Hex

/-!
# Cache directories on a store

`loadOn`, `inspectOn` and `storeOn` carry out what a cache directory can do on a store of files.

* Files are read for what they begin with, whatever stands in them: `reads_exactly`.
* Storing leaves what is written of an entry in the entry's file: `storeOn_eq`.  Other files stay as
  they are: `leaveOn_of_ok`.
* A file with a part of that is not read: `interrupted_not_loaded`.
-/

namespace StaticAtoms.Cache.Directory

open Store

variable {directory : Directory} {key : Digest} {content : Bytes} {store after : Store}

/-! ## Names of files -/

def entryName (key : Digest) : String :=
  s!"{key.hex}.atc"

theorem utf8ByteSize_entryName (key : Digest) : (entryName key).utf8ByteSize = 68 := by
  show (key.hex ++ ".atc").utf8ByteSize = 68
  rw [String.utf8ByteSize_append, Digest.hex, Hex.utf8ByteSize_ofBytes, key.length_bytes]
  rfl

theorem isLongName_entryName (key : Digest) : Path.isLongName (entryName key) = false := by
  rw [Path.isLongName, utf8ByteSize_entryName]
  rfl

theorem entryName_injective {left right : Digest} (same : entryName left = entryName right) :
    left = right := by
  have texts : left.hex ++ ".atc" = right.hex ++ ".atc" := same
  have digits : left.hex = right.hex := by
    rw [← String.toList_inj, String.toList_append, String.toList_append] at texts
    exact String.toList_inj.1 (List.append_cancel_right texts)
  cases left
  cases right
  cases Hex.ofBytes_injective digits
  rfl

theorem entryName_ne {name : String} (other : name.utf8ByteSize ≠ 68) : entryName key ≠ name := by
  rintro rfl
  exact other (utf8ByteSize_entryName key)

theorem not_mem_entryName {c : Char} (other : ∀ digit : Fin 16, c ≠ Nat.digitChar digit)
    (behind : c ∉ ".atc".toList) (key : Digest) : c ∉ (entryName key).toList := by
  have letters : (entryName key).toList =
      (key.bytes.flatMap fun byte => Hex.fixed 2 byte.toNat) ++ ".atc".toList := by
    show (key.hex ++ ".atc").toList = _
    simp [Digest.hex, Hex.ofBytes]
  rw [letters, List.mem_append, List.mem_flatMap, not_or]
  refine ⟨?_, behind⟩
  rintro ⟨byte, -, member⟩
  exact Hex.not_mem_fixed other 2 byte.toNat member

theorem isName_entryName (key : Digest) : Path.IsName (entryName key) where
  noSlash := not_mem_entryName (by decide) (by decide) key
  notHere := entryName_ne (by decide)
  notAbove := entryName_ne (by decide)
  notEmpty := entryName_ne (by decide)

/-- The files of a directory have paths without a fault, unless the directory's path is too long. -/
theorem fault?_entryPath (directory : Directory) (noNul : '\x00' ∉ directory.path.toList)
    (short : directory.path.utf8ByteSize < 4000) (key : Digest) :
    Path.fault? (directory.entryPath key) = none := by
  have size := utf8ByteSize_entryName key
  have noNulInName := not_mem_entryName (c := '\x00') (by decide) (by decide) key
  have whole : directory.path.utf8ByteSize + (entryName key).utf8ByteSize < 4095 := by omega
  exact Path.fault?_join noNul noNulInName whole

/-- Where the file of a key stands. -/
def location (directory : Directory) (key : Digest) : Location :=
  Path.place directory.path ++ [entryName key]

theorem location_injective {other : Digest}
    (same : directory.location key = directory.location other) : key = other :=
  entryName_injective (List.singleton_inj.1 (List.append_cancel_left same))

theorem inside_location (directory : Directory) (key : Digest) :
    Inside (Path.place directory.path) (directory.location key) :=
  inside_name (isName_entryName key)

theorem fixed?_location (directory : Directory) (key : Digest) :
    fixed? (directory.location key) = none := by
  have last : (directory.location key).getLast? = some (entryName key) := List.getLast?_concat
  -- No name of what is fixed is as long as the name of an entry.
  have other (fixed : Location) (name : String) (ends : fixed.getLast? = some name)
      (size : name.utf8ByteSize ≠ 68) : directory.location key ≠ fixed := by
    intro same
    rw [same, ends] at last
    exact entryName_ne size (Option.some.inj last).symm
  have around : isAround (directory.location key) = false := by
    have notAbove := (isName_entryName key).notAbove
    simp [isAround, location, notAbove]
  have root := other ["/"] "/" rfl (by decide)
  have dev := other ["/", "dev"] "dev" rfl (by decide)
  have tmp := other ["/", "tmp"] "tmp" rfl (by decide)
  have devices : directory.location key ∉ Store.devices := by
    intro member
    obtain ⟨name, listed, same⟩ := List.mem_map.1 member
    have size : ∀ name ∈ ["null", "zero", "full", "random", "urandom", "stdin", "stdout", "stderr"],
        name.utf8ByteSize ≠ 68 := by decide
    exact other _ name rfl (size name listed) same.symm
  simp [fixed?, around, root, dev, tmp, devices]

/-- What a store lists for a key behind the directory stands at the key's location. -/
theorem node?_location (directory : Directory) (key : Digest) (node : Node)
    (rest : List (Location × Node)) (barriers : Location → Option Barrier) :
    Store.node? ⟨(Path.place directory.path, .directory) :: (directory.location key, node) :: rest,
      barriers⟩ (directory.location key) = some node := by
  have below : (directory.location key == Path.place directory.path) = false := by
    simp [location]
  simp [node?, fixed?_location, List.lookup_cons, below]

/-- No device has the name of an entry, so that the barriers of the store decide. -/
theorem barrier?_location (directory : Directory) (key : Digest) (store : Store) :
    store.barrier? (directory.location key) = store.barriers (directory.location key) := by
  rw [barrier?, if_neg]
  intro same
  have last : (directory.location key).getLast? = some (entryName key) := List.getLast?_concat
  rw [same] at last
  exact entryName_ne (by decide) (Option.some.inj last).symm

/-- The file of a key can be read if it is there and the directory's path leads to it. -/
theorem read_entryPath_eq_ok_iff : store.read (directory.entryPath key) = .ok content ↔
    store.Leads directory.path ∧ Path.fault? (directory.entryPath key) = none ∧
      store.node? (directory.location key) = some (.file content) :=
  read_join_eq_ok_iff (isName_entryName key) (isLongName_entryName key)

/-- The file of a key can be opened for writing in the directory unless a directory stands there, or
it is closed. -/
theorem destination_entryPath_eq_ok_iff {found : Location} (leads : store.Leads directory.path) :
    store.destination (directory.entryPath key) = .ok found ↔
      found = directory.location key ∧ Path.fault? (directory.entryPath key) = none ∧
        store.node? (directory.location key) ≠ some .directory ∧
        store.closed? (directory.location key) = none :=
  destination_join_eq_ok_iff leads (isName_entryName key) (isLongName_entryName key)

/-! ## Loading -/

/-- The output that a directory has for a key and a tool version. -/
def loadOn (directory : Directory) (key : Digest) (tool : String) (store : Store) : Option String :=
  ((directory.load key tool : StateM Store _) store).1.2

/-- What a directory tells about the entry for a key. -/
def inspectOn (directory : Directory) (key : Digest) (store : Store) : Option Info :=
  ((directory.inspect key : StateM Store _) store).1.2

theorem loadOn_eq (directory : Directory) (key : Digest) (tool : String) (store : Store) :
    directory.loadOn key tool store =
      (store.read (directory.entryPath key)).toOption.bind fun content =>
        (Entry.load content key tool).toOption := by
  simp only [loadOn, load, bind, StateT.bind, MonadFiles.readFile]
  cases store.read (directory.entryPath key) with
  | error failure => rfl
  | ok content =>
    show _ = (Entry.load content key tool).toOption
    dsimp only
    cases Entry.load content key tool with
    | error miss => rfl
    | ok output => rfl

theorem inspectOn_eq (directory : Directory) (key : Digest) (store : Store) :
    directory.inspectOn key store =
      (store.read (directory.entryPath key)).toOption.bind fun content =>
        (Header.read content).toOption.map fun (header, _) => ⟨directory.entryPath key, header⟩ := by
  simp only [inspectOn, inspect, bind, StateT.bind, MonadFiles.readFile]
  cases store.read (directory.entryPath key) with
  | error failure => rfl
  | ok content =>
    show _ = (Header.read content).toOption.map fun (header, _) =>
      (⟨directory.entryPath key, header⟩ : Info)
    dsimp only
    cases Header.read content with
    | error miss => rfl
    | ok fields => rfl

theorem toOption_eq_some_iff {ε α : Type} {result : Except ε α} {value : α} :
    result.toOption = some value ↔ result = .ok value := by
  cases result <;> simp [Except.toOption]

theorem loadOn_eq_some_iff {tool output : String} : directory.loadOn key tool store = some output ↔
    ∃ content, store.read (directory.entryPath key) = .ok content ∧
      Entry.Opens ⟨tool, key, output⟩ content := by
  simp only [loadOn_eq, Option.bind_eq_some_iff, toOption_eq_some_iff, Entry.load_eq_ok_iff]

theorem inspectOn_eq_some_iff {info : Info} : directory.inspectOn key store = some info ↔
    info.path = directory.entryPath key ∧
      ∃ content, store.read (directory.entryPath key) = .ok content ∧ info.header.Opens content := by
  simp only [inspectOn_eq, Option.bind_eq_some_iff, Option.map_eq_some_iff, toOption_eq_some_iff,
    Header.opens_iff, Prod.exists]
  constructor
  · rintro ⟨content, found, header, rest, read, rfl⟩
    exact ⟨rfl, content, found, rest, read⟩
  · rintro ⟨path, content, found, rest, read⟩
    exact ⟨content, found, info.header, rest, read, by rw [← path]⟩

/-- An output is loaded from the files that begin with an entry for the key and the tool version, and a
header is told of the files that begin with one, whatever else stands in them.  What is told of a file
that an output is loaded from is the header of that output. -/
theorem reads_exactly (directory : Directory) (key : Digest) (store : Store) :
    (∀ tool output, directory.loadOn key tool store = some output ↔
      ∃ content, store.read (directory.entryPath key) = .ok content ∧
        Entry.Opens ⟨tool, key, output⟩ content) ∧
    (∀ info, directory.inspectOn key store = some info ↔
      info.path = directory.entryPath key ∧
        ∃ content, store.read (directory.entryPath key) = .ok content ∧
          info.header.Opens content) ∧
    ∀ tool output, directory.loadOn key tool store = some output →
      directory.inspectOn key store =
        some ⟨directory.entryPath key, ⟨1, tool, key, (Text.utf8 output).length⟩⟩ := by
  refine ⟨fun _ _ => loadOn_eq_some_iff, fun _ => inspectOn_eq_some_iff, ?_⟩
  intro tool output loaded
  obtain ⟨content, found, opens⟩ := loadOn_eq_some_iff.1 loaded
  exact inspectOn_eq_some_iff.2 ⟨rfl, content, found, opens.opens_header⟩

def sampleKey : Digest :=
  ⟨List.replicate 31 0 ++ [0xA7], rfl⟩

def sampleEntry : Entry :=
  ⟨"1.0é", sampleKey, "a\n"⟩

/-- A directory whose only file has the sample entry in it, and another byte behind it. -/
def sampleScene : Store :=
  .ofNodes [(["cache"], .directory),
    (location ⟨"cache"⟩ sampleKey, .file (sampleEntry.written ++ [0x58]))]

theorem read_sampleScene :
    sampleScene.read (entryPath ⟨"cache"⟩ sampleKey) = .ok (sampleEntry.written ++ [0x58]) := by
  have leads : sampleScene.Leads "cache" := by
    show sampleScene.walk _ _ = _
    rfl
  have place : Path.place "cache" = ["cache"] := by decide
  have stands := node?_location ⟨"cache"⟩ sampleKey (.file (sampleEntry.written ++ [0x58])) []
    fun _ => none
  rw [place] at stands
  exact read_entryPath_eq_ok_iff.2 ⟨leads, fault?_entryPath _ (by decide) (by decide) _, stands⟩

theorem opens_sampleScene : sampleEntry.Opens (sampleEntry.written ++ [0x58]) :=
  (Entry.opens_written_iff.2 ⟨rfl, _, rfl⟩).append [0x58]

/-- The byte behind the entry does not matter, and the version does. -/
theorem reads_exactly_sample :
    loadOn ⟨"cache"⟩ sampleKey "1.0é" sampleScene = some "a\n" ∧
      loadOn ⟨"cache"⟩ sampleKey "1.0" sampleScene = none ∧
      inspectOn ⟨"cache"⟩ sampleKey sampleScene =
        some ⟨entryPath ⟨"cache"⟩ sampleKey, ⟨1, "1.0é", sampleKey, 2⟩⟩ := by
  obtain ⟨loads, -, tells⟩ := reads_exactly ⟨"cache"⟩ sampleKey sampleScene
  have loaded := (loads "1.0é" "a\n").2 ⟨_, read_sampleScene, opens_sampleScene⟩
  refine ⟨loaded, ?_, tells _ _ loaded⟩
  cases other : loadOn ⟨"cache"⟩ sampleKey "1.0" sampleScene with
  | none => rfl
  | some output =>
    -- A file has one header, and so one version.
    have same := (tells _ _ loaded).symm.trans (tells _ _ other)
    simp at same

/-! ## Storing -/

/-- What storing an entry gives, and the store afterwards. -/
def storeOn (directory : Directory) (entry : Entry) (store : Store) :
    Except FileError String × Store :=
  (directory.store entry : StateM Store _) store

section Leaving

variable {m : Type → Type} [Monad m] [MonadFiles m]

/-- Creates a directory, and in it the file of a key with a content. -/
def leave (directory : Directory) (key : Digest) (content : Bytes) : m (Except FileError Unit) := do
  match ← MonadFiles.createDirAll directory.path with
  | .error failure => return .error failure
  | .ok () => MonadFiles.writeFile (directory.entryPath key) content

end Leaving

def leaveOn (directory : Directory) (key : Digest) (content : Bytes) (store : Store) :
    Except FileError Unit × Store :=
  (directory.leave key content : StateM Store _) store

theorem leaveOn_eq (directory : Directory) (key : Digest) (content : Bytes) (store : Store) :
    directory.leaveOn key content store =
      match store.createDirAll directory.path with
      | (prepared, .error failure) => (.error failure, prepared)
      | (prepared, .ok ()) =>
          ((prepared.write (directory.entryPath key) content).2,
            (prepared.write (directory.entryPath key) content).1) := by
  simp only [leaveOn, leave, bind, StateT.bind, MonadFiles.createDirAll, MonadFiles.writeFile]
  obtain ⟨prepared, result⟩ := store.createDirAll directory.path
  cases result <;> rfl

/-- Storing an entry leaves what is written of it, and fails behind that if a text was too long. -/
theorem storeOn_eq (directory : Directory) (entry : Entry) (store : Store) :
    directory.storeOn entry store =
      match directory.leaveOn entry.key entry.written store with
      | (.error failure, after) => (.error failure, after)
      | (.ok (), after) =>
          (match entry.encode with
          | .error _ => .error .tooLong
          | .ok _ => .ok (directory.entryPath entry.key), after) := by
  simp only [storeOn, Directory.store, leaveOn, leave, bind, StateT.bind, MonadFiles.createDirAll]
  obtain ⟨prepared, result⟩ := store.createDirAll directory.path
  cases result with
  | error failure => rfl
  | ok created =>
    cases encoded : entry.encode with
    | error front =>
      simp only [writeEntry, encoded, Entry.written, bind, StateT.bind, MonadFiles.writeFile]
      obtain ⟨after, result⟩ := prepared.write (directory.entryPath entry.key) front
      cases result <;> rfl
    | ok content =>
      simp only [writeEntry, encoded, Entry.written, StateT.bind, MonadFiles.writeFile]
      obtain ⟨after, result⟩ := prepared.write (directory.entryPath entry.key) content
      cases result <;> rfl

theorem storeOn_snd (directory : Directory) (entry : Entry) (store : Store) :
    (directory.storeOn entry store).2 =
      (directory.leaveOn entry.key entry.written store).2 := by
  rw [storeOn_eq]
  split <;> rename_i left <;> rw [left]

/-- Everything that leaving something for a key can come to.  The directory is created as far as that can
be done, and then the key's file is not opened, or all of the content is put into it, or a proper part. -/
theorem leaveOn_steps (directory : Directory) (key : Digest) (content : Bytes) (store : Store) :
    (∃ cause, directory.leaveOn key content store =
      (.error cause, (store.createDirAll directory.path).1)) ∨
    ∃ part, (store.createDirAll directory.path).1.Leads directory.path ∧
      (store.createDirAll directory.path).1.destination (directory.entryPath key) =
        .ok (directory.location key) ∧
      part <+: content ∧ ((directory.leaveOn key content store).1 = .ok () ↔ part = content) ∧
      (directory.leaveOn key content store).2 =
        (store.createDirAll directory.path).1.put (directory.location key) (.file part) := by
  rw [leaveOn_eq]
  cases created : store.createDirAll directory.path with
  | mk prepared result =>
    cases result with
    | error cause => exact .inl ⟨cause, rfl⟩
    | ok done =>
      have leads := createDirAll_leads created
      dsimp only
      obtain ⟨cause, -, failed⟩ | ⟨_, part, found, begins, put, whole⟩ :=
        prepared.write_cases (directory.entryPath key) content
      · rw [failed]
        exact .inl ⟨cause, rfl⟩
      · obtain ⟨rfl, -⟩ := (destination_entryPath_eq_ok_iff leads).1 found
        exact .inr ⟨part, leads, found, begins, whole, put⟩

/-- When something is to be left for a key, its file is not opened, and all files stay as they are; or all
of it can be read afterwards, or a proper part, and no other file has changed. -/
theorem leaveOn_cases (directory : Directory) (key : Digest) (content : Bytes) (store : Store) :
    (∃ cause, (directory.leaveOn key content store).1 = .error cause ∧
      Grows store (directory.leaveOn key content store).2) ∨
    ∃ part, part <+: content ∧
      ((directory.leaveOn key content store).1 = .ok () ↔ part = content) ∧
      (directory.leaveOn key content store).2.read (directory.entryPath key) = .ok part ∧
      ∀ other ≠ directory.location key, ∀ found,
        (directory.leaveOn key content store).2.node? other = some (.file found) ↔
          store.node? other = some (.file found) := by
  have grows := grows_createDirAll store directory.path
  obtain ⟨cause, failed⟩ | ⟨part, leads, found, begins, whole, put⟩ :=
    directory.leaveOn_steps key content store
  · rw [failed]
    exact .inl ⟨cause, rfl, grows⟩
  · obtain ⟨-, sound, free, -⟩ := (destination_entryPath_eq_ok_iff leads).1 found
    have kept := KeepsDirectories.put free (.file part)
    refine .inr ⟨part, begins, whole, ?_, fun other different found => ?_⟩
    · rw [put]
      refine read_entryPath_eq_ok_iff.2 ⟨leads.mono kept, sound, ?_⟩
      rw [node?_put, if_pos rfl, fixed?_location]
      rfl
    · rw [put, node?_put, if_neg different]
      exact grows.file_iff other found

/-- What was left for a key can be read, and no other file has changed. -/
theorem leaveOn_of_ok (left : directory.leaveOn key content store = (.ok (), after)) :
    after.read (directory.entryPath key) = .ok content ∧
      ∀ other ≠ directory.location key, ∀ found,
        after.node? other = some (.file found) ↔ store.node? other = some (.file found) := by
  have cases := directory.leaveOn_cases key content store
  rw [left] at cases
  obtain ⟨cause, failed, -⟩ | ⟨part, -, whole, read, others⟩ := cases
  · cases failed
  · obtain rfl := whole.1 rfl
    exact ⟨read, others⟩

/-- Whatever is written of an entry goes into the directory, if nothing is in the way there. -/
theorem leaveOn_of_created {prepared : Store}
    (created : store.createDirAll directory.path = (prepared, .ok ()))
    (sound : Path.fault? (directory.entryPath key) = none)
    (free : prepared.node? (directory.location key) ≠ some .directory)
    (unbarred : prepared.barriers (directory.location key) = none) (content : Bytes) :
    directory.leaveOn key content store =
      (.ok (), prepared.put (directory.location key) (.file content)) := by
  have barrier : prepared.barrier? (directory.location key) = none := by
    rw [barrier?_location]
    exact unbarred
  have openable : prepared.closed? (directory.location key) = none := by rw [closed?, barrier]
  have found := (destination_entryPath_eq_ok_iff (createDirAll_leads created)).2
    ⟨rfl, sound, free, openable⟩
  rw [leaveOn_eq, created]
  simp only [write_of_destination found, fill_of_free barrier]

theorem leaveOn_of_free (leads : store.Leads directory.path)
    (sound : Path.fault? (directory.entryPath key) = none)
    (free : store.node? (directory.location key) ≠ some .directory)
    (unbarred : store.barriers (directory.location key) = none) (content : Bytes) :
    directory.leaveOn key content store =
      (.ok (), store.put (directory.location key) (.file content)) :=
  leaveOn_of_created (createDirAll_of_leads leads (Path.fault?_of_join sound)) sound free unbarred
    content

/-- Storing an entry leaves all files as they are, and then it fails.  Or it changes the entry's file and
no other: if it succeeds, the entry is there, and if it fails, what is there is no entry for anything. -/
theorem storeOn_cases (directory : Directory) (entry : Entry) (store : Store) :
    (∃ cause, (directory.storeOn entry store).1 = .error cause ∧
      Grows store (directory.storeOn entry store).2) ∨
    ∃ found, (directory.storeOn entry store).2.read (directory.entryPath entry.key) = .ok found ∧
      (∀ other ≠ directory.location entry.key, ∀ content,
        (directory.storeOn entry store).2.node? other = some (.file content) ↔
          store.node? other = some (.file content)) ∧
      ((∃ whole, (directory.storeOn entry store).1 = .ok (directory.entryPath entry.key) ∧
          entry.encode = .ok whole ∧ found = entry.written) ∨
        ∃ cause, (directory.storeOn entry store).1 = .error cause ∧
          ∀ other : Entry, ¬ other.Opens found) := by
  rw [storeOn_snd]
  obtain ⟨cause, failed, grows⟩ | ⟨part, begins, whole, read, others⟩ :=
    directory.leaveOn_cases entry.key entry.written store
  · refine .inl ⟨cause, ?_, grows⟩
    rw [storeOn_eq]
    split
    next left =>
      rw [left] at failed
      cases failed
      rfl
    next left =>
      rw [left] at failed
      cases failed
  · refine .inr ⟨part, read, others, ?_⟩
    rw [storeOn_eq]
    split
    next cause after left =>
      rw [left] at whole
      have proper : part ≠ entry.written := fun same => nomatch whole.2 same
      exact .inr ⟨cause, rfl, fun other => Entry.not_opens_part begins proper⟩
    next left =>
      rw [left] at whole
      obtain rfl := whole.1 rfl
      cases encoded : entry.encode with
      | ok content => exact .inl ⟨content, rfl, rfl, rfl⟩
      | error front =>
        -- Of an entry that is too long only the front was written.
        refine .inr ⟨.tooLong, rfl, fun other opens => ?_⟩
        obtain ⟨-, content, again⟩ := Entry.opens_written_iff.1 opens
        cases encoded.symm.trans again

/-- Nothing can be left in a file that is closed, and all files stay as they are. -/
theorem leaveOn_of_closed {cause : FileError}
    (closed : store.barriers (directory.location key) = some (.closed cause)) (content : Bytes) :
    ∃ failure after, directory.leaveOn key content store = (.error failure, after) ∧
      Grows store after := by
  have grows := grows_createDirAll store directory.path
  obtain ⟨failure, failed⟩ | ⟨part, leads, found, -⟩ := directory.leaveOn_steps key content store
  · exact ⟨failure, _, failed, grows⟩
  · obtain ⟨-, -, -, openable⟩ := (destination_entryPath_eq_ok_iff leads).1 found
    rw [closed?, barrier?_location, grows.barriers, closed] at openable
    cases openable

/-- An entry whose file is closed cannot be stored, and all files stay as they are. -/
theorem storeOn_of_closed {entry : Entry} {cause : FileError}
    (closed : store.barriers (directory.location entry.key) = some (.closed cause)) :
    ∃ failure after, directory.storeOn entry store = (.error failure, after) ∧
      Grows store after := by
  obtain ⟨failure, after, left, grows⟩ := leaveOn_of_closed closed entry.written
  rw [storeOn_eq, left]
  exact ⟨failure, after, rfl, grows⟩

/-! ## Storing that is cut off -/

/-- Storing an entry leaves the bytes that are written of it.  When less of them is left, whatever stood
in the file before, no output is loaded for the key. -/
theorem interrupted_not_loaded {entry : Entry} {part : Bytes} (begins : part <+: entry.written)
    (proper : part ≠ entry.written) :
    (∀ directory store, (storeOn directory entry store).2 =
      (leaveOn directory entry.key entry.written store).2) ∧
    (∀ tool output, Entry.load part entry.key tool ≠ .ok output) ∧
    ∀ directory store after, leaveOn directory entry.key part store = (.ok (), after) →
      after.read (entryPath directory entry.key) = .ok part ∧
        ∀ tool, loadOn directory entry.key tool after = none := by
  refine ⟨fun directory => storeOn_snd directory entry, ?_, ?_⟩
  · intro tool output loaded
    exact Entry.not_opens_part begins proper (Entry.load_eq_ok_iff.1 loaded)
  · intro directory store after left
    obtain ⟨found, -⟩ := leaveOn_of_ok left
    refine ⟨found, fun tool => ?_⟩
    cases loaded : loadOn directory entry.key tool after with
    | none => rfl
    | some output =>
      obtain ⟨content, read, opens⟩ := loadOn_eq_some_iff.1 loaded
      cases found.symm.trans read
      exact absurd opens (Entry.not_opens_part begins proper)

/-- Storing the sample entry again, cut off in the length of the version, loses the entry. -/
theorem interrupted_not_loaded_sample :
    loadOn ⟨"cache"⟩ sampleKey "1.0é" sampleScene = some "a\n" ∧
      ∃ after, leaveOn ⟨"cache"⟩ sampleKey (sampleEntry.written.take 9) sampleScene =
          (.ok (), after) ∧
        after.read (entryPath ⟨"cache"⟩ sampleKey) = .ok (sampleEntry.written.take 9) ∧
        loadOn ⟨"cache"⟩ sampleKey "1.0é" after = none := by
  refine ⟨loadOn_eq_some_iff.2 ⟨_, read_sampleScene, opens_sampleScene⟩, ?_⟩
  have proper : sampleEntry.written.take 9 ≠ sampleEntry.written := by decide +kernel
  obtain ⟨-, -, misses⟩ := interrupted_not_loaded (List.take_prefix 9 _) proper
  obtain ⟨leads, sound, stands⟩ := read_entryPath_eq_ok_iff.1 read_sampleScene
  have free : sampleScene.node? (location ⟨"cache"⟩ sampleKey) ≠ some .directory := by
    rw [stands]
    exact nofun
  have left := leaveOn_of_free leads sound free rfl (sampleEntry.written.take 9)
  obtain ⟨found, none⟩ := misses ⟨"cache"⟩ sampleScene _ left
  exact ⟨_, left, found, none "1.0é"⟩

/-! ## A directory that is there -/

/-- Storing an entry in a directory that is there writes its file, or a part of it, or nothing. -/
theorem store_run_of_walk {place : Location}
    (leads : store.walk (Path.start directory.path) (Path.parts directory.path) =
      .ok (.present place .directory)) (entry : Entry) :
    ((directory.store entry : StateM Store _) store).2 = store ∨
      ∃ part, part <+: entry.written ∧ ((directory.store entry : StateM Store _) store).2 =
        store.put (place ++ [entryName entry.key]) (.file part) := by
  have left := storeOn_snd directory entry store
  rw [storeOn] at left
  rw [left, leaveOn_eq, createDirAll_of_walk leads]
  cases Path.fault? directory.path with
  | some failure => exact .inl rfl
  | none =>
    obtain ⟨cause, -, failed⟩ | ⟨_, part, found, begins, put, -⟩ :=
      store.write_cases (directory.entryPath entry.key) entry.written
    · exact .inl (congrArg Prod.fst failed)
    · obtain rfl := eq_of_destination_join leads (isName_entryName entry.key) found
      exact .inr ⟨part, begins, put⟩

end StaticAtoms.Cache.Directory
