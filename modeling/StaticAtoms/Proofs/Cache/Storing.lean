import StaticAtoms.Proofs.Cache.Directories

/-!
# What storing leaves alone, and when it succeeds

Storing an entry changes the entry's file and adds directories on the way to it, whether it succeeds or
fails: `spares_storeOn`.  So paths beside the cache directory are read and written as before.  It succeeds
as long as nothing is in the way of the files of the directory: `Clear.storeOn`.
-/

namespace StaticAtoms.Cache.Directory

open Store

variable {directory : Directory} {key : Digest} {before after store : Store} {path : String}

/-- Whether two stores differ only in the file of a key and in directories on the way to it, which are
added.  The same barriers are in the way of writing. -/
structure Spares (directory : Directory) (key : Digest) (before after : Store) : Prop where
  directories : KeepsDirectories before after
  added : ∀ location, after.node? location = some .directory →
    before.node? location = some .directory ∨
      location ∈ visits (Path.start directory.path) (Path.parts directory.path)
  file_iff : ∀ location ≠ directory.location key, ∀ content,
    after.node? location = some (.file content) ↔ before.node? location = some (.file content)
  barriers : after.barriers = before.barriers

theorem spares_createDirAll (directory : Directory) (key : Digest) (store : Store) :
    Spares directory key store (store.createDirAll directory.path).1 where
  directories := (grows_createDirAll store directory.path).directories
  added _ := directory_of_createDirAll
  file_iff location _ := (grows_createDirAll store directory.path).file_iff location
  barriers := (grows_createDirAll store directory.path).barriers

theorem Spares.put (spares : Spares directory key before after)
    (free : after.node? (directory.location key) ≠ some .directory) (content : Bytes) :
    Spares directory key before (after.put (directory.location key) (.file content)) where
  directories location stands :=
    KeepsDirectories.put free _ location (spares.directories location stands)
  added location stands := by
    rw [node?_put, fixed?_location] at stands
    split at stands
    next => cases stands
    next => exact spares.added location stands
  file_iff location different content := by
    rw [node?_put, if_neg different]
    exact spares.file_iff location different content
  barriers := spares.barriers

theorem spares_leaveOn (directory : Directory) (key : Digest) (content : Bytes) (store : Store) :
    Spares directory key store (directory.leaveOn key content store).2 := by
  have spares := spares_createDirAll directory key store
  obtain ⟨failure, failed⟩ | ⟨part, leads, found, -, -, put⟩ :=
    directory.leaveOn_steps key content store
  · rw [failed]
    exact spares
  · obtain ⟨-, -, free, -⟩ := (destination_entryPath_eq_ok_iff leads).1 found
    rw [put]
    exact spares.put free part

theorem spares_storeOn (directory : Directory) (entry : Entry) (store : Store) :
    Spares directory entry.key store (directory.storeOn entry store).2 := by
  rw [storeOn_snd]
  exact spares_leaveOn directory entry.key entry.written store

/-! ## Paths beside the directory -/

theorem Spares.destination_eq_ok (spares : Spares directory key before after)
    (beside : Path.Beside directory.path path) {location : Location}
    (found : before.destination path = .ok location) : after.destination path = .ok location := by
  refine destination_of_kept found spares.directories spares.barriers fun stands => ?_
  obtain ⟨rfl, free⟩ := eq_place_of_destination found
  obtain earlier | member := spares.added _ stands
  · exact free earlier
  · exact beside.notOnTheWay member

/-- Writing beside the directory comes to the same as before, if the file could be opened. -/
theorem Spares.write_snd_eq (spares : Spares directory key before after)
    (beside : Path.Beside directory.path path) {location : Location}
    (found : before.destination path = .ok location) (content : Bytes) :
    (after.write path content).2 = (before.write path content).2 := by
  rw [write_of_destination found, write_of_destination (spares.destination_eq_ok beside found),
    fill_snd_congr spares.barriers]

theorem place_ne_location (beside : Path.Beside directory.path path) (key : Digest) :
    Path.place path ≠ directory.location key :=
  fun same => beside.notInside (same ▸ directory.inside_location key)

theorem Spares.read_eq_ok (spares : Spares directory key before after)
    (beside : Path.Beside directory.path path) {content : Bytes}
    (read : before.read path = .ok content) : after.read path = .ok content := by
  refine read_of_kept read spares.directories ?_
  rw [spares.file_iff _ (place_ne_location beside key)]
  exact node?_of_read read

/-! ## The file of a key -/

theorem place_entryPath (directory : Directory) (key : Digest) :
    Path.place (directory.entryPath key) = directory.location key := by
  have proper := isName_entryName key
  have joined : directory.entryPath key = Path.join directory.path (entryName key) := rfl
  rw [joined, Path.place, Path.start_join _ proper, Path.parts_join _ proper, List.foldl_append]
  show next (Path.place directory.path) (entryName key) = _
  rw [next, if_neg proper.notHere, if_neg proper.notAbove]
  rfl

/-- Whether the directory can be created, or is there, and the file of a key can be written in it with
a content. -/
def Writable (directory : Directory) (key : Digest) (content : Bytes) (store : Store) : Prop :=
  (store.createDirAll directory.path).2 = .ok () ∧
    ((store.createDirAll directory.path).1.write (directory.entryPath key) content).2 = .ok ()

theorem leaveOn_eq_ok_iff {content : Bytes} :
    (directory.leaveOn key content store).1 = .ok () ↔ directory.Writable key content store := by
  rw [leaveOn_eq, Writable]
  obtain ⟨prepared, result⟩ := store.createDirAll directory.path
  cases result <;> simp

/-- Storing an entry leaves what is written of it in its file, and nothing of what stood there. -/
theorem Writable.read_storeOn {entry : Entry}
    (writable : directory.Writable entry.key entry.written store) :
    (directory.storeOn entry store).2.read (directory.entryPath entry.key) = .ok entry.written := by
  rw [storeOn_snd]
  have left : directory.leaveOn entry.key entry.written store =
      (.ok (), (directory.leaveOn entry.key entry.written store).2) :=
    Prod.ext (leaveOn_eq_ok_iff.2 writable) rfl
  exact (leaveOn_of_ok left).1

/-! ## Directories in which nothing is in the way -/

/-- Whether a directory is there or can be created, and no file that belongs into it has anything in its
way. -/
structure Clear (directory : Directory) (store : Store) : Prop where
  created : (store.createDirAll directory.path).2 = .ok ()
  sound : ∀ key, Path.fault? (directory.entryPath key) = none
  free : ∀ key, (store.createDirAll directory.path).1.node? (directory.location key) ≠
    some .directory
  unbarred : ∀ key, store.barriers (directory.location key) = none

theorem Clear.createDirAll_eq (clear : directory.Clear store) :
    store.createDirAll directory.path = ((store.createDirAll directory.path).1, .ok ()) :=
  Prod.ext rfl clear.created

theorem Clear.leaveOn_eq (clear : directory.Clear store) (key : Digest) (content : Bytes) :
    directory.leaveOn key content store =
      (.ok (), (store.createDirAll directory.path).1.put (directory.location key)
        (.file content)) := by
  have unbarred := clear.unbarred key
  rw [← (grows_createDirAll store directory.path).barriers] at unbarred
  exact leaveOn_of_created clear.createDirAll_eq (clear.sound key) (clear.free key) unbarred content

/-- Storing succeeds for every entry that is not too long, and afterwards there is still nothing in the
way. -/
theorem Clear.storeOn (clear : directory.Clear store) {entry : Entry} {content : Bytes}
    (encoded : entry.encode = .ok content) :
    (directory.storeOn entry store).1 = .ok (directory.entryPath entry.key) ∧
      directory.Clear (directory.storeOn entry store).2 := by
  have stored : directory.storeOn entry store = (.ok (directory.entryPath entry.key),
      (store.createDirAll directory.path).1.put (directory.location entry.key)
        (.file entry.written)) := by
    rw [storeOn_eq, clear.leaveOn_eq]
    simp only [encoded]
  have kept := KeepsDirectories.put (clear.free entry.key) (.file entry.written)
  -- The directory is there now, so that there is nothing to create.
  have again := createDirAll_of_leads ((createDirAll_leads clear.createDirAll_eq).mono kept)
    (Path.fault?_of_join (clear.sound entry.key))
  rw [stored]
  refine ⟨rfl, ⟨congrArg Prod.snd again, clear.sound, fun key => ?_, fun key => ?_⟩⟩
  · rw [again, node?_put]
    split
    · rw [fixed?_location]
      exact nofun
    · exact clear.free key
  · exact (congrFun (grows_createDirAll store directory.path).barriers _).trans (clear.unbarred key)

end StaticAtoms.Cache.Directory
