import StaticAtoms.Proofs.Files.Walks

/-!
# Directories that are there

A path `Leads` to a directory when everything on its way is one.  Creating a directory makes its path
lead there and only adds directories: `createDirAll_leads` and `grows_createDirAll`.  A file in a
directory can be read when the directory's path leads there, and only then:
`read_join_eq_ok_iff`; it can be opened for writing unless a directory has its name or it is closed:
`destination_join_eq_ok_iff`.
-/

namespace StaticAtoms

/-- Where a path leads when there are directories on its way. -/
def Path.place (path : String) : Location :=
  (Path.parts path).foldl Store.next (Path.start path)

namespace Store

variable {store before after : Store}

/-! ## More directories -/

/-- Whether all directories of a store are in another one, too. -/
def KeepsDirectories (before after : Store) : Prop :=
  ∀ location, before.node? location = some .directory → after.node? location = some .directory

/-- Whether a store has the same files as another one, all its directories, and its barriers. -/
structure Grows (before after : Store) : Prop where
  file_iff : ∀ location content,
    after.node? location = some (.file content) ↔ before.node? location = some (.file content)
  directories : KeepsDirectories before after
  barriers : after.barriers = before.barriers

theorem Grows.refl (store : Store) : Grows store store :=
  ⟨fun _ _ => .rfl, fun _ => id, rfl⟩

theorem Grows.trans {middle : Store} (first : Grows before middle) (last : Grows middle after) :
    Grows before after where
  file_iff location content := (last.file_iff location content).trans (first.file_iff location content)
  directories location stands := last.directories location (first.directories location stands)
  barriers := last.barriers.trans first.barriers

theorem Grows.put_directory {location : Location} (free : store.node? location = none) :
    Grows store (store.put location .directory) := by
  have unfixed : fixed? location = none := by
    rw [node?, Option.orElse_eq_orElse, Option.orElse_eq_or, Option.or_eq_none_iff] at free
    exact free.1
  refine ⟨?_, ?_, rfl⟩
  · intro other content
    rw [node?_put, unfixed]
    by_cases same : other = location
    · rw [if_pos same, same, free]
      simp
    · rw [if_neg same]
  · intro other stands
    rw [node?_put, unfixed]
    by_cases same : other = location
    · rw [same, free] at stands
      cases stands
    · rw [if_neg same]
      exact stands

/-- What is put anywhere but over a directory is in the way of none. -/
theorem KeepsDirectories.put {location : Location} (free : store.node? location ≠ some .directory)
    (node : Node) : KeepsDirectories store (store.put location node) := by
  intro other stands
  have different : other ≠ location := fun same => free (same ▸ stands)
  rw [node?_put, if_neg different]
  exact stands

theorem Passable.mono {here : Location} {name : String} (passable : before.Passable here name)
    (kept : KeepsDirectories before after) : after.Passable here name := by
  obtain still | ⟨short, found⟩ := passable
  · exact .inl still
  · exact .inr ⟨short, kept _ found⟩

theorem KeepsDirectories.walk (kept : KeepsDirectories before after) {names : List String}
    {here place : Location} (leads : before.walk here names = .ok (.present place .directory)) :
    after.walk here names = .ok (.present place .directory) := by
  induction names generalizing here with
  | nil => exact leads
  | cons name names ih =>
    have passable := passable_of_walk leads
    rw [walk_of_passable passable] at leads
    rw [walk_of_passable (passable.mono kept)]
    exact ih leads

/-! ## Creating directories -/

theorem createFrom_cons (store : Store) (made : Bool) (here : Location) (name : String)
    (names : List String) :
    store.createFrom made here (name :: names) =
      if name = "." ∨ name = ".." then store.createFrom made (next here name) names
      else if Path.isLongName name then (store, .error .nameTooLong)
      else
        match store.node? (next here name) with
        | some .directory => store.createFrom made (next here name) names
        | some (.file _) =>
            (store, .error (if made || names.isEmpty then .occupied else .notDirectory))
        | none =>
            match store.closed? (next here name) with
            | some cause => (store, .error cause)
            | none =>
                (store.put (next here name) .directory).createFrom true (next here name) names := by
  by_cases dot : name = "."
  · rw [createFrom, next, if_pos dot, if_pos dot, if_pos (.inl dot)]
  · by_cases up : name = ".."
    · rw [createFrom, next, if_neg dot, if_pos up, if_neg dot, if_pos up, if_pos (.inr up)]
    · have moves : ¬ (name = "." ∨ name = "..") := not_or.2 ⟨dot, up⟩
      have there : next here name = here ++ [name] := by rw [next, if_neg dot, if_neg up]
      rw [if_neg moves, there, createFrom]
      exact (if_neg dot).trans (if_neg up)

theorem grows_createFrom (store : Store) (made : Bool) (here : Location) (names : List String) :
    Grows store (store.createFrom made here names).1 := by
  induction names generalizing store made here with
  | nil => exact .refl store
  | cons name names ih =>
    rw [createFrom_cons]
    split
    next => exact ih store made _
    next =>
      split
      next => exact .refl store
      next =>
        split
        next => exact ih store made _
        next => exact .refl store
        next free =>
          split
          next => exact .refl store
          next => exact (Grows.put_directory free).trans (ih _ true _)

/-- Where directories were created, they can be walked through. -/
theorem createFrom_leads {made : Bool} {here : Location} {names : List String}
    (created : store.createFrom made here names = (after, .ok ())) :
    after.walk here names = .ok (.present (names.foldl next here) .directory) := by
  induction names generalizing store made here with
  | nil =>
    cases created
    rfl
  | cons name names ih =>
    rw [createFrom_cons] at created
    -- What is passable in a store on the way is so in the store at the end.
    have kept (middle : Store) (again : Bool)
        (rest : middle.createFrom again (next here name) names = (after, .ok ())) :
        KeepsDirectories middle after := by
      have grows := grows_createFrom middle again (next here name) names
      rw [rest] at grows
      exact grows.directories
    split at created
    next still =>
      rw [walk_of_passable (.inl still)]
      exact ih created
    next =>
      split at created
      next => cases created
      next short =>
        have proper : Path.isLongName name = false := Bool.eq_false_iff.2 short
        split at created
        next found =>
          rw [walk_of_passable (.inr ⟨proper, kept store made created _ found⟩)]
          exact ih created
        next => cases created
        next free =>
          split at created
          next => cases created
          next =>
            have put : (store.put (next here name) .directory).node? (next here name) =
                some .directory := by
              rw [node?, Option.orElse_eq_orElse, Option.orElse_eq_or, Option.or_eq_none_iff] at free
              rw [node?_put, if_pos rfl, free.1]
              rfl
            rw [walk_of_passable (.inr ⟨proper, kept _ true created _ put⟩)]
            exact ih created

/-- Whether a path leads to a directory. -/
def Leads (store : Store) (path : String) : Prop :=
  store.walk (Path.start path) (Path.parts path) = .ok (.present (Path.place path) .directory)

theorem Leads.mono {path : String} (leads : before.Leads path)
    (kept : KeepsDirectories before after) : after.Leads path :=
  kept.walk leads

/-- A walk that goes on has come through a directory. -/
theorem walk_of_walk_append {names behind : List String} {here : Location} {name : String}
    {target : Target} (walked : store.walk here (names ++ name :: behind) = .ok target) :
    store.walk here names = .ok (.present (names.foldl next here) .directory) := by
  induction names generalizing here with
  | nil => rfl
  | cons first names ih =>
    have goesOn : (names ++ name :: behind).isEmpty = false := by simp
    rw [List.cons_append, walk_cons, goesOn] at walked
    rw [walk_cons, List.foldl_cons]
    split at walked
    next still =>
      rw [if_pos still]
      exact ih walked
    next moves =>
      rw [if_neg moves]
      split at walked
      next => cases walked
      next short =>
        rw [if_neg short]
        split at walked
        next => exact ih walked
        next => cases walked
        next => cases walked

theorem leads_of_endsInDot {path : String} {target : Target} (ends : Path.endsInDot path)
    (found : store.resolve path = .ok target) : store.Leads path := by
  rw [resolve] at found
  split at found
  next => cases found
  next =>
    split at found
    next => cases found
    next =>
      have last : (Path.parts path).getLast? = some "." := by simpa [Path.endsInDot] using ends
      obtain ⟨front, split⟩ := List.getLast?_eq_some_iff.1 last
      rw [split] at found
      have leads := walk_of_walk_append found
      rw [Leads, Path.place, split, walk_append ["."] leads, List.foldl_append]
      rfl

theorem grows_createDirAll (store : Store) (path : String) :
    Grows store (store.createDirAll path).1 := by
  rw [createDirAll]
  split
  next => exact .refl store
  next =>
    split
    next =>
      have grows := grows_createFrom store false (Path.start path) (Path.steps path).dropLast
      rw [findDir]
      split
      next =>
        split
        next prepared created =>
          rw [created] at grows
          exact grows
        next prepared _ created =>
          rw [created] at grows
          exact grows
      next => exact .refl store
    next => exact grows_createFrom store false _ _

/-- The path of a directory that was created leads there. -/
theorem createDirAll_leads {path : String} (created : store.createDirAll path = (after, .ok ())) :
    after.Leads path := by
  rw [createDirAll] at created
  split at created
  next => cases created
  next =>
    split at created
    next ends =>
      -- A path that ends in a dot was looked for, at once or after the directories around it were made.
      have leads (found : (after.resolve path).map (fun _ => ()) = .ok ()) : after.Leads path := by
        cases resolved : after.resolve path with
        | error failure =>
          rw [resolved] at found
          cases found
        | ok target => exact leads_of_endsInDot ends resolved
      simp only [findDir] at created
      split at created
      next =>
        split at created
        next =>
          obtain ⟨rfl, found⟩ := Prod.mk.inj created
          exact leads found
        next => cases created
      next =>
        obtain ⟨rfl, found⟩ := Prod.mk.inj created
        exact leads found
    next => exact createFrom_leads created

theorem createDirAll_of_leads {path : String} (leads : store.Leads path)
    (sound : Path.fault? path = none) : store.createDirAll path = (store, .ok ()) := by
  rw [createDirAll_of_walk leads, sound]

/-! ## Files in a directory -/

section Names

variable {path name : String}

theorem resolve_join_of_leads (leads : store.Leads path) (proper : Path.IsName name)
    (short : Path.isLongName name = false) (sound : Path.fault? (Path.join path name) = none) :
    store.resolve (Path.join path name) = .ok
      (match store.node? (Path.place path ++ [name]) with
      | some node => .present (Path.place path ++ [name]) node
      | none => .vacant (Path.place path ++ [name])) := by
  rw [resolve_join leads proper, sound, short]
  rfl

theorem leads_of_resolve_join {target : Target} (proper : Path.IsName name)
    (found : store.resolve (Path.join path name) = .ok target) :
    store.Leads path ∧ Path.fault? (Path.join path name) = none := by
  rw [resolve] at found
  split at found
  next => cases found
  next sound =>
    rw [Path.isEmpty_join path proper, Path.start_join path proper, Path.parts_join path proper]
      at found
    exact ⟨walk_of_walk_append found, sound⟩

/-- A file in a directory can be read when the directory's path leads there, and only then. -/
theorem read_join_eq_ok_iff {content : Bytes} (proper : Path.IsName name)
    (short : Path.isLongName name = false) :
    store.read (Path.join path name) = .ok content ↔
      store.Leads path ∧ Path.fault? (Path.join path name) = none ∧
        store.node? (Path.place path ++ [name]) = some (.file content) := by
  constructor
  · intro found
    have resolves : ∃ target, store.resolve (Path.join path name) = .ok target := by
      cases resolved : store.resolve (Path.join path name) with
      | error failure =>
        rw [Store.read, resolved] at found
        cases found
      | ok target => exact ⟨target, rfl⟩
    obtain ⟨target, resolved⟩ := resolves
    obtain ⟨leads, sound⟩ := leads_of_resolve_join proper resolved
    exact ⟨leads, sound, node?_of_read_join leads proper found⟩
  · rintro ⟨leads, sound, stands⟩
    rw [Store.read, resolve_join_of_leads leads proper short sound, stands,
      Path.endsInSlash_join path proper]
    rfl

/-- A file can be opened for writing in a directory unless a directory has its name, or it is closed. -/
theorem destination_join_eq_ok_iff {location : Location} (leads : store.Leads path)
    (proper : Path.IsName name) (short : Path.isLongName name = false) :
    store.destination (Path.join path name) = .ok location ↔
      location = Path.place path ++ [name] ∧ Path.fault? (Path.join path name) = none ∧
        store.node? (Path.place path ++ [name]) ≠ some .directory ∧
        store.closed? (Path.place path ++ [name]) = none := by
  rw [destination]
  cases sound : Path.fault? (Path.join path name) with
  | some failure => simp
  | none =>
    rw [writable, Path.endsInSlash_join path proper, resolve_join_of_leads leads proper short sound]
    cases store.node? (Path.place path ++ [name]) with
    | none => simp [opened_eq_ok_iff]
    | some node => cases node <;> simp [opened_eq_ok_iff]

end Names

end Store

end StaticAtoms
