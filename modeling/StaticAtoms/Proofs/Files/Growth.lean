import StaticAtoms.Proofs.Files.Directories

/-!
# Files in a store that grows

When directories are added to a store, a file can still be read where it could be before, and a file
can still be opened unless one of the directories stands there: `read_of_kept` and
`destination_of_kept`.  Writing a file changes nothing but that file, in which it may leave a part of the
content only: `write_cases`.  Creating a directory adds directories on the way along its path only:
`directory_of_createDirAll`.  So it is in the way of no path that is `Path.Beside` the directory.
-/

namespace StaticAtoms

namespace Store

variable {store before after : Store} {path : String} {location : Location}

/-! ## Where walks end -/

/-- The end of a walk at a location that no walk goes through, where only a directory stands on the
way to it. -/
def targetAt (store : Store) (location : Location) : Target :=
  match store.node? location with
  | some node => .present location node
  | none => .vacant location

theorem location_targetAt (store : Store) (location : Location) :
    (store.targetAt location).location = location := by
  rw [targetAt]
  cases store.node? location <;> rfl

theorem walk_last {here : Location} {name : String} (moves : ¬ (name = "." ∨ name = ".."))
    (short : ¬ Path.isLongName name) :
    store.walk here [name] = .ok (store.targetAt (next here name)) := by
  rw [walk_cons, if_neg moves, if_neg short, targetAt]
  cases store.node? (next here name) with
  | none => rfl
  | some node => cases node <;> rfl

/-- A walk that does not end at a directory ends at the same location in every store that has all the
directories. -/
theorem KeepsDirectories.walk_eq_targetAt (kept : KeepsDirectories before after)
    {names : List String} {here : Location} {target : Target}
    (walked : before.walk here names = .ok target)
    (other : ∀ place, target ≠ .present place .directory) :
    after.walk here names = .ok (after.targetAt (names.foldl next here)) := by
  induction names generalizing here with
  | nil =>
    cases walked
    exact absurd rfl (other here)
  | cons name names ih =>
    rw [walk_cons] at walked
    by_cases still : name = "." ∨ name = ".."
    · rw [if_pos still] at walked
      rw [walk_of_passable (.inl still)]
      exact ih walked
    · rw [if_neg still] at walked
      split at walked
      next => cases walked
      next short =>
        split at walked
        -- The walk goes on through a directory, which the other store has, too.
        next stands =>
          have passable : after.Passable here name :=
            .inr ⟨Bool.eq_false_iff.2 short, kept _ stands⟩
          rw [walk_of_passable passable]
          exact ih walked
        -- The walk ends here, at a file or a free name.
        all_goals
          split at walked
          next last =>
            obtain rfl := List.isEmpty_iff.1 last
            exact walk_last still short
          next => cases walked

theorem walk_of_resolve {target : Target} (found : store.resolve path = .ok target) :
    Path.fault? path = none ∧ path.isEmpty = false ∧
      store.walk (Path.start path) (Path.parts path) = .ok target := by
  rw [resolve] at found
  split at found
  next => cases found
  next sound =>
    split at found
    next => cases found
    next filled => exact ⟨sound, Bool.eq_false_iff.2 filled, found⟩

theorem KeepsDirectories.resolve_eq_targetAt (kept : KeepsDirectories before after)
    {target : Target} (found : before.resolve path = .ok target)
    (other : ∀ place, target ≠ .present place .directory) :
    after.resolve path = .ok (after.targetAt (Path.place path)) := by
  obtain ⟨sound, filled, walked⟩ := walk_of_resolve found
  rw [resolve, sound, filled]
  exact kept.walk_eq_targetAt walked other

/-! ## Reading and writing -/

theorem resolve_of_read {content : Bytes} (read : store.read path = .ok content) :
    Path.endsInSlash path = false ∧
      ∃ location, store.resolve path = .ok (.present location (.file content)) := by
  rw [Store.read] at read
  split at read
  next => cases read
  next => cases read
  next => cases read
  next resolved =>
    split at read
    next => cases read
    next noSlash =>
      cases read
      exact ⟨Bool.eq_false_iff.2 noSlash, _, resolved⟩

theorem node?_of_read {content : Bytes} (read : store.read path = .ok content) :
    store.node? (Path.place path) = some (.file content) := by
  obtain ⟨-, location, resolved⟩ := resolve_of_read read
  have ends := (Grows.refl store).directories.resolve_eq_targetAt resolved nofun
  rw [resolved, targetAt] at ends
  split at ends
  next found =>
    cases ends
    exact found
  next => cases ends

theorem read_of_kept {content : Bytes} (read : before.read path = .ok content)
    (kept : KeepsDirectories before after)
    (stands : after.node? (Path.place path) = some (.file content)) :
    after.read path = .ok content := by
  obtain ⟨noSlash, location, resolved⟩ := resolve_of_read read
  have ends := kept.resolve_eq_targetAt resolved nofun
  rw [targetAt, stands] at ends
  rw [Store.read, ends, noSlash]
  rfl

theorem destination_eq_ok_iff : store.destination path = .ok location ↔
    Path.endsInSlash path = false ∧ store.closed? location = none ∧
      ∃ target, store.resolve path = .ok target ∧ target.location = location ∧
        ∀ place, target ≠ .present place .directory := by
  constructor
  · intro found
    rw [destination] at found
    split at found
    next => cases found
    next =>
      rw [writable] at found
      split at found
      next => split at found <;> cases found
      next noSlash =>
        refine ⟨Bool.eq_false_iff.2 noSlash, ?_⟩
        split at found
        next => cases found
        next => cases found
        all_goals
          next resolved =>
            obtain ⟨rfl, openable⟩ := opened_eq_ok_iff.1 found
            exact ⟨openable, _, resolved, rfl, by simp⟩
  · -- A path that is resolved has no fault of its own, so only the target decides.
    rintro ⟨noSlash, openable, target, resolved, rfl, other⟩
    rw [destination, (walk_of_resolve resolved).1]
    show store.writable path = _
    rw [writable, noSlash, resolved]
    cases target with
    | vacant location => exact opened_eq_ok_iff.2 ⟨rfl, openable⟩
    | present location node =>
      cases node with
      | file content => exact opened_eq_ok_iff.2 ⟨rfl, openable⟩
      | directory => exact absurd rfl (other location)

theorem eq_place_of_destination (found : store.destination path = .ok location) :
    location = Path.place path ∧ store.node? location ≠ some .directory := by
  obtain ⟨-, -, target, resolved, rfl, other⟩ := destination_eq_ok_iff.1 found
  have ends := (Grows.refl store).directories.resolve_eq_targetAt resolved other
  cases resolved.symm.trans ends
  rw [location_targetAt]
  refine ⟨rfl, fun stands => other (Path.place path) ?_⟩
  rw [targetAt, stands]

/-- What could be opened can still be opened unless a directory stands there. -/
theorem destination_of_kept (found : before.destination path = .ok location)
    (kept : KeepsDirectories before after) (same : after.barriers = before.barriers)
    (free : after.node? location ≠ some .directory) : after.destination path = .ok location := by
  obtain ⟨rfl, -⟩ := eq_place_of_destination found
  obtain ⟨noSlash, openable, target, resolved, -, other⟩ := destination_eq_ok_iff.1 found
  refine destination_eq_ok_iff.2 ⟨noSlash, ?_, _, kept.resolve_eq_targetAt resolved other,
    location_targetAt _ _, fun place ends => free ?_⟩
  · rw [closed?_congr same]
    exact openable
  · rw [targetAt] at ends
    split at ends
    next stands =>
      cases ends
      exact stands
    next => cases ends

theorem destination_of_leads (leads : store.Leads path) (sound : Path.fault? path = none)
    (filled : path.isEmpty = false) (noSlash : Path.endsInSlash path = false) :
    store.destination path = .error .isDirectory := by
  have resolved : store.resolve path = .ok (.present (Path.place path) .directory) := by
    rw [resolve, sound, filled]
    exact leads
  rw [destination, sound, writable, noSlash, resolved]
  rfl

/-- What was put into a file can be read, except at a location where the same stands always. -/
theorem read_put {content : Bytes} (found : store.destination path = .ok location)
    (unfixed : fixed? location = none) :
    (store.put location (.file content)).read path = .ok content := by
  obtain ⟨rfl, free⟩ := eq_place_of_destination found
  obtain ⟨noSlash, -, target, resolved, -, other⟩ := destination_eq_ok_iff.1 found
  have stands : (store.put (Path.place path) (.file content)).node? (Path.place path) =
      some (.file content) := by
    rw [node?_put, if_pos rfl, unfixed]
    rfl
  have ends := (KeepsDirectories.put free (.file content)).resolve_eq_targetAt resolved other
  rw [targetAt, stands] at ends
  rw [Store.read, ends, noSlash]
  rfl

/-! ## Writing files -/

/-- A file that is written is not opened, or it has all of the content in it afterwards, or a proper
part; and nothing but this file changes. -/
theorem write_cases (store : Store) (path : String) (content : Bytes) :
    (∃ cause, store.destination path = .error cause ∧
      store.write path content = (store, .error cause)) ∨
    ∃ location part, store.destination path = .ok location ∧ part <+: content ∧
      (store.write path content).1 = store.put location (.file part) ∧
      ((store.write path content).2 = .ok () ↔ part = content) := by
  rw [Store.write]
  cases found : store.destination path with
  | error cause => exact .inl ⟨cause, rfl, rfl⟩
  | ok location =>
    obtain ⟨part, begins, put, whole⟩ := store.fill_eq_put location content
    exact .inr ⟨location, part, rfl, begins, put, whole⟩

theorem write_of_destination (found : store.destination path = .ok location) (content : Bytes) :
    store.write path content = store.fill location content := by
  rw [Store.write, found]

theorem destination_of_write {content : Bytes} (written : (store.write path content).2 = .ok ()) :
    ∃ location, store.destination path = .ok location ∧
      (store.write path content).1 = store.put location (.file content) := by
  obtain ⟨cause, -, failed⟩ | ⟨location, part, found, -, put, whole⟩ :=
    store.write_cases path content
  · rw [failed] at written
    cases written
  · obtain rfl := whole.1 written
    exact ⟨location, found, put⟩

/-- What was written can be read, except at a location where the same stands always. -/
theorem read_write {content : Bytes} (written : (store.write path content).2 = .ok ())
    (unfixed : fixed? (Path.place path) = none) :
    (store.write path content).1.read path = .ok content := by
  obtain ⟨location, found, put⟩ := destination_of_write written
  obtain ⟨rfl, -⟩ := eq_place_of_destination found
  rw [put]
  exact read_put found unfixed

/-- Writing a file changes no other node. -/
theorem node?_write_of_ne (different : location ≠ Path.place path) (content : Bytes) :
    (store.write path content).1.node? location = store.node? location := by
  obtain ⟨cause, -, failed⟩ | ⟨other, part, found, -, put, -⟩ := store.write_cases path content
  · rw [failed]
  · obtain ⟨rfl, -⟩ := eq_place_of_destination found
    rw [put, node?_put, if_neg different]

theorem keepsDirectories_write (store : Store) (path : String) (content : Bytes) :
    KeepsDirectories store (store.write path content).1 := by
  obtain ⟨cause, -, failed⟩ | ⟨location, part, found, -, put, -⟩ := store.write_cases path content
  · rw [failed]
    exact (Grows.refl store).directories
  · rw [put]
    exact KeepsDirectories.put (eq_place_of_destination found).2 _

/-! ## Creating directories -/

theorem visits_dropLast_subset (here : Location) (names : List String) :
    visits here names.dropLast ⊆ visits here names := by
  induction names generalizing here with
  | nil => exact List.Subset.refl _
  | cons name names ih =>
    cases names with
    | nil => simp [visits]
    | cons second names => exact List.cons_subset_cons here (ih (next here name))

/-- A dot leads nowhere. -/
theorem visits_filter_subset (here : Location) (names : List String) :
    visits here (names.filter fun name => name ≠ ".") ⊆ visits here names := by
  induction names generalizing here with
  | nil => exact List.Subset.refl _
  | cons name names ih =>
    by_cases dot : name = "."
    · have stays : next here name = here := by rw [next, if_pos dot]
      have behind := ih (next here name)
      rw [stays] at behind
      rw [List.filter_cons_of_neg (by simpa using dot), visits, stays]
      exact List.subset_cons_of_subset here behind
    · rw [List.filter_cons_of_pos (by simpa using dot)]
      exact List.cons_subset_cons here (ih (next here name))

theorem directory_of_createFrom {made : Bool} {here : Location} {names : List String}
    (stands : (store.createFrom made here names).1.node? location = some .directory) :
    store.node? location = some .directory ∨ location ∈ visits here names := by
  induction names generalizing store made here with
  | nil => exact .inl stands
  | cons name names ih =>
    -- What is created behind the next location is on the way, too.
    have behind {middle : Store} {again : Bool}
        (created : (middle.createFrom again (next here name) names).1.node? location =
          some .directory) :
        middle.node? location = some .directory ∨ location ∈ visits here (name :: names) :=
      (ih created).imp_right (List.mem_cons_of_mem here)
    rw [createFrom_cons] at stands
    split at stands
    next => exact behind stands
    next =>
      split at stands
      next => exact .inl stands
      next =>
        split at stands
        next => exact behind stands
        next => exact .inl stands
        next =>
          split at stands
          next => exact .inl stands
          next =>
            obtain put | member := behind stands
            · rw [node?_put] at put
              split at put
              next same =>
                rw [same]
                exact .inr (List.mem_cons_of_mem here (mem_visits_self _ _))
              next => exact .inl put
            · exact .inr member

/-- A directory that stands after another one was created stood there before, or is on the way. -/
theorem directory_of_createDirAll
    (stands : (store.createDirAll path).1.node? location = some .directory) :
    store.node? location = some .directory ∨
      location ∈ visits (Path.start path) (Path.parts path) := by
  rw [createDirAll] at stands
  split at stands
  next => exact .inl stands
  next =>
    split at stands
    next =>
      -- Nothing is created but what is on the way to the last name.
      have created : (store.findDir path).1 = store ∨
          (store.findDir path).1 =
            (store.createFrom false (Path.start path) (Path.steps path).dropLast).1 := by
        rw [findDir]
        split
        next =>
          split
          next prepared made =>
            rw [made]
            exact .inr rfl
          next prepared failure made =>
            rw [made]
            exact .inr rfl
        next => exact .inl rfl
      obtain same | made := created
      · rw [same] at stands
        exact .inl stands
      · rw [made] at stands
        refine (directory_of_createFrom stands).imp_right fun member => ?_
        exact visits_filter_subset _ _ (visits_dropLast_subset _ _ member)
    next => exact directory_of_createFrom stands

end Store

/-! ## Paths beside a directory -/

namespace Path

/-- Whether a path names neither the directory of another path, nor a directory on its way, nor
anything in the directory. -/
structure Beside (directory path : String) : Prop where
  notOnTheWay : place path ∉ Store.visits (start directory) (parts directory)
  notInside : ¬ Store.Inside (place directory) (place path)

theorem beside_iff {directory path : String} : Beside directory path ↔
    place path ∉ Store.visits (start directory) (parts directory) ∧
      ¬ Store.Inside (place directory) (place path) :=
  ⟨fun beside => ⟨beside.notOnTheWay, beside.notInside⟩, fun ⟨notOnTheWay, notInside⟩ =>
    ⟨notOnTheWay, notInside⟩⟩

instance (directory path : String) : Decidable (Beside directory path) :=
  decidable_of_iff _ beside_iff.symm

end Path

end StaticAtoms
