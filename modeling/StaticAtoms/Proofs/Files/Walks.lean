import StaticAtoms.Proofs.Files.Paths

/-!
# Walks beside a directory

A path that leads nowhere into a directory means the same in all stores that differ in that directory
only: `AgreeBeside.read_eq` and `AgreeBeside.write`.  A name in the directory is read and written right
there: `node?_of_read_join` and `eq_of_destination_join`.  A file that is written has all of the content
in it afterwards, or a proper part: `fill_cases`.
-/

namespace StaticAtoms

namespace Store

variable {store left right : Store} {place : Location}

/-! ## Nodes -/

theorem lookup_filter_ne {location other : Location} (different : other ≠ location)
    (entries : List (Location × Node)) :
    (entries.filter fun entry => entry.1 ≠ location).lookup other = entries.lookup other := by
  induction entries with
  | nil => rfl
  | cons entry entries ih =>
    obtain ⟨found, value⟩ := entry
    by_cases same : found = location
    · subst same
      have missed : (other == found) = false := beq_eq_false_iff_ne.2 different
      simpa [List.lookup_cons, missed] using ih
    · simp only [List.filter_cons, same, ne_eq, not_false_eq_true, decide_true, ↓reduceIte,
        List.lookup_cons, ih]

theorem node?_put (store : Store) (location : Location) (node : Node) (other : Location) :
    (store.put location node).node? other =
      if other = location then (fixed? location <|> some node) else store.node? other := by
  by_cases same : other = location
  · subst same
    simp [node?, put]
  · have missed : (other == location) = false := beq_eq_false_iff_ne.2 same
    simp only [if_neg same, node?, put, List.lookup_cons, missed]
    exact congrArg (fixed? other <|> ·) (lookup_filter_ne same store.nodes)

/-! ## Locations in a directory -/

/-- Whether a location is in the directory at `place`, at any depth.  The working directory holds
neither the directories around it nor the root, though their locations begin with its own. -/
def Inside (place location : Location) : Prop :=
  ∃ name rest, location = place ++ name :: rest ∧ name ≠ ".." ∧ name ≠ "/"

theorem inside_iff {location : Location} : Inside place location ↔
    place <+: location ∧ ∃ name ∈ (location.drop place.length).head?, name ≠ ".." ∧ name ≠ "/" := by
  constructor
  · rintro ⟨name, rest, rfl, proper⟩
    exact ⟨List.prefix_append _ _, name, by simp, proper⟩
  · rintro ⟨⟨behind, rfl⟩, name, first, proper⟩
    rw [List.drop_left] at first
    obtain ⟨rest, rfl⟩ := List.head?_eq_some_iff.1 first
    exact ⟨name, rest, rfl, proper⟩

instance (place location : Location) : Decidable (Inside place location) :=
  decidable_of_iff _ inside_iff.symm

theorem inside_name {name : String} (proper : Path.IsName name) : Inside place (place ++ [name]) := by
  refine ⟨name, [], rfl, proper.notAbove, ?_⟩
  rintro rfl
  exact proper.noSlash (by decide)

def next (here : Location) (part : String) : Location :=
  if part = "." then here else if part = ".." then parent here else here ++ [part]

/-- The locations on the way along some names. -/
def visits (here : Location) : List String → List Location
  | [] => [here]
  | part :: rest => here :: visits (next here part) rest

/-- Whether a path leads nowhere into the directory at `place`.  The directory itself and the ones
around it may be on its way or at its end.  A path that leads in and out again does not stay out:
whether it can be walked depends on what is in there. -/
def StaysOut (place : Location) (path : String) : Prop :=
  ∀ location ∈ visits (Path.start path) (Path.parts path), ¬ Inside place location

instance (place : Location) (path : String) : Decidable (StaysOut place path) :=
  inferInstanceAs (Decidable (∀ location ∈ visits (Path.start path) (Path.parts path), _))

theorem mem_visits_self (here : Location) (names : List String) : here ∈ visits here names := by
  cases names with
  | nil => exact List.mem_cons_self
  | cons name names => exact List.mem_cons_self

theorem visits_around_subset (here : Location) (names : List String) :
    visits here (names.dropLast ++ ["."]) ⊆ visits here names := by
  induction names generalizing here with
  | nil => simp [visits, next]
  | cons name names ih =>
    cases names with
    | nil =>
      -- The dot stays at the location that the name is left from.
      simp [visits, next]
    | cons second names => exact List.cons_subset_cons here (ih (next here name))

theorem walk_cons (store : Store) (here : Location) (name : String) (names : List String) :
    store.walk here (name :: names) =
      if name = "." ∨ name = ".." then store.walk (next here name) names
      else if Path.isLongName name then .error .nameTooLong
      else
        match store.node? (next here name) with
        | some .directory => store.walk (next here name) names
        | some (.file content) =>
            if names.isEmpty then .ok (.present (next here name) (.file content))
            else .error .notDirectory
        | none => if names.isEmpty then .ok (.vacant (next here name)) else .error .notFound := by
  by_cases dot : name = "."
  · rw [walk, next, if_pos dot, if_pos dot, if_pos (.inl dot)]
  · by_cases up : name = ".."
    · rw [walk, next, if_neg dot, if_pos up, if_neg dot, if_pos up, if_pos (.inr up)]
    · have moves : ¬ (name = "." ∨ name = "..") := not_or.2 ⟨dot, up⟩
      have there : next here name = here ++ [name] := by rw [next, if_neg dot, if_neg up]
      rw [if_neg moves, there, walk]
      exact (if_neg dot).trans (if_neg up)

/-! ## Barriers -/

@[simp] theorem node?_bar (store : Store) (location : Location) (barrier : Barrier) :
    (store.bar location barrier).node? = store.node? := rfl

@[simp] theorem barriers_bar (store : Store) (location : Location) (barrier : Barrier) :
    (store.bar location barrier).barriers location = some barrier :=
  if_pos rfl

theorem barriers_bar_of_ne {location other : Location} (different : other ≠ location)
    (store : Store) (barrier : Barrier) :
    (store.bar location barrier).barriers other = store.barriers other :=
  if_neg different

theorem barrier?_congr (same : left.barriers = right.barriers) : left.barrier? = right.barrier? := by
  funext location
  rw [barrier?, barrier?, same]

theorem closed?_congr (same : left.barriers = right.barriers) : left.closed? = right.closed? := by
  funext location
  rw [closed?, closed?, barrier?_congr same]

theorem opened_eq_ok_iff {location other : Location} :
    store.opened location = .ok other ↔ other = location ∧ store.closed? location = none := by
  rw [opened]
  cases store.closed? location <;> simp [eq_comm]

/-! ## Filling files -/

/-- A file takes all of a content, or a proper part of it. -/
theorem fill_cases (store : Store) (location : Location) (content : Bytes) :
    store.fill location content = (store.put location (.file content), .ok ()) ∨
      ∃ length cause, store.barrier? location = some (.room length cause) ∧
        length < content.length ∧ store.fill location content =
          (store.put location (.file (content.take length)), .error cause) := by
  rw [fill]
  split
  next length cause limited =>
    by_cases fits : content.length ≤ length
    · exact .inl (if_pos fits)
    · exact .inr ⟨length, cause, limited, Nat.lt_of_not_le fits, if_neg fits⟩
  next => exact .inl rfl

theorem take_ne_of_lt {content : Bytes} {length : Nat} (short : length < content.length) :
    content.take length ≠ content := by
  intro same
  have lengths := congrArg List.length same
  rw [List.length_take] at lengths
  omega

/-- What is in a file after it was filled, which is all of the content if nothing fails. -/
theorem fill_eq_put (store : Store) (location : Location) (content : Bytes) :
    ∃ part, part <+: content ∧
      (store.fill location content).1 = store.put location (.file part) ∧
      ((store.fill location content).2 = .ok () ↔ part = content) := by
  obtain whole | ⟨length, cause, -, short, cut⟩ := store.fill_cases location content
  · rw [whole]
    exact ⟨content, List.prefix_rfl, rfl, by simp⟩
  · rw [cut]
    exact ⟨content.take length, List.take_prefix _ _, rfl, by simp [take_ne_of_lt short]⟩

theorem fill_snd_congr (same : left.barriers = right.barriers) (location : Location)
    (content : Bytes) : (left.fill location content).2 = (right.fill location content).2 := by
  rw [fill, fill, barrier?_congr same]
  split
  · split <;> rfl
  · rfl

theorem fill_of_free {location : Location} (free : store.barrier? location = none)
    (content : Bytes) :
    store.fill location content = (store.put location (.file content), .ok ()) := by
  rw [fill, free]

theorem fill_of_room {location : Location} {length : Nat} {cause : FileError} {content : Bytes}
    (limited : store.barrier? location = some (.room length cause))
    (short : length < content.length) :
    store.fill location content =
      (store.put location (.file (content.take length)), .error cause) := by
  rw [fill, limited]
  exact if_neg (Nat.not_le_of_lt short)

/-! ## Stores that differ in a directory -/

/-- Whether two stores have the same nodes outside of the directory at `place`, and the same barriers. -/
structure AgreeBeside (place : Location) (left right : Store) : Prop where
  nodes : ∀ location, ¬ Inside place location → left.node? location = right.node? location
  barriers : left.barriers = right.barriers

namespace AgreeBeside

theorem refl (place : Location) (store : Store) : AgreeBeside place store store :=
  ⟨fun _ _ => rfl, rfl⟩

theorem symm (agree : AgreeBeside place left right) : AgreeBeside place right left where
  nodes location outside := (agree.nodes location outside).symm
  barriers := agree.barriers.symm

theorem trans {middle : Store} (first : AgreeBeside place left middle)
    (second : AgreeBeside place middle right) : AgreeBeside place left right where
  nodes location outside := (first.nodes location outside).trans (second.nodes location outside)
  barriers := first.barriers.trans second.barriers

theorem put (agree : AgreeBeside place left right) (location : Location) (node : Node) :
    AgreeBeside place (left.put location node) (right.put location node) where
  nodes other outside := by rw [node?_put, node?_put, agree.nodes other outside]
  barriers := agree.barriers

theorem put_inside {location : Location} (inside : Inside place location) (store : Store)
    (node : Node) : AgreeBeside place (store.put location node) store where
  nodes other outside := by
    have different : other ≠ location := fun same => outside (same ▸ inside)
    rw [node?_put, if_neg different]
  barriers := rfl

theorem walk_eq (agree : AgreeBeside place left right) {names : List String} {here : Location}
    (out : ∀ location ∈ visits here names, ¬ Inside place location) :
    left.walk here names = right.walk here names := by
  induction names generalizing here with
  | nil => rfl
  | cons name names ih =>
    -- The next location is outside, so that the same node stands there in both stores.
    have behind := ih fun location member => out location (List.mem_cons_of_mem _ member)
    have there :=
      agree.nodes _ (out (next here name) (List.mem_cons_of_mem _ (mem_visits_self _ _)))
    rw [walk_cons, walk_cons, behind, there]

theorem resolve_eq (agree : AgreeBeside place left right) {path : String}
    (out : StaysOut place path) : left.resolve path = right.resolve path := by
  rw [resolve, resolve, agree.walk_eq out]

theorem read_eq (agree : AgreeBeside place left right) {path : String} (out : StaysOut place path) :
    left.read path = right.read path := by
  rw [read, read, agree.resolve_eq out]

theorem destination_eq (agree : AgreeBeside place left right) {path : String}
    (out : StaysOut place path) : left.destination path = right.destination path := by
  have around : left.walk (Path.start path) (Path.around path) =
      right.walk (Path.start path) (Path.around path) :=
    agree.walk_eq fun location member => out location (visits_around_subset _ _ member)
  have opens : left.opened = right.opened := by
    funext location
    rw [opened, opened, closed?_congr agree.barriers]
  rw [destination, destination, writable, writable, agree.resolve_eq out, around, opens]

theorem fill (agree : AgreeBeside place left right) (location : Location) (content : Bytes) :
    (left.fill location content).2 = (right.fill location content).2 ∧
      AgreeBeside place (left.fill location content).1 (right.fill location content).1 := by
  refine ⟨fill_snd_congr agree.barriers location content, ?_⟩
  rw [Store.fill, Store.fill, barrier?_congr agree.barriers]
  split
  · split
    · exact agree.put location _
    · exact agree.put location _
  · exact agree.put location _

/-- Writing beside a directory does the same in both stores. -/
theorem write (agree : AgreeBeside place left right) {path : String} (out : StaysOut place path)
    (content : Bytes) :
    (left.write path content).2 = (right.write path content).2 ∧
      AgreeBeside place (left.write path content).1 (right.write path content).1 := by
  rw [Store.write, Store.write, agree.destination_eq out]
  cases right.destination path with
  | error failure => exact ⟨rfl, agree⟩
  | ok location => exact agree.fill location content

end AgreeBeside

/-! ## Writing -/

def Target.location : Target → Location
  | present location _ => location
  | vacant location => location

theorem mem_visits_of_walk {names : List String} {here : Location} {target : Target}
    (walked : store.walk here names = .ok target) : target.location ∈ visits here names := by
  induction names generalizing here with
  | nil =>
    cases walked
    exact List.mem_cons_self
  | cons name names ih =>
    -- A walk goes on from the next location, or ends there.
    refine List.mem_cons_of_mem _ ?_
    rw [walk_cons] at walked
    split at walked
    next => exact ih walked
    next =>
      split at walked
      next => cases walked
      next =>
        split at walked
        next => exact ih walked
        all_goals
          split at walked
          · cases walked
            exact mem_visits_self _ _
          · cases walked

theorem mem_visits_of_resolve {path : String} {target : Target}
    (resolved : store.resolve path = .ok target) :
    target.location ∈ visits (Path.start path) (Path.parts path) := by
  rw [resolve] at resolved
  split at resolved
  · cases resolved
  · split at resolved
    · cases resolved
    · exact mem_visits_of_walk resolved

theorem resolve_of_destination {path : String} {location : Location}
    (found : store.destination path = .ok location) :
    ∃ target, store.resolve path = .ok target ∧ target.location = location := by
  rw [destination] at found
  split at found
  · cases found
  · rw [writable] at found
    split at found
    · split at found <;> cases found
    · split at found
      · cases found
      · cases found
      all_goals
        next resolved =>
          obtain ⟨rfl, -⟩ := opened_eq_ok_iff.1 found
          exact ⟨_, resolved, rfl⟩

/-- What is written at a path that leads nowhere into a directory is not written there. -/
theorem not_inside_destination {path : String} {location : Location} (out : StaysOut place path)
    (found : store.destination path = .ok location) : ¬ Inside place location := by
  obtain ⟨target, resolved, rfl⟩ := resolve_of_destination found
  exact out _ (mem_visits_of_resolve resolved)

/-! ## Names in a directory -/

section Names

variable {path name : String}

/-- Whether a name leads from a directory to one that is there. -/
def Passable (store : Store) (here : Location) (name : String) : Prop :=
  (name = "." ∨ name = "..") ∨
    Path.isLongName name = false ∧ store.node? (next here name) = some .directory

theorem walk_of_passable {here : Location} (passable : store.Passable here name)
    (names : List String) : store.walk here (name :: names) = store.walk (next here name) names := by
  rw [walk_cons]
  obtain still | ⟨short, found⟩ := passable
  · rw [if_pos still]
  · simp only [short, found, Bool.false_eq_true, ↓reduceIte, ite_self]

theorem createFrom_of_passable {here : Location} (passable : store.Passable here name) (made : Bool)
    (names : List String) :
    store.createFrom made here (name :: names) = store.createFrom made (next here name) names := by
  rw [createFrom]
  obtain (rfl | rfl) | ⟨short, found⟩ := passable
  · rfl
  · rfl
  · rw [next] at found ⊢
    split
    next => rfl
    next notDot =>
      split
      next => rfl
      next notUp =>
        rw [if_neg notDot, if_neg notUp] at found
        simp only [short, found, Bool.false_eq_true, ↓reduceIte]

/-- A walk to a directory goes through directories. -/
theorem passable_of_walk {names : List String} {here : Location}
    (leads : store.walk here (name :: names) = .ok (.present place .directory)) :
    store.Passable here name := by
  rw [walk_cons] at leads
  split at leads
  next still => exact .inl still
  next =>
    split at leads
    next => cases leads
    next short =>
      split at leads
      next found => exact .inr ⟨Bool.eq_false_iff.2 short, found⟩
      all_goals split at leads <;> cases leads

/-- A walk goes on from a directory that it leads to. -/
theorem walk_append {names : List String} {here : Location} (behind : List String)
    (leads : store.walk here names = .ok (.present place .directory)) :
    store.walk here (names ++ behind) = store.walk place behind := by
  induction names generalizing here with
  | nil =>
    cases leads
    rfl
  | cons name names ih =>
    have passable := passable_of_walk leads
    rw [walk_of_passable passable] at leads
    rw [List.cons_append, walk_of_passable passable, ih leads]

theorem createFrom_of_walk {names : List String} {here : Location} (made : Bool)
    (leads : store.walk here names = .ok (.present place .directory)) :
    store.createFrom made here names = (store, .ok ()) := by
  induction names generalizing here with
  | nil => rfl
  | cons name names ih =>
    have passable := passable_of_walk leads
    rw [walk_of_passable passable] at leads
    rw [createFrom_of_passable passable, ih leads]

/-- Creating a directory that is there changes nothing. -/
theorem createDirAll_of_walk
    (leads : store.walk (Path.start path) (Path.parts path) = .ok (.present place .directory)) :
    store.createDirAll path =
      match Path.fault? path with
      | some failure => (store, .error failure)
      | none => (store, .ok ()) := by
  rw [createDirAll]
  cases fault : Path.fault? path with
  | some failure => rfl
  | none =>
    by_cases ends : Path.endsInDot path
    · -- Such a path is only looked for, and it is not the empty one, which is never found.
      have filled : path.isEmpty = false := by
        rw [Bool.eq_false_iff, Ne, String.isEmpty_iff]
        rintro rfl
        cases ends
      simp only [ends, ↓reduceIte, findDir, resolve, fault, filled, Bool.false_eq_true, leads,
        Except.map]
    · simp only [ends, Bool.false_eq_true, ↓reduceIte, createFrom_of_walk false leads]

/-- A name in a directory leads to what stands there, or to a free place. -/
theorem resolve_join
    (leads : store.walk (Path.start path) (Path.parts path) = .ok (.present place .directory))
    (proper : Path.IsName name) :
    store.resolve (Path.join path name) =
      match Path.fault? (Path.join path name) with
      | some failure => .error failure
      | none =>
          if Path.isLongName name then .error .nameTooLong
          else
            .ok (match store.node? (place ++ [name]) with
            | some node => .present (place ++ [name]) node
            | none => .vacant (place ++ [name])) := by
  have there : next place name = place ++ [name] := by
    rw [next, if_neg proper.notHere, if_neg proper.notAbove]
  have moves : ¬ (name = "." ∨ name = "..") := not_or.2 ⟨proper.notHere, proper.notAbove⟩
  rw [resolve]
  cases Path.fault? (Path.join path name) with
  | some failure => rfl
  | none =>
    rw [Path.isEmpty_join path proper, Path.start_join path proper, Path.parts_join path proper,
      walk_append [name] leads, walk_cons, if_neg moves, there]
    cases store.node? (place ++ [name]) with
    | none => rfl
    | some node => cases node <;> rfl

theorem target_of_resolve_join {target : Target}
    (leads : store.walk (Path.start path) (Path.parts path) = .ok (.present place .directory))
    (proper : Path.IsName name) (resolved : store.resolve (Path.join path name) = .ok target) :
    (∃ node, target = .present (place ++ [name]) node ∧
      store.node? (place ++ [name]) = some node) ∨ target = .vacant (place ++ [name]) := by
  rw [resolve_join leads proper] at resolved
  split at resolved
  next => cases resolved
  next =>
    split at resolved
    next => cases resolved
    next =>
      cases resolved
      cases store.node? (place ++ [name]) with
      | none => exact .inr rfl
      | some node => exact .inl ⟨node, rfl, rfl⟩

theorem node?_of_read_join {content : Bytes}
    (leads : store.walk (Path.start path) (Path.parts path) = .ok (.present place .directory))
    (proper : Path.IsName name) (read : store.read (Path.join path name) = .ok content) :
    store.node? (place ++ [name]) = some (.file content) := by
  rw [Store.read] at read
  split at read
  · cases read
  · cases read
  · cases read
  next resolved =>
    split at read
    · cases read
    · cases read
      obtain ⟨node, same, found⟩ | none := target_of_resolve_join leads proper resolved
      · cases same
        exact found
      · cases none

theorem eq_of_destination_join {location : Location}
    (leads : store.walk (Path.start path) (Path.parts path) = .ok (.present place .directory))
    (proper : Path.IsName name)
    (found : store.destination (Path.join path name) = .ok location) :
    location = place ++ [name] := by
  obtain ⟨target, resolved, rfl⟩ := resolve_of_destination found
  obtain ⟨node, rfl, -⟩ | rfl := target_of_resolve_join leads proper resolved
  · rfl
  · rfl

end Names

end Store

end StaticAtoms
