import StaticAtoms.Proofs.Json.Exactness
import StaticAtoms.Proofs.Json.Records

/-!
# What is read of the members of an object

* `Record.Turns` says what one member does to the draft of a record: a declared field is put into it,
  and a record that is open leaves other members aside.  `Record.Takes` goes through all of them.
* `Record.Lists` goes through the items of a list, which are the fields in their declared order.
* `Record.exact`: records are read whole if their fields are, in both spellings.
-/

namespace StaticAtoms.Json

/-! ## Keys -/

section Keys

variable {s t u rest : List Char}

/-- Whether a text begins with a character that is no blank. -/
def Filled : List Char → Prop
  | [] => False
  | c :: _ => isBlank c = false

theorem TextForm.filled {text : String} (form : TextForm text s rest) : Filled s := by
  cases form with
  | quoted chars => exact rfl

theorem IsText.filled {key : List Char} (isText : IsText key) (rest : List Char) :
    Filled (key ++ rest) := by
  obtain ⟨symbols, -, rfl⟩ := isText.exists_symbols
  exact rfl

theorem Blanks.unique (blanks : Blanks s t) (others : Blanks s u) (filled : Filled t)
    (filledBehind : Filled u) : t = u := by
  cases t with
  | nil => exact filled.elim
  | cons c t =>
    cases u with
    | nil => exact filledBehind.elim
    | cons d u =>
      rw [← (blanks_cons_iff filled).1 blanks, (blanks_cons_iff filledBehind).1 others]

/-- What is led to does not depend on how the blanks are split. -/
theorem LeadForm.unique {first : Bool} (lead : LeadForm first s t) (other : LeadForm first s u)
    (filled : Filled t) (filledBehind : Filled u) : t = u := by
  cases lead with
  | first blanks =>
    cases other with
    | first others => exact blanks.unique others filled filledBehind
  | next comma blanks =>
    cases other with
    | next commaBehind others =>
      obtain ⟨-, same⟩ := List.cons.inj (comma.unique commaBehind rfl rfl)
      exact (same ▸ blanks).unique others filled filledBehind

/-- Where a part follows, a closing bracket does not. -/
theorem LeadForm.first_eq {first : Bool} {c d : Char} (lead : LeadForm first s (c :: t))
    (blanks : Blanks s (d :: u)) (filled : isBlank c = false) (filledBehind : isBlank d = false) :
    d = c ∨ d = ',' := by
  cases lead with
  | first others => exact .inl (List.cons.inj (blanks.unique others filledBehind filled)).1
  | next comma others => exact .inr (List.cons.inj (blanks.unique comma filledBehind rfl)).1

theorem Spells.unique {text other : String} {spelling : List Char} (spells : Spells text spelling)
    (others : Spells other spelling) : text = other := by
  have read : textAt (spelling ++ []) = .ok (text, []) := textAt_eq_ok_iff.2 ⟨_, .refl _, spells []⟩
  have again : textAt (spelling ++ []) = .ok (other, []) :=
    textAt_eq_ok_iff.2 ⟨_, .refl _, others []⟩
  rw [read] at again
  cases again
  rfl

end Keys

namespace Record

variable {δ ρ : Type} {record : Record δ ρ} {s t rest left gap blanks : List Char}

/-! ## Members -/

/-- What a member does to a draft. -/
inductive Turns (record : Record δ ρ) (draft : δ) (member : Member) : δ → Prop where
  | field {name : String} {field : Field δ} {put : δ → δ} (named : Spells name member.key)
      (known : record.field? name = some field) (unset : field.isSet draft = false)
      (reads : Reads field.value member.item.value put) : Turns record draft member (put draft)
  | ignored {name : String} (named : Spells name member.key) (unknown : record.field? name = none)
      (isOpen : record.isOpen) : Turns record draft member draft

/-- What members do to a draft, one after another. -/
inductive Takes (record : Record δ ρ) : δ → List Member → δ → Prop where
  | done (draft : δ) : Takes record draft [] draft
  | member {draft next after : δ} {member : Member} {members : List Member}
      (turns : record.Turns draft member next) (others : Takes record next members after) :
      Takes record draft (member :: members) after

/-- Whether the fields of a record take values whole. -/
def ExactFields (record : Record δ ρ) : Prop :=
  ∀ field ∈ record.fields, Exact field.value

theorem mem_of_field? {name : String} {field : Field δ} (known : record.field? name = some field) :
    field ∈ record.fields :=
  List.mem_of_find?_eq_some known

theorem key_mem_of_field? {name : String} {field : Field δ} (known : record.field? name = some field) :
    name ∈ record.fields.map Field.key := by
  have named : field.key = name := by simpa using List.find?_some known
  exact List.mem_map.2 ⟨field, mem_of_field? known, named⟩

/-- One step over the members of an object. -/
theorem readMembers_eq (first : Bool) (draft : δ) (s : List Char) :
    record.readMembers first draft s =
      match nextKey first s with
      | .error failure => .error failure
      | .ok (none, rest) => .ok (draft, rest)
      | .ok (some key, afterKey) =>
          match record.readMember draft key afterKey with
          | .error failure => .error failure
          | .ok (draft, rest) => record.readMembers false draft rest := by
  rw [readMembers]
  split
  next failed => rw [failed]
  next ended => rw [ended]
  next next =>
    rw [next]
    dsimp only
    split
    next failed => rw [failed]
    next taken => rw [taken]

theorem readMembers_congr {first other : Bool} {draft : δ} (same : nextKey first s = nextKey other t) :
    record.readMembers first draft s = record.readMembers other draft t := by
  rw [readMembers_eq, readMembers_eq, same]

theorem Turns.exists_spells {draft after : δ} {member : Member}
    (turns : record.Turns draft member after) : ∃ name, Spells name member.key := by
  cases turns with
  | field named known unset reads => exact ⟨_, named⟩
  | ignored named unknown isOpen => exact ⟨_, named⟩

/-- The next key of an object stands behind blanks, and a comma among them except before the first. -/
theorem nextKey_of_lead {first : Bool} {member : Member} {name : String}
    (named : Spells name member.key) (lead : LeadForm first s (member.text ++ rest)) :
    nextKey first s = .ok (some name, member.behindKey ++ ':' :: (member.item.text ++ rest)) := by
  have blanks : Blanks (member.text ++ rest)
      (member.key ++ (member.behindKey ++ ':' :: (member.item.text ++ rest))) :=
    ⟨member.before, member.blankBefore, by simp [Member.text]⟩
  exact nextKey_eq_some_iff.2 ⟨_, lead.trans blanks, named _⟩

/-- A key that is read is the whole key of the member. -/
theorem spells_of_nextKey {first : Bool} {member : Member} {name : String} {afterKey : List Char}
    (next : nextKey first s = .ok (some name, afterKey))
    (lead : LeadForm first s (member.text ++ rest)) :
    Spells name member.key ∧
      afterKey = member.behindKey ++ ':' :: (member.item.text ++ rest) := by
  have blanks : Blanks (member.text ++ rest)
      (member.key ++ (member.behindKey ++ ':' :: (member.item.text ++ rest))) :=
    ⟨member.before, member.blankBefore, by simp [Member.text]⟩
  obtain ⟨t, leadKey, form⟩ := nextKey_eq_some_iff.1 next
  have same := leadKey.unique (lead.trans blanks) form.filled (member.isText.filled _)
  subst same
  exact (member.isText.exact form).symm

theorem readMember_text_iff (exact : record.ExactFields) {member : Member} {draft after : δ}
    {name : String} (named : Spells name member.key) (value : IsValue member.item.value)
    (delimited : Delimited rest) :
    record.readMember draft name (member.behindKey ++ ':' :: (member.item.text ++ rest)) =
        .ok (after, left) ↔
      left = member.item.behind ++ rest ∧ record.Turns draft member after := by
  have colonRead : colon (member.behindKey ++ ':' :: (member.item.text ++ rest)) =
      .ok (member.item.before ++ (member.item.value ++ (member.item.behind ++ rest))) :=
    colon_eq_ok_iff.2 ⟨member.behindKey, member.blankBehindKey, by simp [Item.text]⟩
  have behind := delimited.append member.item.blankBehind
  constructor
  · intro read
    unfold readMember at read
    split at read
    next field known =>
      split at read
      next => cases read
      next unset =>
        simp only [colonRead] at read
        split at read
        next => cases read
        next taken =>
          cases read
          obtain ⟨rfl, reads⟩ := (exact field (mem_of_field? known)).reads value
            member.item.blankBefore behind taken
          exact ⟨rfl, .field named known (Bool.eq_false_iff.2 unset) reads⟩
    next unknown =>
      split at read
      next isOpen =>
        simp only [colonRead, value.skipValue_eq member.item.blankBefore behind] at read
        cases read
        exact ⟨rfl, .ignored named unknown isOpen⟩
      next => cases read
  · rintro ⟨rfl, turns⟩
    cases turns with
    | field namedBehind known unset reads =>
      obtain rfl := named.unique namedBehind
      simp only [readMember, known, unset, Bool.false_eq_true, ↓reduceIte, colonRead,
        reads member.item.blankBefore behind]
    | ignored namedBehind unknown isOpen =>
      obtain rfl := named.unique namedBehind
      simp only [readMember, unknown, isOpen, ↓reduceIte, colonRead,
        value.skipValue_eq member.item.blankBefore behind]

/-- What is read of one member of an object that goes on behind it. -/
theorem readMembers_member_iff (exact : record.ExactFields) {first : Bool} {member : Member}
    {draft after : δ} (value : IsValue member.item.value) (delimited : Delimited rest)
    (lead : LeadForm first s (member.text ++ rest)) :
    record.readMembers first draft s = .ok (after, left) ↔
      ∃ next, record.Turns draft member next ∧
        record.readMembers false next rest = .ok (after, left) := by
  have behind : Blanks (member.item.behind ++ rest) rest :=
    ⟨member.item.behind, member.item.blankBehind, rfl⟩
  have passed (draft : δ) : record.readMembers false draft (member.item.behind ++ rest) =
      record.readMembers false draft rest :=
    readMembers_congr (by simp only [nextKey, behind.skipBlank_eq])
  constructor
  · intro read
    rw [readMembers_eq] at read
    split at read
    next => cases read
    next ended =>
      obtain ⟨symbols, -, quoted⟩ := member.isText.exists_symbols
      have opened : Blanks (member.text ++ rest) ('"' :: (symbols.flatten ++ '"' ::
          (member.behindKey ++ ':' :: (member.item.text ++ rest)))) :=
        ⟨member.before, member.blankBefore, by simp [Member.text, quoted]⟩
      obtain same | same := (lead.trans opened).first_eq (nextKey_eq_none_iff.1 ended) rfl rfl
      · cases same
      · cases same
    next key afterKey found =>
      obtain ⟨named, rfl⟩ := spells_of_nextKey found lead
      split at read
      next => cases read
      next taken =>
        obtain ⟨rfl, turns⟩ := (readMember_text_iff exact named value delimited).1 taken
        rw [passed] at read
        exact ⟨_, turns, read⟩
  · rintro ⟨next, turns, read⟩
    obtain ⟨name, named⟩ := turns.exists_spells
    have found := nextKey_of_lead named lead
    have taken := (readMember_text_iff exact named value delimited).2 ⟨rfl, turns⟩
    rw [readMembers_of_member found taken, passed, read]

/-- What is read of the members of an object: each of them turns the draft, up to the closing bracket. -/
theorem readMembers_ending_iff (exact : record.ExactFields) {members : List Member} {draft after : δ}
    (values : ∀ member ∈ members, IsValue member.item.value) :
    record.readMembers false draft (Bracket.object.ending (members.map Member.text) ++ rest) =
        .ok (after, left) ↔ left = rest ∧ record.Takes draft members after := by
  induction members generalizing draft with
  | nil =>
    have ended : nextKey false (Bracket.object.ending [] ++ rest) = .ok (none, rest) :=
      nextKey_eq_none_iff.2 (.refl _)
    rw [List.map_nil, readMembers_of_end draft ended]
    constructor
    · intro read
      cases read
      exact ⟨rfl, .done _⟩
    · rintro ⟨rfl, ⟨-⟩⟩
      rfl
  | cons member members ih =>
    rw [List.forall_mem_cons] at values
    have delimited := Bracket.object.delimited_ending (members.map Member.text) rest
    have lead : LeadForm false
        (Bracket.object.ending ((member :: members).map Member.text) ++ rest)
        (member.text ++ (Bracket.object.ending (members.map Member.text) ++ rest)) := by
      rw [List.map_cons, Bracket.ending, List.cons_append, List.append_assoc]
      exact .next (.refl _) (.refl _)
    rw [readMembers_member_iff exact values.1 delimited lead]
    constructor
    · rintro ⟨next, turns, read⟩
      obtain ⟨same, others⟩ := (ih values.2).1 read
      exact ⟨same, .member turns others⟩
    · rintro ⟨same, takes⟩
      cases takes with
      | member turns others => exact ⟨_, turns, (ih values.2).2 ⟨same, others⟩⟩

theorem nextKey_comma {c : Char} (opened : skipBlank s = c :: t) (notClosed : c ≠ '\x7d') :
    nextKey false (',' :: s) = nextKey true s := by
  have comma : skipBlank (',' :: s) = ',' :: s := skipBlank_cons rfl s
  simp [nextKey, comma, opened, notClosed]

/-- The keys behind an opening bracket are looked for like those behind a comma. -/
theorem nextKey_inside (members : List Member) (blank : Blank gap) (rest : List Char) :
    nextKey true (gap ++ (Bracket.object.inside (members.map Member.text) ++ rest)) =
      nextKey false (Bracket.object.ending (members.map Member.text) ++ rest) := by
  cases members with
  | nil =>
    have closed : Blanks (gap ++ '\x7d' :: rest) ('\x7d' :: rest) := ⟨gap, blank, rfl⟩
    exact (nextKey_eq_none_iff.2 closed).trans (nextKey_eq_none_iff.2 (.refl _)).symm
  | cons member members =>
    obtain ⟨symbols, -, quoted⟩ := member.isText.exists_symbols
    have opened (rest : List Char) : skipBlank (member.text ++ rest) =
        '"' :: (symbols.flatten ++ '"' :: (member.behindKey ++ ':' :: (member.item.text ++ rest))) :=
      (blanks_cons_iff rfl).1
        ⟨member.before, member.blankBefore, by simp [Member.text, quoted]⟩
    rw [List.map_cons, Bracket.inside, Bracket.ending, List.cons_append, List.append_assoc,
      nextKey_comma (opened _) (by decide)]
    simp only [nextKey, skipBlank_append blank]

theorem read_objectText_iff (exact : record.ExactFields) {members : List Member} {value : ρ}
    (values : ∀ member ∈ members, IsValue member.item.value) (blankFront : Blank blanks)
    (blank : Blank gap) :
    record.reader.read (blanks ++ (objectText gap members ++ rest)) = .ok (value, left) ↔
      left = rest ∧ ∃ after, record.Takes record.blank members after ∧
        record.finish after = .ok value := by
  have opened : skipBlank (blanks ++ (objectText gap members ++ rest)) =
      '\x7b' :: (gap ++ (Bracket.object.inside (members.map Member.text) ++ rest)) := by
    rw [skipBlank_append blankFront, objectText, between_eq, List.cons_append, List.append_assoc]
    exact skipBlank_cons rfl _
  simp only [reader, readAt, opened]
  rw [complete_eq_ok_iff]
  constructor
  · rintro ⟨after, read, finished⟩
    rw [readMembers_congr (nextKey_inside members blank rest)] at read
    obtain ⟨same, takes⟩ := (readMembers_ending_iff exact values).1 read
    exact ⟨same, after, takes, finished⟩
  · rintro ⟨same, after, takes, finished⟩
    refine ⟨after, ?_, finished⟩
    rw [readMembers_congr (nextKey_inside members blank rest)]
    exact (readMembers_ending_iff exact values).2 ⟨same, takes⟩

/-- An object is read where its members complete a draft. -/
theorem reads_objectText_iff (exact : record.ExactFields) {members : List Member} {value : ρ}
    (blank : Blank gap) (values : ∀ member ∈ members, IsValue member.item.value) :
    Reads record.reader (objectText gap members) value ↔
      ∃ after, record.Takes record.blank members after ∧ record.finish after = .ok value := by
  constructor
  · intro reads
    exact ((read_objectText_iff exact values blank_nil blank).1 (reads blank_nil delimited_nil)).2
  · intro taken blanks rest blankFront delimited
    exact (read_objectText_iff exact values blankFront blank).2 ⟨rfl, taken⟩

/-! ## Fields in a list -/

/-- What the items of a list do to a draft, each as the value of the next field. -/
inductive Lists : List (Field δ) → δ → List Item → δ → Prop where
  | done (draft : δ) : Lists [] draft [] draft
  | field {field : Field δ} {fields : List (Field δ)} {draft after : δ} {put : δ → δ} {item : Item}
      {items : List Item} (reads : Reads field.value item.value put)
      (others : Lists fields (put draft) items after) :
      Lists (field :: fields) draft (item :: items) after

theorem readElements_of_blanks (blanks : Blanks s t) (count : Nat) (draft : δ)
    (fields : List (Field δ)) :
    record.readElements count draft fields s = record.readElements count draft fields t := by
  cases fields with
  | nil => simp only [readElements, closeList, blanks.skipBlank_eq]
  | cons field fields => simp only [readElements, nextItem, blanks.skipBlank_eq]

theorem readElements_cons_iff_of_lead {field : Field δ} {fields : List (Field δ)} {item : Item}
    {count : Nat} {draft after : δ} (exact : Exact field.value) (value : IsValue item.value)
    (delimited : Delimited rest) (lead : LeadForm (count = 0) s (item.text ++ rest)) :
    record.readElements count draft (field :: fields) s = .ok (after, left) ↔
      ∃ put, Reads field.value item.value put ∧
        record.readElements (count + 1) (put draft) fields rest = .ok (after, left) := by
  have next := nextItem_of_lead value lead
  have behind : Blanks (item.behind ++ rest) rest := ⟨item.behind, item.blankBehind, rfl⟩
  constructor
  · intro read
    simp only [readElements, next] at read
    split at read
    next => cases read
    next taken =>
      obtain ⟨rfl, reads⟩ := exact.reads value blank_nil (delimited.append item.blankBehind) taken
      rw [readElements_of_blanks behind] at read
      exact ⟨_, reads, read⟩
  · rintro ⟨put, reads, read⟩
    simp only [readElements, next, reads.read_append (delimited.append item.blankBehind)]
    rw [readElements_of_blanks behind, read]

/-- How given items stand in front of what is left of a text, behind a bracket or behind an item. -/
inductive ItemsForm (first : Bool) : List Item → Form where
  | close {s rest : List Char} (blanks : Blanks s (']' :: rest)) : ItemsForm first [] s rest
  | item {item : Item} {items : List Item} {s rest : List Char}
      (lead : LeadForm first s
        (item.text ++ (Bracket.list.ending (items.map Item.text) ++ rest))) :
      ItemsForm first (item :: items) s rest

theorem itemsForm_ending (items : List Item) (rest : List Char) :
    ItemsForm false items (Bracket.list.ending (items.map Item.text) ++ rest) rest := by
  cases items with
  | nil => exact .close (.refl _)
  | cons item items =>
    rw [List.map_cons, Bracket.ending, List.cons_append, List.append_assoc]
    exact .item (.next (.refl _) (.refl _))

theorem itemsForm_inside (items : List Item) (blank : Blank gap) (rest : List Char) :
    ItemsForm true items (gap ++ (Bracket.list.inside (items.map Item.text) ++ rest)) rest := by
  cases items with
  | nil => exact .close ⟨gap, blank, rfl⟩
  | cons item items =>
    rw [List.map_cons, Bracket.inside, List.append_assoc]
    exact .item (.first ⟨gap, blank, rfl⟩)

/-- What is read of the items of a list: one for each field, up to the closing bracket. -/
theorem readElements_itemsForm_iff {fields : List (Field δ)} {items : List Item} {count : Nat}
    {draft after : δ} (exact : ∀ field ∈ fields, Exact field.value)
    (values : ∀ item ∈ items, IsValue item.value) (form : ItemsForm (count = 0) items s rest) :
    record.readElements count draft fields s = .ok (after, left) ↔
      left = rest ∧ Lists fields draft items after := by
  induction fields generalizing items count draft s with
  | nil =>
    rw [readElements_nil_iff]
    cases form with
    | close blanks =>
      constructor
      · rintro ⟨closed, rfl⟩
        obtain ⟨-, rfl⟩ := List.cons.inj (closed.unique blanks rfl rfl)
        exact ⟨rfl, .done _⟩
      · rintro ⟨rfl, ⟨-⟩⟩
        exact ⟨blanks, rfl⟩
    | @item item items _ _ lead =>
      constructor
      · rintro ⟨closed, -⟩
        have next := nextItem_of_lead (values item List.mem_cons_self) lead
        rw [nextItem_eq_end_iff.2 closed] at next
        cases next
      · rintro ⟨-, ⟨-⟩⟩
  | cons field fields ih =>
    rw [List.forall_mem_cons] at exact
    cases form with
    | close blanks =>
      constructor
      · intro read
        simp only [readElements, nextItem_eq_end_iff.2 blanks] at read
        cases read
      · rintro ⟨-, ⟨-⟩⟩
    | @item item items _ _ lead =>
      rw [List.forall_mem_cons] at values
      have delimited := Bracket.list.delimited_ending (items.map Item.text) rest
      have behind : ItemsForm (count + 1 = 0) items
          (Bracket.list.ending (items.map Item.text) ++ rest) rest := by
        simpa using itemsForm_ending items rest
      rw [readElements_cons_iff_of_lead exact.1 values.1 delimited lead]
      constructor
      · rintro ⟨put, reads, read⟩
        obtain ⟨same, others⟩ := (ih exact.2 values.2 behind).1 read
        exact ⟨same, .field reads others⟩
      · rintro ⟨same, lists⟩
        cases lists with
        | field reads others => exact ⟨_, reads, (ih exact.2 values.2 behind).2 ⟨same, others⟩⟩

theorem read_listText_iff (exact : record.ExactFields) {items : List Item} {value : ρ}
    (values : ∀ item ∈ items, IsValue item.value) (blankFront : Blank blanks) (blank : Blank gap) :
    record.reader.read (blanks ++ (listText gap items ++ rest)) = .ok (value, left) ↔
      left = rest ∧ ∃ after, Lists record.fields record.blank items after ∧
        record.finish after = .ok value := by
  have opened : skipBlank (blanks ++ (listText gap items ++ rest)) =
      '[' :: (gap ++ (Bracket.list.inside (items.map Item.text) ++ rest)) := by
    rw [skipBlank_append blankFront, listText, between_eq, List.cons_append, List.append_assoc]
    exact skipBlank_cons rfl _
  have read (after : δ) : record.readElements 0 record.blank record.fields
      (gap ++ (Bracket.list.inside (items.map Item.text) ++ rest)) = .ok (after, left) ↔
        left = rest ∧ Lists record.fields record.blank items after :=
    readElements_itemsForm_iff exact values (itemsForm_inside items blank rest)
  simp only [reader, readAt, opened]
  rw [complete_eq_ok_iff]
  simp only [read, and_assoc, exists_and_left]

/-- A list is read where its items complete a draft. -/
theorem reads_listText_iff (exact : record.ExactFields) {items : List Item} {value : ρ}
    (blank : Blank gap) (values : ∀ item ∈ items, IsValue item.value) :
    Reads record.reader (listText gap items) value ↔
      ∃ after, Lists record.fields record.blank items after ∧ record.finish after = .ok value := by
  constructor
  · intro reads
    exact ((read_listText_iff exact values blank_nil blank).1 (reads blank_nil delimited_nil)).2
  · intro taken blanks rest blankFront delimited
    exact (read_listText_iff exact values blankFront blank).2 ⟨rfl, taken⟩

/-! ## Records -/

theorem valueForm_of_readMember (exact : record.ExactFields) {draft after : δ} {key : String}
    (read : record.readMember draft key s = .ok (after, rest)) :
    ∃ t, Blanks s (':' :: t) ∧ ValueForm t rest := by
  unfold readMember at read
  split at read
  next field known =>
    split at read
    next => cases read
    next =>
      split at read
      next => cases read
      next t colonRead =>
        split at read
        next => cases read
        next taken =>
          cases read
          exact ⟨t, colon_eq_ok_iff.1 colonRead, (exact field (mem_of_field? known)).valueForm taken⟩
  next =>
    split at read
    next =>
      split at read
      next => cases read
      next t colonRead =>
        split at read
        next => cases read
        next passed =>
          cases read
          exact ⟨t, colon_eq_ok_iff.1 colonRead, valueForm_of_skipValue passed⟩
    next => cases read

theorem insideForm_of_readMembers (exact : record.ExactFields) {first : Bool} {draft after : δ}
    (read : record.readMembers first draft s = .ok (after, rest)) :
    InsideForm .object first s rest := by
  fun_induction readMembers record first draft s with
  | case1 => cases read
  | case2 first draft s behind ended =>
    cases read
    exact .close (nextKey_eq_none_iff.1 ended)
  | case3 => cases read
  | case4 first draft s key afterKey next turned behind taken ih =>
    obtain ⟨t, lead, text⟩ := nextKey_eq_some_iff.1 next
    obtain ⟨spelling, rfl, isText⟩ := isText_of_textForm text
    obtain ⟨u, colon, value⟩ := valueForm_of_readMember exact taken
    exact .part lead (value.member isText colon) (ih read).endForm

theorem insideForm_of_readElements {fields : List (Field δ)} {count : Nat} {draft after : δ}
    (exact : ∀ field ∈ fields, Exact field.value)
    (read : record.readElements count draft fields s = .ok (after, rest)) :
    InsideForm .list (count = 0) s rest := by
  induction fields generalizing count draft s with
  | nil => exact .close (readElements_nil_iff.1 read).1
  | cons field fields ih =>
    rw [List.forall_mem_cons] at exact
    rw [readElements] at read
    split at read
    next => cases read
    next => cases read
    next start next =>
      split at read
      next => cases read
      next put behind taken =>
        have others : InsideForm .list false behind rest := by simpa using ih exact.2 read
        exact .part (nextItem_eq_item_iff.1 next).1 (exact.1.valueForm taken).item others.endForm

/-- Records are read whole if their fields are. -/
theorem exact (exact : record.ExactFields) : Exact record.reader where
  valueForm := by
    intro s rest value read
    have blanks := blanks_skipBlank s
    change record.readAt s = _ at read
    unfold readAt at read
    split at read
    next inside opened =>
      obtain ⟨after, read, -⟩ := complete_eq_ok_iff.1 read
      exact (insideForm_of_readMembers exact read).valueForm.lead (opened ▸ blanks)
    next inside opened =>
      obtain ⟨after, read, -⟩ := complete_eq_ok_iff.1 read
      have form : InsideForm .list true inside rest := insideForm_of_readElements exact read
      exact form.valueForm.lead (opened ▸ blanks)
    next => cases read
  reads := by
    intro gap spelling rest left value isValue blank delimited read
    -- A value in front of which a record is read is an object or a list, by its first character.
    have opened : ∃ inside, spelling = '\x7b' :: inside ∨ spelling = '[' :: inside := by
      change record.readAt _ = _ at read
      unfold readAt at read
      rw [isValue.skipBlank_eq blank rest] at read
      have starts := isValue.starts
      cases spelling with
      | nil => exact starts.elim
      | cons c inside =>
        split at read
        next same => exact ⟨inside, .inl (by rw [(List.cons.inj same).1])⟩
        next same => exact ⟨inside, .inr (by rw [(List.cons.inj same).1])⟩
        next => cases read
    obtain ⟨inside, rfl | rfl⟩ := opened
    · obtain ⟨gapBehind, members, blankBehind, values, same⟩ := isValue.exists_members
      rw [same] at read ⊢
      obtain ⟨rfl, taken⟩ := (read_objectText_iff exact values blank blankBehind).1 read
      exact ⟨rfl, (reads_objectText_iff exact blankBehind values).2 taken⟩
    · obtain ⟨gapBehind, items, blankBehind, values, same⟩ := isValue.exists_items
      rw [same] at read ⊢
      obtain ⟨rfl, taken⟩ := (read_listText_iff exact values blank blankBehind).1 read
      exact ⟨rfl, (reads_listText_iff exact blankBehind values).2 taken⟩

end Record

end StaticAtoms.Json
