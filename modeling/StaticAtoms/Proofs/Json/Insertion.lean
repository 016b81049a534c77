import Mathlib.Data.List.Nodup
import StaticAtoms.Proofs.Json.Members

/-!
# Extra members

`Json.Grown` puts one more member into an object, whose key is not among the declared ones and whose
value is any well-formed value; the key of a `Json.Widened` object may also denote no text, as half of a
surrogate pair does not.  `InMember` and `InItem` carry a change of a value over to the object or
list around it, `Inserted` are the places at which a member can be put into a record with a list of
records, and `InSource` is about whole sources.

* `Keeps reader change` says that what is read before a change is read behind it, and it goes from a
  value to what is around it: `keeps_grown` for open records, `keeps_inMember`, `keeps_inItem`.
* `Refuses reader change` says that nothing is read behind a change, and it goes the same way:
  `refuses_widened` for closed records, `refuses_inMember`, `refuses_inItem`.
* `Record.Encloses` puts them together for a record that lists other records under a key:
  `keeps_inserted` and `refuses_inserted`.
-/

namespace StaticAtoms.Json

/-- How one value is changed into another. -/
abbrev Change := (spelling changed : List Char) → Prop

/-! ## Places of a member -/

/-- One more member in an object, anywhere among the others, with a key that denotes a text which is not
declared. -/
inductive Grown (declared : List String) : Change where
  | insert {gap : List Char} {before after : List Member} {extra : Member} {name : String}
      (blank : Blank gap) (values : ∀ member ∈ before ++ extra :: after, IsValue member.item.value)
      (named : Spells name extra.key) (undeclared : name ∉ declared) :
      Grown declared (objectText gap (before ++ after)) (objectText gap (before ++ extra :: after))

/-- One more member in an object, anywhere among the others, with a key that denotes none of the declared
texts, and perhaps no text at all. -/
inductive Widened (declared : List String) : Change where
  | insert {gap : List Char} {before after : List Member} {extra : Member}
      (blank : Blank gap) (values : ∀ member ∈ before ++ extra :: after, IsValue member.item.value)
      (undeclared : ∀ name ∈ declared, ¬ Spells name extra.key) :
      Widened declared (objectText gap (before ++ after))
        (objectText gap (before ++ extra :: after))

theorem Grown.widened {declared : List String} {spelling changed : List Char}
    (grown : Grown declared spelling changed) : Widened declared spelling changed := by
  cases grown with
  | insert blank values named undeclared =>
    refine .insert blank values fun name member other => ?_
    obtain rfl := named.unique other
    exact undeclared member

/-- A change of the value of a member with a given key. -/
inductive InMember (key : String) (change : Change) : Change where
  | member {gap value : List Char} {before after : List Member} {member : Member}
      (blank : Blank gap) (values : ∀ other ∈ before ++ member :: after, IsValue other.item.value)
      (named : Spells key member.key) (changed : change member.item.value value) :
      InMember key change (objectText gap (before ++ member :: after))
        (objectText gap (before ++ member.withValue value :: after))

/-- A change of an item of a list, at one of given places. -/
inductive InItem (places : Nat → Prop) (change : Change) : Change where
  | item {gap value : List Char} {before after : List Item} {item : Item} (blank : Blank gap)
      (values : ∀ other ∈ before ++ item :: after, IsValue other.value) (place : places before.length)
      (changed : change item.value value) :
      InItem places change (listText gap (before ++ item :: after))
        (listText gap (before ++ item.withValue value :: after))

/-- One more member, as `grows` says, in a record with the keys `outer`, or in one of the records with the
keys `inner` that are listed under a key of the outer one.  The outer record can be written as a list, too,
with its fields in the order of their keys. -/
inductive Inserted (grows : List String → Change) (outer : List String) (key : String)
    (inner : List String) : Change where
  | top {spelling changed : List Char} (grown : grows outer spelling changed) :
      Inserted grows outer key inner spelling changed
  | entry {spelling changed : List Char}
      (within : InMember key (InItem (fun _ => True) (grows inner)) spelling changed) :
      Inserted grows outer key inner spelling changed
  | entryOfList {spelling changed : List Char}
      (within : InItem (fun place => outer[place]? = some key) (InItem (fun _ => True) (grows inner))
        spelling changed) : Inserted grows outer key inner spelling changed

/-! ## Changed values are values -/

/-- Whether a change leads from values to values. -/
def Change.Sound (change : Change) : Prop :=
  ∀ ⦃spelling changed : List Char⦄, change spelling changed → IsValue spelling ∧ IsValue changed

theorem values_of_inserted {α : Type} {before after : List α} {part : α} {p : α → Prop}
    (values : ∀ other ∈ before ++ part :: after, p other) : ∀ other ∈ before ++ after, p other := by
  intro other present
  exact values other
    (List.mem_append.2 ((List.mem_append.1 present).imp_right (List.mem_cons_of_mem part)))

theorem sound_widened (declared : List String) : (Widened declared).Sound := by
  intro spelling changed widened
  cases widened with
  | insert blank values undeclared =>
    exact ⟨.object blank (values_of_inserted values), .object blank values⟩

theorem sound_grown (declared : List String) : (Grown declared).Sound :=
  fun _ _ grown => sound_widened declared grown.widened

theorem values_of_replaced {α : Type} {before after : List α} {part changed : α} {p : α → Prop}
    (values : ∀ other ∈ before ++ part :: after, p other) (value : p changed) :
    ∀ other ∈ before ++ changed :: after, p other := by
  intro other present
  obtain early | present := List.mem_append.1 present
  · exact values other (List.mem_append_left _ early)
  obtain rfl | late := List.mem_cons.1 present
  · exact value
  · exact values other (List.mem_append_right _ (List.mem_cons_of_mem _ late))

theorem sound_inMember {key : String} {change : Change} (sound : change.Sound) :
    Change.Sound (InMember key change) := by
  intro spelling changed within
  cases within with
  | @member _ value _ _ member blank values named changed =>
    have valueBehind : IsValue (member.withValue value).item.value := (sound changed).2
    exact ⟨.object blank values, .object blank (values_of_replaced values valueBehind)⟩

theorem sound_inItem (places : Nat → Prop) {change : Change} (sound : change.Sound) :
    Change.Sound (InItem places change) := by
  intro spelling changed within
  cases within with
  | @item _ value _ _ item blank values place changed =>
    have valueBehind : IsValue (item.withValue value).value := (sound changed).2
    exact ⟨.list blank values, .list blank (values_of_replaced values valueBehind)⟩

theorem sound_inserted {grows : List String → Change} (sound : ∀ declared, (grows declared).Sound)
    (outer : List String) (key : String) (inner : List String) :
    Change.Sound (Inserted grows outer key inner) := by
  have entries := sound_inItem (fun _ => True) (sound inner)
  intro spelling changed inserted
  cases inserted with
  | top grown => exact sound outer grown
  | entry within => exact sound_inMember entries within
  | entryOfList within => exact sound_inItem _ entries within

/-! ## What is read behind a change -/

section Changes

variable {α β : Type} {reader : Reader α} {change : Change}

/-- Whether everything that is read of a value is read of the changed one, too. -/
def Keeps (reader : Reader α) (change : Change) : Prop :=
  ∀ ⦃spelling changed : List Char⦄ ⦃value : α⦄, change spelling changed →
    Reads reader spelling value → Reads reader changed value

/-- Whether nothing is read of a changed value. -/
def Refuses (reader : Reader α) (change : Change) : Prop :=
  ∀ ⦃spelling changed : List Char⦄, change spelling changed → ∀ value, ¬ Reads reader changed value

theorem Keeps.map (exact : Exact reader) (sound : change.Sound) (keeps : Keeps reader change)
    (f : α → β) : Keeps (reader.map f) change := by
  intro spelling changed image changes reads
  obtain ⟨value, rfl, own⟩ := reads.of_map exact (sound changes).1
  exact (keeps changes own).map f

theorem Refuses.map (exact : Exact reader) (sound : change.Sound) (refuses : Refuses reader change)
    (f : α → β) : Refuses (reader.map f) change := by
  intro spelling changed changes image reads
  obtain ⟨value, rfl, own⟩ := reads.of_map exact (sound changes).2
  exact refuses changes value own

end Changes

/-! ## Items of a list -/

section Items

variable {α : Type} {element : Reader α} {change : Change}

theorem forall₂_replace {α β : Type} {R : α → β → Prop} {before after : List α} {part changed : α}
    {found : List β} (keeps : ∀ value, R part value → R changed value)
    (all : List.Forall₂ R (before ++ part :: after) found) :
    List.Forall₂ R (before ++ changed :: after) found := by
  induction before generalizing found with
  | nil =>
    cases all with
    | cons first others => exact .cons (keeps _ first) others
  | cons other before ih =>
    cases all with
    | cons first others => exact .cons first (ih others)

theorem exists_of_forall₂ {α β : Type} {R : α → β → Prop} {before after : List α} {part : α}
    {found : List β} (all : List.Forall₂ R (before ++ part :: after) found) : ∃ value, R part value := by
  induction before generalizing found with
  | nil =>
    cases all with
    | cons first others => exact ⟨_, first⟩
  | cons other before ih =>
    cases all with
    | cons first others => exact ih others

theorem keeps_inItem (places : Nat → Prop) (exact : Exact element) (sound : change.Sound)
    (keeps : Keeps element change) : Keeps (.list element) (InItem places change) := by
  intro spelling changed found within reads
  cases within with
  | @item _ value _ _ item blank values place changed =>
    have valueBehind : IsValue (item.withValue value).value := (sound changed).2
    rw [reads_listText_iff exact blank values] at reads
    rw [reads_listText_iff exact blank (values_of_replaced values valueBehind)]
    exact forall₂_replace (fun _ => keeps changed) reads

theorem refuses_inItem (places : Nat → Prop) (exact : Exact element) (sound : change.Sound)
    (refuses : Refuses element change) : Refuses (.list element) (InItem places change) := by
  intro spelling changed within found reads
  cases within with
  | @item _ value _ _ item blank values place changed =>
    have valueBehind : IsValue (item.withValue value).value := (sound changed).2
    rw [reads_listText_iff exact blank (values_of_replaced values valueBehind)] at reads
    obtain ⟨image, reads⟩ := exists_of_forall₂ reads
    exact refuses changed image reads

end Items

/-! ## Members of an object -/

namespace Record

variable {δ ρ : Type} {record : Record δ ρ} {change : Change} {key : String} {field : Field δ}

theorem takes_append_iff {before after : List Member} {draft last : δ} :
    record.Takes draft (before ++ after) last ↔
      ∃ next, record.Takes draft before next ∧ record.Takes next after last := by
  induction before generalizing draft with
  | nil =>
    constructor
    · intro takes
      exact ⟨draft, .done draft, takes⟩
    · rintro ⟨next, done, takes⟩
      cases done
      exact takes
  | cons member before ih =>
    constructor
    · intro takes
      cases takes with
      | member turns others =>
        obtain ⟨next, first, last⟩ := ih.1 others
        exact ⟨next, .member turns first, last⟩
    · rintro ⟨next, first, last⟩
      cases first with
      | member turns others => exact .member turns (ih.2 ⟨next, others, last⟩)

/-- What is read of an object, told around one of its members. -/
theorem reads_around_iff (exact : record.ExactFields) {gap : List Char} {before after : List Member}
    {member : Member} {value : ρ} (blank : Blank gap)
    (values : ∀ other ∈ before ++ member :: after, IsValue other.item.value) :
    Reads record.reader (objectText gap (before ++ member :: after)) value ↔
      ∃ draft next last, record.Takes record.blank before draft ∧ record.Turns draft member next ∧
        record.Takes next after last ∧ record.finish last = .ok value := by
  rw [reads_objectText_iff exact blank values]
  constructor
  · rintro ⟨last, takes, finished⟩
    obtain ⟨draft, early, others⟩ := takes_append_iff.1 takes
    cases others with
    | member turns late => exact ⟨draft, _, last, early, turns, late, finished⟩
  · rintro ⟨draft, next, last, early, turns, late, finished⟩
    exact ⟨last, takes_append_iff.2 ⟨draft, early, .member turns late⟩, finished⟩

theorem turns_known_iff {draft next : δ} {member : Member} (named : Spells key member.key)
    (known : record.field? key = some field) :
    record.Turns draft member next ↔
      ∃ put, field.isSet draft = false ∧ Reads field.value member.item.value put ∧
        next = put draft := by
  constructor
  · intro turns
    cases turns with
    | field namedBehind knownBehind unset reads =>
      obtain rfl := named.unique namedBehind
      obtain rfl := Option.some.inj (known.symm.trans knownBehind)
      exact ⟨_, unset, reads, rfl⟩
    | ignored namedBehind unknown isOpen =>
      obtain rfl := named.unique namedBehind
      rw [known] at unknown
      cases unknown
  · rintro ⟨put, unset, reads, rfl⟩
    exact .field named known unset reads

theorem turns_unknown_iff {draft next : δ} {member : Member} (named : Spells key member.key)
    (unknown : record.field? key = none) :
    record.Turns draft member next ↔ record.isOpen ∧ next = draft := by
  constructor
  · intro turns
    cases turns with
    | field namedBehind known unset reads =>
      obtain rfl := named.unique namedBehind
      rw [unknown] at known
      cases known
    | ignored namedBehind unknownBehind isOpen => exact ⟨isOpen, rfl⟩
  · rintro ⟨isOpen, rfl⟩
    exact .ignored named unknown isOpen

theorem field?_eq_none_of_notMem {name : String}
    (undeclared : name ∉ record.fields.map Field.key) : record.field? name = none := by
  refine List.find?_eq_none.2 fun field member => ?_
  have different : field.key ≠ name := fun same => undeclared (same ▸ List.mem_map_of_mem member)
  simpa using different

/-- An open record leaves an extra member aside. -/
theorem keeps_grown (exact : record.ExactFields) (isOpen : record.isOpen) :
    Keeps record.reader (Grown (record.fields.map Field.key)) := by
  intro spelling changed value grown reads
  cases grown with
  | @insert gap before after extra name blank values named undeclared =>
    have unknown := field?_eq_none_of_notMem undeclared
    rw [reads_objectText_iff exact blank (values_of_inserted values)] at reads
    obtain ⟨last, takes, finished⟩ := reads
    -- The extra member leaves the draft that stands between the members before and after it.
    obtain ⟨draft, early, late⟩ := takes_append_iff.1 takes
    have ignored : record.Turns draft extra draft :=
      (turns_unknown_iff named unknown).2 ⟨isOpen, rfl⟩
    exact (reads_around_iff exact blank values).2
      ⟨draft, draft, last, early, ignored, late, finished⟩

/-- A closed record refuses an extra member. -/
theorem refuses_widened (exact : record.ExactFields) (closed : record.isOpen = false) :
    Refuses record.reader (Widened (record.fields.map Field.key)) := by
  intro spelling changed widened value reads
  cases widened with
  | insert blank values undeclared =>
    obtain ⟨draft, next, last, -, turns, -⟩ := (reads_around_iff exact blank values).1 reads
    cases turns with
    | field named known unset reads =>
      exact undeclared _ (key_mem_of_field? known) named
    | ignored named unknown isOpen =>
      rw [closed] at isOpen
      cases isOpen

theorem keeps_inMember (exact : record.ExactFields) (sound : change.Sound)
    (known : record.field? key = some field) (keeps : Keeps field.value change) :
    Keeps record.reader (InMember key change) := by
  intro spelling changed found within reads
  cases within with
  | @member _ value _ _ member blank values named changed =>
    have valueBehind : IsValue (member.withValue value).item.value := (sound changed).2
    have namedBehind : Spells key (member.withValue value).key := named
    obtain ⟨draft, next, last, early, turns, late, finished⟩ :=
      (reads_around_iff exact blank values).1 reads
    obtain ⟨put, unset, reads, rfl⟩ := (turns_known_iff named known).1 turns
    have turnsBehind : record.Turns draft (member.withValue value) (put draft) :=
      (turns_known_iff namedBehind known).2 ⟨put, unset, keeps changed reads, rfl⟩
    exact (reads_around_iff exact blank (values_of_replaced values valueBehind)).2
      ⟨draft, _, last, early, turnsBehind, late, finished⟩

theorem refuses_inMember (exact : record.ExactFields) (sound : change.Sound)
    (known : record.field? key = some field) (refuses : Refuses field.value change) :
    Refuses record.reader (InMember key change) := by
  intro spelling changed within found reads
  cases within with
  | @member _ value _ _ member blank values named changed =>
    have valueBehind : IsValue (member.withValue value).item.value := (sound changed).2
    have namedBehind : Spells key (member.withValue value).key := named
    obtain ⟨draft, next, last, -, turns, -⟩ :=
      (reads_around_iff exact blank (values_of_replaced values valueBehind)).1 reads
    obtain ⟨put, -, reads, -⟩ := (turns_known_iff namedBehind known).1 turns
    exact refuses changed put reads

/-! ## Fields in a list -/

theorem Lists.replace {fields : List (Field δ)} {draft last : δ} {before after : List Item}
    {item changed : Item} (known : fields[before.length]? = some field)
    (keeps : ∀ put, Reads field.value item.value put → Reads field.value changed.value put)
    (lists : Lists fields draft (before ++ item :: after) last) :
    Lists fields draft (before ++ changed :: after) last := by
  induction before generalizing fields draft with
  | nil =>
    cases lists with
    | field reads others =>
      obtain rfl := Option.some.inj known
      exact .field (keeps _ reads) others
  | cons other before ih =>
    cases lists with
    | field reads others => exact .field reads (ih known others)

theorem Lists.exists_reads {fields : List (Field δ)} {draft last : δ} {before after : List Item}
    {item : Item} (known : fields[before.length]? = some field)
    (lists : Lists fields draft (before ++ item :: after) last) :
    ∃ put, Reads field.value item.value put := by
  induction before generalizing fields draft with
  | nil =>
    cases lists with
    | field reads others =>
      obtain rfl := Option.some.inj known
      exact ⟨_, reads⟩
  | cons other before ih =>
    cases lists with
    | field reads others => exact ih known others

variable {places : Nat → Prop}

theorem keeps_inItem (exact : record.ExactFields) (sound : change.Sound)
    (known : ∀ place, places place → record.fields[place]? = some field)
    (keeps : Keeps field.value change) : Keeps record.reader (InItem places change) := by
  intro spelling changed found within reads
  cases within with
  | @item _ value _ _ item blank values place changed =>
    have valueBehind : IsValue (item.withValue value).value := (sound changed).2
    rw [reads_listText_iff exact blank values] at reads
    rw [reads_listText_iff exact blank (values_of_replaced values valueBehind)]
    obtain ⟨last, lists, finished⟩ := reads
    exact ⟨last, lists.replace (known _ place) fun _ => keeps changed, finished⟩

theorem refuses_inItem (exact : record.ExactFields) (sound : change.Sound)
    (known : ∀ place, places place → record.fields[place]? = some field)
    (refuses : Refuses field.value change) : Refuses record.reader (InItem places change) := by
  intro spelling changed within found reads
  cases within with
  | @item _ value _ _ item blank values place changed =>
    have valueBehind : IsValue (item.withValue value).value := (sound changed).2
    rw [reads_listText_iff exact blank (values_of_replaced values valueBehind)] at reads
    obtain ⟨last, lists, -⟩ := reads
    obtain ⟨put, reads⟩ := lists.exists_reads (known _ place)
    exact refuses changed put reads

/-! ## Records with a list of records -/

/-- In a list, a field stands at the place of its key. -/
theorem getElem?_of_field? {place : Nat} (distinct : (record.fields.map Field.key).Nodup)
    (known : record.field? key = some field)
    (found : (record.fields.map Field.key)[place]? = some key) :
    record.fields[place]? = some field := by
  obtain ⟨other, there, sameKey⟩ := Option.map_eq_some_iff.1 (List.getElem?_map ▸ found)
  -- The key is found at this place and by searching; it is the key of one field only.
  have named : field.key = key := by simpa using List.find?_some known
  obtain rfl := List.inj_on_of_nodup_map distinct (List.mem_of_getElem? there) (mem_of_field? known)
    (sameKey.trans named.symm)
  exact there

/-- Whether a record has a list of other records under a key. -/
structure Encloses {ε σ : Type} (outer : Record δ ρ) (key : String) (inner : Record ε σ) : Prop where
  exact : outer.ExactFields
  exactInner : inner.ExactFields
  distinct : (outer.fields.map Field.key).Nodup
  listed : ∃ field put, outer.field? key = some field ∧
    field.value = (Reader.list inner.reader).map put

variable {ε σ : Type} {inner : Record ε σ}

/-- If both kinds of records are open, extra members do not change what is read. -/
theorem Encloses.keeps_inserted (encloses : record.Encloses key inner) (isOpen : record.isOpen)
    (isOpenInner : inner.isOpen) : Keeps record.reader
      (Inserted Grown (record.fields.map Field.key) key (inner.fields.map Field.key)) := by
  obtain ⟨exact, exactInner, distinct, field, put, known, value⟩ := encloses
  have sound := sound_grown (inner.fields.map Field.key)
  have soundItems := sound_inItem (fun _ => True) sound
  have items := Json.keeps_inItem (fun _ => True) (Record.exact exactInner) sound
    (keeps_grown exactInner isOpenInner)
  have listed : Keeps field.value (InItem (fun _ => True) (Grown (inner.fields.map Field.key))) := by
    rw [value]
    exact items.map (Record.exact exactInner).list soundItems put
  intro spelling changed found inserted reads
  cases inserted with
  | top grown => exact keeps_grown exact isOpen grown reads
  | entry within => exact keeps_inMember exact soundItems known listed within reads
  | entryOfList within =>
    exact keeps_inItem exact soundItems (fun _ => getElem?_of_field? distinct known) listed within reads

/-- If both kinds of records are closed, nothing is read with an extra member in one of them. -/
theorem Encloses.refuses_inserted (encloses : record.Encloses key inner)
    (closed : record.isOpen = false) (closedInner : inner.isOpen = false) : Refuses record.reader
      (Inserted Widened (record.fields.map Field.key) key (inner.fields.map Field.key)) := by
  obtain ⟨exact, exactInner, distinct, field, put, known, value⟩ := encloses
  have sound := sound_widened (inner.fields.map Field.key)
  have soundItems := sound_inItem (fun _ => True) sound
  have items := Json.refuses_inItem (fun _ => True) (Record.exact exactInner) sound
    (refuses_widened exactInner closedInner)
  have listed : Refuses field.value (InItem (fun _ => True) (Widened (inner.fields.map Field.key))) := by
    rw [value]
    exact items.map (Record.exact exactInner).list soundItems put
  intro spelling changed inserted found reads
  cases inserted with
  | top widened => exact refuses_widened exact closed widened found reads
  | entry within => exact refuses_inMember exact soundItems known listed within found reads
  | entryOfList within =>
    exact refuses_inItem exact soundItems (fun _ => getElem?_of_field? distinct known) listed within
      found reads

end Record

/-! ## Sources -/

/-- Whether a source is a value with blanks around it. -/
def WellFormed (source : String) : Prop :=
  ∃ item : Item, source = String.ofList item.text ∧ IsValue item.value

/-- A change of the value of a source. -/
inductive InSource (change : Change) : String → String → Prop where
  | value {item : Item} {value : List Char} (changed : change item.value value) :
      InSource change (String.ofList item.text) (String.ofList (item.withValue value).text)

section Sources

variable {α : Type} {reader : Reader α} {change : Change} {source changed : String} {value : α}

theorem parse_eq_ok_iff : parse reader source = .ok value ↔
    ∃ rest, reader.read source.toList = .ok (value, rest) ∧ Blanks rest [] := by
  simp only [blanks_nil_iff]
  unfold parse
  constructor
  · intro read
    split at read
    next => cases read
    next rest taken =>
      split at read
      next ended =>
        cases read
        exact ⟨rest, taken, ended⟩
      next => cases read
  · rintro ⟨rest, taken, ended⟩
    simp only [taken, ended]

theorem Exact.wellFormed (exact : Exact reader) (read : parse reader source = .ok value) :
    WellFormed source := by
  obtain ⟨rest, taken, behind, blankBehind, rfl⟩ := parse_eq_ok_iff.1 read
  cases exact.valueForm taken with
  | @value spelling _ _ blanks isValue =>
    obtain ⟨before, blankBefore, same⟩ := blanks
    refine ⟨⟨before, spelling, behind, blankBefore, blankBehind⟩, ?_, isValue⟩
    rw [Item.text, ← String.toList_inj, String.toList_ofList, same, List.append_nil]

theorem Exact.parse_text_iff (exact : Exact reader) (item : Item) (isValue : IsValue item.value) :
    parse reader (String.ofList item.text) = .ok value ↔ Reads reader item.value value := by
  have delimited : Delimited item.behind := by
    simpa using delimited_nil.append item.blankBehind
  have ended : Blanks item.behind [] := ⟨item.behind, item.blankBehind, by simp⟩
  rw [parse_eq_ok_iff, String.toList_ofList, Item.text]
  constructor
  · rintro ⟨rest, taken, -⟩
    exact (exact.reads isValue item.blankBefore delimited taken).2
  · intro reads
    exact ⟨item.behind, reads item.blankBefore delimited, ended⟩

theorem Keeps.parse (exact : Exact reader) (sound : change.Sound) (keeps : Keeps reader change)
    (within : InSource change source changed) (read : parse reader source = .ok value) :
    parse reader changed = .ok value := by
  cases within with
  | @value item spelling changed =>
    obtain ⟨isValue, isValueBehind⟩ := sound changed
    have reads := (exact.parse_text_iff item isValue).1 read
    exact (exact.parse_text_iff (item.withValue spelling) isValueBehind).2
      (keeps changed reads)

theorem Refuses.parse (exact : Exact reader) (sound : change.Sound) (refuses : Refuses reader change)
    (within : InSource change source changed) : ∃ error, parse reader changed = .error error := by
  cases within with
  | @value item spelling changed =>
    have isValueBehind := (sound changed).2
    cases read : Json.parse reader (String.ofList (item.withValue spelling).text) with
    | error error => exact ⟨error, rfl⟩
    | ok value =>
      have reads := (exact.parse_text_iff (item.withValue spelling) isValueBehind).1 read
      exact absurd reads (refuses changed value)

end Sources

end StaticAtoms.Json
