import StaticAtoms.Proofs.Json.Structures

/-!
# Readers recognize their grammar

`Json.Recognizes reader forms` says that a reader takes the given forms of its values off the front of
a text, with the blanks before them, and takes nothing else.  The readers of texts and lists do,
`recognizes_text` and `recognizes_list`, and so does a whole source: `Recognizes.parse_eq_ok_iff`.
-/

namespace StaticAtoms.Json

variable {s t rest : List Char}

/-! ## Readers -/

/-- Whether a reader takes the forms of its values, which begin like the items of a list, and takes
nothing else. -/
structure Recognizes {α : Type} (reader : Reader α) (forms : α → Form) : Prop where
  starts : ∀ {value s rest}, forms value s rest → Starts s
  read_iff : ∀ {value s rest},
    reader.read s = .ok (value, rest) ↔ ∃ t, Blanks s t ∧ forms value t rest

theorem recognizes_text : Recognizes .text TextForm where
  starts := by
    rintro text s rest ⟨form⟩
    exact ⟨rfl, by decide⟩
  read_iff := textAt_eq_ok_iff

/-- A mapped value has the forms of the values that are mapped to it. -/
theorem Recognizes.map {α β : Type} {reader : Reader α} {forms : α → Form}
    (recognizes : Recognizes reader forms) (f : α → β) :
    Recognizes (reader.map f) fun image s rest => ∃ value, f value = image ∧ forms value s rest where
  starts := by
    rintro image s rest ⟨value, -, form⟩
    exact recognizes.starts form
  read_iff := by
    intro image s rest
    constructor
    · intro read
      simp only [Reader.map] at read
      split at read
      next => cases read
      next value left taken =>
        cases read
        obtain ⟨t, blanks, form⟩ := recognizes.read_iff.1 taken
        exact ⟨t, blanks, value, rfl, form⟩
    · rintro ⟨t, blanks, value, rfl, form⟩
      simp only [Reader.map, recognizes.read_iff.2 ⟨t, blanks, form⟩]

/-! ## Lists -/

theorem LeadForm.trans {first : Bool} (lead : LeadForm first s t) (blanks : Blanks t rest) :
    LeadForm first s rest := by
  cases lead with
  | first front => exact .first (front.trans blanks)
  | next front behind => exact .next front (behind.trans blanks)

section Elements

variable {α : Type} {element : Reader α} {forms : α → Form}

/-- An item is read where its form stands behind what leads to it. -/
theorem Recognizes.item_iff (recognizes : Recognizes element forms) {first : Bool} {value : α} :
    (∃ start, nextItem first s = .ok (true, start) ∧ element.read start = .ok (value, rest)) ↔
      ∃ t, LeadForm first s t ∧ forms value t rest := by
  constructor
  · rintro ⟨start, next, read⟩
    obtain ⟨lead, -⟩ := nextItem_eq_item_iff.1 next
    obtain ⟨t, blanks, form⟩ := recognizes.read_iff.1 read
    exact ⟨t, lead.trans blanks, form⟩
  · rintro ⟨t, lead, form⟩
    exact ⟨t, nextItem_eq_item_iff.2 ⟨lead, recognizes.starts form⟩,
      recognizes.read_iff.2 ⟨t, .refl t, form⟩⟩

theorem partsForm_of_itemsFrom (recognizes : Recognizes element forms) {first : Bool}
    {seen all : List α} (read : itemsFrom element first seen s = .ok (all, rest)) :
    ∃ values, all = seen.reverse ++ values ∧ PartsForm ']' first (values.map forms) s rest := by
  fun_induction itemsFrom element first seen s with
  | case1 => cases read
  | case2 first seen s behind ended =>
    cases read
    exact ⟨[], by simp, .close (nextItem_eq_end_iff.1 ended)⟩
  | case3 => cases read
  | case4 first seen s start next value behind taken ih =>
    obtain ⟨values, rfl, others⟩ := ih read
    obtain ⟨t, lead, form⟩ := recognizes.item_iff.1 ⟨start, next, taken⟩
    exact ⟨value :: values, by simp, .part lead form others⟩

theorem itemsFrom_of_partsForm (recognizes : Recognizes element forms) {first : Bool}
    {values : List α} (form : PartsForm ']' first (values.map forms) s rest) (seen : List α) :
    itemsFrom element first seen s = .ok (seen.reverse ++ values, rest) := by
  induction values generalizing first s seen with
  | nil =>
    cases form with
    | close blanks =>
      rw [List.append_nil]
      exact itemsFrom_of_end seen (nextItem_eq_end_iff.2 blanks)
  | cons value values ih =>
    cases form with
    | part lead spelled others =>
      obtain ⟨start, next, read⟩ := recognizes.item_iff.2 ⟨_, lead, spelled⟩
      rw [itemsFrom_of_item seen next read, ih others, List.reverse_cons, List.append_assoc]
      rfl

theorem recognizes_list (recognizes : Recognizes element forms) :
    Recognizes (.list element) fun values => ListForm (values.map forms) where
  starts := by
    rintro values s rest ⟨inside⟩
    exact ⟨rfl, by decide⟩
  read_iff := by
    intro values s rest
    constructor
    · intro read
      change listAt element s = _ at read
      unfold listAt at read
      split at read
      next inside opened =>
        obtain ⟨_, rfl, form⟩ := partsForm_of_itemsFrom recognizes read
        exact ⟨'[' :: inside, opened ▸ blanks_skipBlank s, .brackets form⟩
      next => cases read
    · rintro ⟨_, blanks, ⟨form⟩⟩
      change listAt element s = _
      rw [listAt, (blanks_cons_iff rfl).1 blanks]
      exact itemsFrom_of_partsForm recognizes form []

end Elements

/-! ## Whole sources -/

theorem Recognizes.parse_eq_ok_iff {α : Type} {reader : Reader α} {forms : α → Form}
    (recognizes : Recognizes reader forms) {source : String} {value : α} :
    parse reader source = .ok value ↔
      ∃ s t, Blanks source.toList s ∧ forms value s t ∧ Blanks t [] := by
  constructor
  · intro read
    unfold parse at read
    split at read
    next => cases read
    next found rest taken =>
      obtain ⟨s, blanks, form⟩ := recognizes.read_iff.1 taken
      split at read
      next ended =>
        cases read
        exact ⟨s, rest, blanks, form, blanks_nil_iff.2 ended⟩
      next => cases read
  · rintro ⟨s, t, blanks, form, blanksBehind⟩
    simp only [parse, recognizes.read_iff.2 ⟨s, blanks, form⟩, blanks_nil_iff.1 blanksBehind]

end StaticAtoms.Json
