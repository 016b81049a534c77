import Mathlib.Data.List.Forall2
import StaticAtoms.Proofs.Json.Recognition
import StaticAtoms.Proofs.Json.Skipping

/-!
# Readers take whole values

`Json.Exact reader` says that a reader takes nothing but values, and that it takes a value whole: what
it reads depends neither on the blanks in front of the value nor on what follows it.  The readers of
texts, numbers and truth values do, and lists do if their items are read like that.

`reads_listText_iff` says what is read of a list: something of every item, in order.
-/

namespace StaticAtoms.Json

variable {s t rest left : List Char}

/-- Whether a reader takes values off, and each of them whole. -/
structure Exact {α : Type} (reader : Reader α) : Prop where
  valueForm : ∀ ⦃s rest : List Char⦄ ⦃value : α⦄, reader.read s = .ok (value, rest) → ValueForm s rest
  reads : ∀ ⦃gap spelling rest left : List Char⦄ ⦃value : α⦄, IsValue spelling → Blank gap →
    Delimited rest → reader.read (gap ++ (spelling ++ rest)) = .ok (value, left) →
      left = rest ∧ Reads reader spelling value

theorem delimited_nil : Delimited [] :=
  trivial

/-! ## Scalars -/

theorem exact_text : Exact .text where
  valueForm := by
    intro s rest text read
    obtain ⟨t, blanks, form⟩ := textAt_eq_ok_iff.1 read
    obtain ⟨spelling, rfl, isText⟩ := isText_of_textForm form
    exact .value blanks (.text isText)
  reads := by
    intro gap spelling rest left text isValue blank delimited read
    obtain ⟨t, blanks, form⟩ := textAt_eq_ok_iff.1 read
    -- A text begins with its quote, and a value begins with no blank: both begin at the same place.
    have same : t = spelling ++ rest := by
      rw [← isValue.skipBlank_eq blank rest]
      cases form with
      | quoted chars => exact ((blanks_cons_iff rfl).1 blanks).symm
    subst same
    have isText : IsText spelling := by
      have starts := isValue.starts
      cases spelling with
      | nil => exact starts.elim
      | cons c inside =>
        cases form with
        | quoted chars => exact isValue.isText
    obtain ⟨same, spells⟩ := isText.exact form
    refine ⟨same, fun blanks rest blank delimited => ?_⟩
    exact textAt_eq_ok_iff.2 ⟨_, ⟨blanks, blank, rfl⟩, spells rest⟩

theorem word32At_eq_ok_iff {value : UInt32} : word32At s = .ok (value, rest) ↔
    ∃ c t number, skipBlank s = c :: t ∧ (c = '-' ∨ c.isDigit) ∧
      readNumber (c :: t) = .ok (number, rest) ∧ word32Of number = .ok value := by
  constructor
  · intro read
    unfold word32At at read
    split at read
    next => cases read
    next c t skipped =>
      split at read
      next lead =>
        split at read
        next => cases read
        next number behind taken =>
          split at read
          next => cases read
          next denoted =>
            cases read
            exact ⟨c, t, number, skipped, by simpa using lead, taken, denoted⟩
      next => cases read
  · rintro ⟨c, t, number, skipped, lead, taken, denoted⟩
    have isLead : (c = '-' || c.isDigit) = true := by simpa using lead
    simp only [word32At, skipped, isLead, ↓reduceIte, taken, denoted]

theorem exact_word32 : Exact .word32 where
  valueForm := by
    intro s rest value read
    obtain ⟨c, t, number, skipped, lead, taken, denoted⟩ := word32At_eq_ok_iff.1 read
    obtain ⟨spelling, isNumber, same⟩ := isNumber_of_readNumber taken
    exact .value (same ▸ skipped ▸ blanks_skipBlank s) (.number isNumber)
  reads := by
    intro gap spelling rest left value isValue blank delimited read
    obtain ⟨c, t, number, skipped, lead, taken, denoted⟩ := word32At_eq_ok_iff.1 read
    rw [isValue.skipBlank_eq blank rest] at skipped
    have starts := isValue.starts
    cases spelling with
    | nil => exact starts.elim
    | cons d inside =>
      obtain ⟨rfl, rfl⟩ := List.cons.inj skipped
      obtain ⟨same, again⟩ := (isValue.isNumber lead).exact delimited taken
      refine ⟨same, fun blanks rest blank delimited => word32At_eq_ok_iff.2 ?_⟩
      exact ⟨d, inside ++ rest, number, isValue.skipBlank_eq blank rest, lead,
        again rest delimited, denoted⟩

theorem flagWord_eq_ok_iff {letters : List Char} {flag found : Bool} :
    flagWord letters flag s = .ok (found, rest) ↔ found = flag ∧ s = letters ++ rest := by
  rw [← word_eq_ok_iff, flagWord]
  constructor
  · intro read
    split at read
    next => cases read
    next taken =>
      cases read
      exact ⟨rfl, taken⟩
  · rintro ⟨rfl, taken⟩
    simp only [taken]

theorem booleanAt_eq_ok_iff {flag : Bool} :
    booleanAt s = .ok (flag, rest) ↔ skipBlank s = writeFlag flag ++ rest := by
  constructor
  · intro read
    unfold booleanAt at read
    split at read
    next skipped =>
      obtain ⟨rfl, rfl⟩ := flagWord_eq_ok_iff.1 read
      exact skipped
    next skipped =>
      obtain ⟨rfl, rfl⟩ := flagWord_eq_ok_iff.1 read
      exact skipped
    next => cases read
  · intro skipped
    cases flag with
    | true =>
      simp only [booleanAt, skipped, writeFlag, List.cons_append]
      exact flagWord_eq_ok_iff.2 ⟨rfl, rfl⟩
    | false =>
      simp only [booleanAt, skipped, writeFlag, List.cons_append]
      exact flagWord_eq_ok_iff.2 ⟨rfl, rfl⟩

theorem writeFlag_mem_words (flag : Bool) : writeFlag flag ∈ words := by
  cases flag <;> decide

/-- A value that begins with a truth value is that truth value. -/
theorem IsValue.eq_writeFlag {spelling : List Char} {flag : Bool} (isValue : IsValue spelling)
    (same : spelling ++ rest = writeFlag flag ++ left) : spelling = writeFlag flag := by
  have starts := isValue.starts
  cases spelling with
  | nil => exact starts.elim
  | cons c inside =>
    cases flag with
    | true =>
      obtain ⟨rfl, -⟩ := List.cons.inj same
      simpa [words, writeFlag] using isValue.mem_words (by decide)
    | false =>
      obtain ⟨rfl, -⟩ := List.cons.inj same
      simpa [words, writeFlag] using isValue.mem_words (by decide)

theorem exact_boolean : Exact .boolean where
  valueForm := by
    intro s rest flag read
    have skipped := booleanAt_eq_ok_iff.1 read
    exact .value (skipped ▸ blanks_skipBlank s) (.word (writeFlag_mem_words flag))
  reads := by
    intro gap spelling rest left flag isValue blank delimited read
    have skipped := booleanAt_eq_ok_iff.1 read
    rw [isValue.skipBlank_eq blank rest] at skipped
    obtain rfl := isValue.eq_writeFlag skipped
    refine ⟨(List.append_cancel_left skipped).symm, reads_writeFlag flag⟩

theorem Reads.of_map {α β : Type} {reader : Reader α} {f : α → β} {spelling : List Char}
    {image : β} (exact : Exact reader) (isValue : IsValue spelling)
    (reads : Reads (reader.map f) spelling image) :
    ∃ value, f value = image ∧ Reads reader spelling value := by
  have read := reads blank_nil delimited_nil
  simp only [Reader.map] at read
  split at read
  next => cases read
  next value left taken =>
    cases read
    exact ⟨value, rfl, (exact.reads isValue blank_nil delimited_nil taken).2⟩

theorem Exact.map {α β : Type} {reader : Reader α} (exact : Exact reader) (f : α → β) :
    Exact (reader.map f) where
  valueForm := by
    intro s rest image read
    simp only [Reader.map] at read
    split at read
    next => cases read
    next taken =>
      cases read
      exact exact.valueForm taken
  reads := by
    intro gap spelling rest left image isValue blank delimited read
    simp only [Reader.map] at read
    split at read
    next => cases read
    next taken =>
      cases read
      obtain ⟨same, reads⟩ := exact.reads isValue blank delimited taken
      exact ⟨same, reads.map f⟩

/-! ## Lists -/

section Lists

variable {α : Type} {element : Reader α} {gap : List Char} {items : List Item} {item : Item}

/-- The next item of a list stands behind blanks, and a comma among them except before the first. -/
theorem nextItem_of_lead {first : Bool} (value : IsValue item.value)
    (lead : LeadForm first s (item.text ++ rest)) :
    nextItem first s = .ok (true, item.value ++ (item.behind ++ rest)) := by
  have blanks : Blanks (item.text ++ rest) (item.value ++ (item.behind ++ rest)) :=
    ⟨item.before, item.blankBefore, by simp [Item.text]⟩
  exact nextItem_eq_item_iff.2 ⟨lead.trans blanks, value.starts.append _⟩

/-- The items behind an opening bracket are looked for like those behind a comma. -/
theorem nextItem_inside (values : ∀ item ∈ items, IsValue item.value) (blank : Blank gap)
    (rest : List Char) :
    nextItem true (gap ++ (Bracket.list.inside (items.map Item.text) ++ rest)) =
      nextItem false (Bracket.list.ending (items.map Item.text) ++ rest) := by
  cases items with
  | nil =>
    have closed : Blanks (gap ++ ']' :: rest) (']' :: rest) := ⟨gap, blank, rfl⟩
    exact (nextItem_eq_end_iff.2 closed).trans (nextItem_eq_end_iff.2 (.refl _)).symm
  | cons item items =>
    have value := values item List.mem_cons_self
    rw [List.map_cons, Bracket.inside, Bracket.ending, List.cons_append, List.append_assoc]
    exact (nextItem_of_lead value (.first ⟨gap, blank, rfl⟩)).trans
      (nextItem_of_lead value (.next (.refl _) (.refl _))).symm

/-- One step over the items of a list. -/
theorem itemsFrom_eq (first : Bool) (seen : List α) (s : List Char) :
    itemsFrom element first seen s =
      match nextItem first s with
      | .error failure => .error failure
      | .ok (false, rest) => .ok (seen.reverse, rest)
      | .ok (true, start) =>
          match element.read start with
          | .error failure => .error failure
          | .ok (value, rest) => itemsFrom element false (value :: seen) rest := by
  rw [itemsFrom]
  split
  next failed => rw [failed]
  next ended => rw [ended]
  next next =>
    rw [next]
    dsimp only
    split
    next failed => rw [failed]
    next taken => rw [taken]

theorem itemsFrom_congr {first other : Bool} {seen : List α}
    (same : nextItem first s = nextItem other t) :
    itemsFrom element first seen s = itemsFrom element other seen t := by
  rw [itemsFrom_eq, itemsFrom_eq, same]

theorem itemsFrom_eq_ok_cons_iff {seen all : List α} {first : Bool} {start : List Char}
    (next : nextItem first s = .ok (true, start)) :
    itemsFrom element first seen s = .ok (all, rest) ↔
      ∃ value t, element.read start = .ok (value, t) ∧
        itemsFrom element false (value :: seen) t = .ok (all, rest) := by
  rw [itemsFrom_eq, next]
  dsimp only
  cases taken : element.read start with
  | error failure => simp
  | ok found =>
    obtain ⟨value, t⟩ := found
    simp

/-- What is read of the items of a list: something of each of them, up to the closing bracket. -/
theorem itemsFrom_ending_iff (exact : Exact element) (values : ∀ item ∈ items, IsValue item.value)
    {seen all : List α} :
    itemsFrom element false seen (Bracket.list.ending (items.map Item.text) ++ rest) =
        .ok (all, left) ↔
      left = rest ∧ ∃ found, all = seen.reverse ++ found ∧
        List.Forall₂ (fun item value => Reads element item.value value) items found := by
  -- Every item is put in front of those seen before, so these are any.
  induction items generalizing seen with
  | nil =>
    have ended : nextItem false (Bracket.list.ending [] ++ rest) = .ok (false, rest) :=
      nextItem_eq_end_iff.2 (.refl _)
    rw [List.map_nil, itemsFrom_of_end seen ended]
    simp [and_comm, eq_comm]
  | cons item items ih =>
    rw [List.forall_mem_cons] at values
    have delimited := Bracket.list.delimited_ending (items.map Item.text) rest
    have next : nextItem false (Bracket.list.ending ((item :: items).map Item.text) ++ rest) =
        .ok (true, item.value ++
          (item.behind ++ (Bracket.list.ending (items.map Item.text) ++ rest))) := by
      rw [List.map_cons, Bracket.ending, List.cons_append, List.append_assoc]
      exact nextItem_of_lead values.1 (.next (.refl _) (.refl _))
    have behind : Blanks (item.behind ++ (Bracket.list.ending (items.map Item.text) ++ rest))
        (Bracket.list.ending (items.map Item.text) ++ rest) :=
      ⟨item.behind, item.blankBehind, rfl⟩
    have passed : nextItem false (item.behind ++
        (Bracket.list.ending (items.map Item.text) ++ rest)) =
          nextItem false (Bracket.list.ending (items.map Item.text) ++ rest) := by
      simp only [nextItem, behind.skipBlank_eq]
    rw [itemsFrom_eq_ok_cons_iff next]
    constructor
    · rintro ⟨value, t, taken, read⟩
      obtain ⟨rfl, reads⟩ :=
        exact.reads values.1 blank_nil (delimited.append item.blankBehind) taken
      rw [itemsFrom_congr passed, ih values.2] at read
      obtain ⟨rfl, found, rfl, others⟩ := read
      exact ⟨rfl, value :: found, by simp, .cons reads others⟩
    · rintro ⟨rfl, found, rfl, all⟩
      cases all with
      | @cons _ value _ found reads others =>
        refine ⟨value, _, reads.read_append (delimited.append item.blankBehind), ?_⟩
        rw [itemsFrom_congr passed, ih values.2]
        exact ⟨rfl, found, by simp, others⟩

theorem listAt_listText {blanks : List Char} (values : ∀ item ∈ items, IsValue item.value)
    (blankFront : Blank blanks) (blank : Blank gap) (rest : List Char) :
    (Reader.list element).read (blanks ++ (listText gap items ++ rest)) =
      itemsFrom element false [] (Bracket.list.ending (items.map Item.text) ++ rest) := by
  have opened : skipBlank (blanks ++ (listText gap items ++ rest)) =
      '[' :: (gap ++ (Bracket.list.inside (items.map Item.text) ++ rest)) := by
    rw [skipBlank_append blankFront, listText, between_eq, List.cons_append, List.append_assoc]
    exact skipBlank_cons rfl _
  simp only [Reader.list, listAt, opened]
  exact itemsFrom_congr (nextItem_inside values blank rest)

theorem read_listText_iff (exact : Exact element) {blanks : List Char} {found : List α}
    (values : ∀ item ∈ items, IsValue item.value) (blankFront : Blank blanks) (blank : Blank gap) :
    (Reader.list element).read (blanks ++ (listText gap items ++ rest)) = .ok (found, left) ↔
      left = rest ∧
        List.Forall₂ (fun item value => Reads element item.value value) items found := by
  rw [listAt_listText values blankFront blank, itemsFrom_ending_iff exact values]
  simp

/-- A list is read where something is read of every item, in order. -/
theorem reads_listText_iff (exact : Exact element) {found : List α} (blank : Blank gap)
    (values : ∀ item ∈ items, IsValue item.value) :
    Reads (.list element) (listText gap items) found ↔
      List.Forall₂ (fun item value => Reads element item.value value) items found := by
  constructor
  · intro reads
    exact ((read_listText_iff exact values blank_nil blank).1 (reads blank_nil delimited_nil)).2
  · intro all blanks rest blankFront delimited
    exact (read_listText_iff exact values blankFront blank).2 ⟨rfl, all⟩

theorem insideForm_of_itemsFrom (exact : Exact element) {first : Bool} {seen all : List α}
    (read : itemsFrom element first seen s = .ok (all, rest)) : InsideForm .list first s rest := by
  fun_induction itemsFrom element first seen s with
  | case1 => cases read
  | case2 first seen s behind ended =>
    cases read
    exact .close (nextItem_eq_end_iff.1 ended)
  | case3 => cases read
  | case4 first seen s start next value behind taken ih =>
    obtain ⟨lead, -⟩ := nextItem_eq_item_iff.1 next
    exact .part lead (exact.valueForm taken).item (ih read).endForm

theorem Exact.list (exact : Exact element) : Exact (.list element) where
  valueForm := by
    intro s rest found read
    change listAt element s = _ at read
    unfold listAt at read
    split at read
    next inside opened =>
      exact (insideForm_of_itemsFrom exact read).valueForm.lead (opened ▸ blanks_skipBlank s)
    next => cases read
  reads := by
    intro gap spelling rest left found isValue blank delimited read
    have opened : ∃ inside, spelling = '[' :: inside := by
      change listAt element _ = _ at read
      unfold listAt at read
      rw [isValue.skipBlank_eq blank rest] at read
      have starts := isValue.starts
      cases spelling with
      | nil => exact starts.elim
      | cons c inside =>
        split at read
        next same => exact ⟨inside, by rw [(List.cons.inj same).1]⟩
        next => cases read
    obtain ⟨inside, rfl⟩ := opened
    obtain ⟨gapBehind, items, blankBehind, values, same⟩ := isValue.exists_items
    rw [same] at read ⊢
    obtain ⟨rfl, all⟩ := (read_listText_iff exact values blank blankBehind).1 read
    exact ⟨rfl, (reads_listText_iff exact blankBehind values).2 all⟩

end Lists

end StaticAtoms.Json
