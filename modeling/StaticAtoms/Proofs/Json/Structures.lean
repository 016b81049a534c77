import StaticAtoms.Proofs.Json.Scalars

/-!
# Lists and objects read back

What `Json.writeList` and `Json.writeObject` write in a layout of blanks is read back, given that
the parts are.

* `nextItem_eq_item_iff`, `nextItem_eq_end_iff`, `Record.nextKey_eq_some_iff` and
  `Record.nextKey_eq_none_iff` say what may stand in front of an item, a key and a closing bracket.
* `reads_writeList` goes through the items, by `itemsFrom_of_item` for one of them.
* `Record.Fills` says what the members of an object do to the draft of a record, in any order;
  `reads_writeObject` goes through them, by `Record.readMembers_of_member` for one of them.
-/

namespace StaticAtoms.Json

/-- Whether a layout puts nothing but blanks between the tokens. -/
structure Layout.IsBlank (layout : Layout) : Prop where
  gap : Blank layout.gap
  newline : ∀ depth, Blank (layout.newline depth)

theorem Layout.isBlank_compact : compact.IsBlank where
  gap := blank_nil
  newline _ := blank_nil

theorem Layout.isBlank_pretty : pretty.IsBlank where
  gap := by
    intro c member
    obtain rfl := List.mem_singleton.1 member
    rfl
  newline depth := by
    intro c member
    obtain rfl | indented := List.mem_cons.1 member
    · rfl
    · obtain rfl := List.eq_of_mem_replicate indented
      rfl

/-- Items behind a comma each. -/
def separated (gap : List Char) (items : List (List Char)) : List Char :=
  items.flatMap fun item => ',' :: gap ++ item

theorem separated_cons (gap item : List Char) (items : List (List Char)) (rest : List Char) :
    separated gap (item :: items) ++ rest =
      ',' :: (gap ++ (item ++ (separated gap items ++ rest))) := by
  simp [separated]

theorem writeBetween_cons (layout : Layout) (depth : Nat) (opening closing : Char)
    (item : List Char) (items : List (List Char)) (rest : List Char) :
    writeBetween layout depth opening closing (item :: items) ++ rest =
      opening :: (layout.newline (depth + 1) ++ (item ++
        (separated (layout.newline (depth + 1)) items ++
          (layout.newline depth ++ closing :: rest)))) := by
  simp [writeBetween, separated]

/-- What stands behind an item: further items behind their commas, or the closing bracket. -/
theorem delimited_separated {blanks : List Char} {closing : Char}
    (closes : closing = ']' ∨ closing = '\x7d') (blank : Blank blanks) (gap : List Char)
    (items : List (List Char)) (rest : List Char) :
    Delimited (separated gap items ++ (blanks ++ closing :: rest)) := by
  cases items with
  | nil =>
    have closed : Delimited (closing :: rest) := .inr (.inr closes)
    show Delimited (blanks ++ closing :: rest)
    exact closed.append blank
  | cons item items => exact .comma _

/-- What the spelling of an item can begin with: no blank and no closing bracket. -/
def Starts : List Char → Prop
  | [] => False
  | c :: _ => isBlank c = false ∧ c ≠ ']'

theorem Starts.append {item : List Char} (starts : Starts item) (rest : List Char) :
    Starts (item ++ rest) := by
  cases item with
  | nil => exact starts.elim
  | cons c item => exact starts

theorem LeadForm.of_skipBlank {s t : List Char} (skipped : skipBlank s = t) : LeadForm true s t :=
  .first (skipped ▸ blanks_skipBlank s)

theorem LeadForm.of_skipBlank_comma {s t rest : List Char} (skipped : skipBlank s = ',' :: t)
    (skippedBehind : skipBlank t = rest) : LeadForm false s rest :=
  .next (skipped ▸ blanks_skipBlank s) (skippedBehind ▸ blanks_skipBlank t)

/-! ## Lists -/

section Lists

variable {α : Type} {element : Reader α} {blanks gap s t rest : List Char}

theorem nextItem_eq_end_iff {first : Bool} :
    nextItem first s = .ok (false, rest) ↔ Blanks s (']' :: rest) := by
  rw [blanks_cons_iff rfl]
  constructor
  · intro next
    unfold nextItem at next
    grind
  · intro skipped
    simp [nextItem, skipped]

theorem nextItem_eq_item_iff {first : Bool} :
    nextItem first s = .ok (true, t) ↔ LeadForm first s t ∧ Starts t := by
  constructor
  · intro next
    unfold nextItem at next
    split at next
    next => cases next
    next c behind skipped =>
      split at next
      next => cases next
      next notClosing =>
        split at next
        next isFirst =>
          cases next
          rw [isFirst]
          exact ⟨.of_skipBlank skipped, filled_of_skipBlank skipped, notClosing⟩
        next isNext =>
          rw [Bool.eq_false_iff.2 isNext]
          split at next
          next comma =>
            split at next
            next => cases next
            next d others skippedBehind =>
              split at next
              next => cases next
              next notClosing =>
                cases next
                rw [comma] at skipped
                exact ⟨.of_skipBlank_comma skipped skippedBehind,
                  filled_of_skipBlank skippedBehind, notClosing⟩
          next => cases next
  · rintro ⟨lead, starts⟩
    cases t with
    | nil => exact starts.elim
    | cons c t =>
      cases lead with
      | first blanks => simp [nextItem, (blanks_cons_iff starts.1).1 blanks, starts.2]
      | next blanks blanksBehind =>
        simp [nextItem, (blanks_cons_iff rfl).1 blanks, (blanks_cons_iff starts.1).1 blanksBehind,
          starts.2]

theorem itemsFrom_of_end {first : Bool} {s : List Char} (seen : List α)
    (ended : nextItem first s = .ok (false, rest)) :
    itemsFrom element first seen s = .ok (seen.reverse, rest) := by
  -- Reading recurses on the length of the text, so it is opened once and not simplified.
  rw [itemsFrom]
  split
  next failed => rw [ended] at failed; cases failed
  next read => rw [ended] at read; cases read; rfl
  next read => rw [ended] at read; cases read

/-- One item of a list is read, and the list goes on behind it. -/
theorem itemsFrom_of_item {first : Bool} {s start : List Char} {value : α} (seen : List α)
    (item : nextItem first s = .ok (true, start)) (taken : element.read start = .ok (value, rest)) :
    itemsFrom element first seen s = itemsFrom element false (value :: seen) rest := by
  rw [itemsFrom]
  split
  next failed => rw [item] at failed; cases failed
  next read => rw [item] at read; cases read
  next read =>
    rw [item] at read
    cases read
    split
    next failed => rw [taken] at failed; cases failed
    next read => rw [taken] at read; cases read; rfl

theorem itemsFrom_separated {write : α → List Char} (blankGap : Blank gap) (blank : Blank blanks)
    (values seen : List α) (reads : ∀ value ∈ values, Reads element (write value) value)
    (starts : ∀ value ∈ values, Starts (write value)) :
    itemsFrom element false seen (separated gap (values.map write) ++ (blanks ++ ']' :: rest)) =
      .ok (seen.reverse ++ values, rest) := by
  induction values generalizing seen with
  | nil =>
    rw [List.append_nil]
    exact itemsFrom_of_end seen (nextItem_eq_end_iff.2 ⟨blanks, blank, rfl⟩)
  | cons value values ih =>
    rw [List.forall_mem_cons] at reads starts
    have behind := delimited_separated (.inl rfl) blank gap (values.map write) rest
    have item (rest : List Char) := nextItem_eq_item_iff.2
      ⟨.next (.refl _) ⟨gap, blankGap, rfl⟩, starts.1.append rest⟩
    rw [List.map_cons, separated_cons]
    refine (itemsFrom_of_item seen (item _) (reads.1.read_append behind)).trans ?_
    rw [ih _ reads.2 starts.2, List.reverse_cons, List.append_assoc]
    rfl

theorem reads_writeList {layout : Layout} {write : α → List Char} (blank : layout.IsBlank)
    (depth : Nat) (values : List α) (reads : ∀ value ∈ values, Reads element (write value) value)
    (starts : ∀ value ∈ values, Starts (write value)) :
    Reads (.list element) (writeList layout depth (values.map write)) values := by
  intro blanks rest blankFront delimited
  simp only [Reader.list, listAt, skipBlank_append blankFront]
  cases values with
  | nil =>
    simp only [writeList, List.map_nil, writeBetween, List.cons_append]
    rw [skipBlank_cons rfl]
    exact itemsFrom_of_end [] (nextItem_eq_end_iff.2 (.refl _))
  | cons value values =>
    rw [List.forall_mem_cons] at reads starts
    have behind := delimited_separated (.inl rfl) (blank.newline depth) (layout.newline (depth + 1))
      (values.map write) rest
    have item (rest : List Char) := nextItem_eq_item_iff.2
      ⟨.first ⟨layout.newline (depth + 1), blank.newline _, rfl⟩, starts.1.append rest⟩
    rw [List.map_cons, writeList, writeBetween_cons, skipBlank_cons rfl]
    refine (itemsFrom_of_item [] (item _) (reads.1.read_append behind)).trans ?_
    exact itemsFrom_separated (blank.newline _) (blank.newline _) values [value] reads.2 starts.2

end Lists

/-! ## Objects -/

namespace Record

variable {δ ρ : Type} {record : Record δ ρ} {blanks gap s t rest : List Char}

theorem colon_eq_ok_iff : colon s = .ok rest ↔ Blanks s (':' :: rest) := by
  rw [blanks_cons_iff rfl]
  constructor
  · intro read
    unfold colon at read
    split at read
    · cases read
    next skipped =>
      cases read
      exact skipped
    · cases read
  · intro skipped
    simp only [colon, skipped]

theorem keyAt_eq_ok_iff {found : Option String} :
    keyAt s = .ok (found, rest) ↔ ∃ key, found = some key ∧ TextForm key s rest := by
  constructor
  · intro read
    unfold keyAt at read
    split at read
    next =>
      split at read
      next => cases read
      next key left taken =>
        cases read
        exact ⟨key, rfl, readText_eq_ok_iff.1 taken⟩
    next => cases read
  · rintro ⟨key, rfl, ⟨form⟩⟩
    simp [keyAt, readText_eq_ok_iff.2 (.quoted form)]

theorem nextKey_eq_none_iff {first : Bool} :
    nextKey first s = .ok (none, rest) ↔ Blanks s ('\x7d' :: rest) := by
  rw [blanks_cons_iff rfl]
  constructor
  · intro next
    unfold nextKey at next
    grind [keyAt_eq_ok_iff]
  · intro skipped
    simp [nextKey, skipped]

theorem nextKey_eq_some_iff {first : Bool} {key : String} :
    nextKey first s = .ok (some key, rest) ↔ ∃ t, LeadForm first s t ∧ TextForm key t rest := by
  constructor
  · intro next
    unfold nextKey at next
    split at next
    next => cases next
    next c behind skipped =>
      split at next
      next => cases next
      next =>
        split at next
        next isFirst =>
          obtain ⟨_, same, form⟩ := keyAt_eq_ok_iff.1 next
          cases same
          rw [isFirst]
          exact ⟨_, .of_skipBlank skipped, form⟩
        next isNext =>
          rw [Bool.eq_false_iff.2 isNext]
          split at next
          next comma =>
            split at next
            next => cases next
            next d others skippedBehind =>
              split at next
              next => cases next
              next =>
                obtain ⟨_, same, form⟩ := keyAt_eq_ok_iff.1 next
                cases same
                rw [comma] at skipped
                exact ⟨_, .of_skipBlank_comma skipped skippedBehind, form⟩
          next => cases next
  · rintro ⟨t, lead, ⟨form⟩⟩
    cases lead with
    | first blanks =>
      simp [nextKey, (blanks_cons_iff rfl).1 blanks, keyAt_eq_ok_iff.2 ⟨key, rfl, .quoted form⟩]
    | next blanks blanksBehind =>
      simp [nextKey, (blanks_cons_iff rfl).1 blanks, (blanks_cons_iff rfl).1 blanksBehind,
        keyAt_eq_ok_iff.2 ⟨key, rfl, .quoted form⟩]

theorem readMember_of_field {draft : δ} {key : String} {field : Field δ} {put : δ → δ}
    {spelling : List Char} (known : record.field? key = some field)
    (unset : field.isSet draft = false) (reads : Reads field.value spelling put)
    (blank : Blank blanks) (blankGap : Blank gap) (delimited : Delimited rest) :
    record.readMember draft key (blanks ++ ':' :: (gap ++ (spelling ++ rest))) =
      .ok (put draft, rest) := by
  have colon : colon (blanks ++ ':' :: (gap ++ (spelling ++ rest))) = .ok _ :=
    colon_eq_ok_iff.2 ⟨blanks, blank, rfl⟩
  simp only [readMember, known, unset, Bool.false_eq_true, ↓reduceIte, colon,
    reads blankGap delimited]

theorem readMembers_of_end {first : Bool} {s : List Char} (draft : δ)
    (ended : nextKey first s = .ok (none, rest)) :
    record.readMembers first draft s = .ok (draft, rest) := by
  rw [readMembers]
  split
  next failed => rw [ended] at failed; cases failed
  next read => rw [ended] at read; cases read; rfl
  next read => rw [ended] at read; cases read

/-- One member of an object is read, and the object goes on behind it. -/
theorem readMembers_of_member {first : Bool} {draft after : δ} {key : String}
    {s afterKey : List Char} (found : nextKey first s = .ok (some key, afterKey))
    (taken : record.readMember draft key afterKey = .ok (after, rest)) :
    record.readMembers first draft s = record.readMembers false after rest := by
  rw [readMembers]
  split
  next failed => rw [found] at failed; cases failed
  next read => rw [found] at read; cases read
  next read =>
    rw [found] at read
    cases read
    split
    next failed => rw [taken] at failed; cases failed
    next read => rw [taken] at read; cases read; rfl

/-- What members do to a draft: each of them is a field that is not set yet, spelled as a value that
is put into the draft. -/
inductive Fills (record : Record δ ρ) : δ → List (String × List Char) → δ → Prop where
  | done (draft : δ) : Fills record draft [] draft
  | member {draft after : δ} {key : String} {spelling : List Char}
      {members : List (String × List Char)} {field : Field δ} {put : δ → δ}
      (known : record.field? key = some field) (unset : field.isSet draft = false)
      (reads : Reads field.value spelling put) (others : Fills record (put draft) members after) :
      Fills record draft ((key, spelling) :: members) after

/-- A member as it is written. -/
def memberText (gap : List Char) : String × List Char → List Char
  | (key, spelling) => writeText key ++ ':' :: gap ++ spelling

theorem writeObject_eq (layout : Layout) (depth : Nat) (members : List (String × List Char)) :
    writeObject layout depth members =
      writeBetween layout depth '\x7b' '\x7d' (members.map (memberText layout.gap)) := rfl

theorem memberText_append (gap : List Char) (key : String) (spelling rest : List Char) :
    memberText gap (key, spelling) ++ rest =
      writeText key ++ (':' :: (gap ++ (spelling ++ rest))) := by
  simp [memberText]

theorem readMembers_separated {newline : List Char} (blankNewline : Blank newline)
    (blankGap : Blank gap) (blank : Blank blanks) {draft after : δ}
    {members : List (String × List Char)} (fills : record.Fills draft members after) :
    record.readMembers false draft
        (separated newline (members.map (memberText gap)) ++ (blanks ++ '\x7d' :: rest)) =
      .ok (after, rest) := by
  induction fills with
  | done draft => exact readMembers_of_end draft (nextKey_eq_none_iff.2 ⟨blanks, blank, rfl⟩)
  | @member _ _ key _ others _ _ known unset reads _ ih =>
    have behind := delimited_separated (.inr rfl) blank newline (others.map (memberText gap)) rest
    have taken := readMember_of_field known unset reads blank_nil blankGap behind
    have found (rest : List Char) := nextKey_eq_some_iff.2
      ⟨_, .next (.refl _) ⟨newline, blankNewline, rfl⟩, textForm_writeText key rest⟩
    rw [List.map_cons, separated_cons, memberText_append]
    exact (readMembers_of_member (found _) taken).trans ih

end Record

theorem reads_writeObject {δ ρ : Type} {record : Record δ ρ} {layout : Layout}
    (blank : layout.IsBlank) (depth : Nat) {members : List (String × List Char)} {after : δ}
    {value : ρ} (fills : record.Fills record.blank members after)
    (finished : record.finish after = .ok value) :
    Reads record.reader (writeObject layout depth members) value := by
  intro blanks rest blankFront delimited
  simp only [Record.reader, Record.readAt, skipBlank_append blankFront]
  rw [Record.writeObject_eq]
  cases fills with
  | done =>
    have ended : Record.nextKey true ('\x7d' :: rest) = .ok (none, rest) :=
      Record.nextKey_eq_none_iff.2 (.refl _)
    have read := record.readMembers_of_end record.blank ended
    simp only [List.map_nil, writeBetween, List.cons_append, List.nil_append]
    rw [skipBlank_cons rfl]
    simp only [read, Record.complete, finished]
  | @member _ _ key spelling members field put known unset reads others =>
    have behind := delimited_separated (.inr rfl) (blank.newline depth) (layout.newline (depth + 1))
      (members.map (Record.memberText layout.gap)) rest
    have taken := Record.readMember_of_field known unset reads blank_nil blank.gap behind
    have found (rest : List Char) := Record.nextKey_eq_some_iff.2
      ⟨_, .first ⟨layout.newline (depth + 1), blank.newline _, rfl⟩, textForm_writeText key rest⟩
    have read := (Record.readMembers_of_member (found _) taken).trans
      (Record.readMembers_separated (blank.newline _) blank.gap (blank.newline _) others)
    rw [List.nil_append, ← Record.memberText_append] at read
    rw [List.map_cons, writeBetween_cons, skipBlank_cons rfl]
    simp only [read, Record.complete, finished]

/-- An object can be an item of a list. -/
theorem starts_writeObject (layout : Layout) (depth : Nat) (members : List (String × List Char)) :
    Starts (writeObject layout depth members) := by
  cases members with
  | nil => exact ⟨rfl, by decide⟩
  | cons member members => exact ⟨rfl, by decide⟩

end StaticAtoms.Json
