import StaticAtoms.Proofs.Json.Recognition

/-!
# Readers of closed records

What the reader of a record takes is told field by field: `Record.readMembers_eq_ok_iff` is about one
more member of an object, and `Record.readElements_cons_iff` is about one more value of a list.
`Record.recognizes` puts the two spellings of a record together.
-/

namespace StaticAtoms.Json

variable {s t rest : List Char}

namespace Record

/-! ## Members -/

variable {δ ρ : Type} {record : Record δ ρ}

theorem readMember_eq_ok_iff (closed : record.isOpen = false) {draft after : δ} {key : String} :
    record.readMember draft key s = .ok (after, rest) ↔
      ∃ field put t, record.field? key = some field ∧ field.isSet draft = false ∧
        Blanks s (':' :: t) ∧ field.value.read t = .ok (put, rest) ∧ after = put draft := by
  constructor
  · intro read
    unfold readMember at read
    split at read
    next field known =>
      split at read
      next => cases read
      next unset =>
        split at read
        next => cases read
        next t colon =>
          split at read
          next => cases read
          next put left value =>
            cases read
            exact ⟨field, put, t, known, Bool.eq_false_iff.2 unset, colon_eq_ok_iff.1 colon, value,
              rfl⟩
    next =>
      rw [closed] at read
      cases read
  · rintro ⟨field, put, t, known, unset, colon, value, rfl⟩
    simp [readMember, known, unset, colon_eq_ok_iff.2 colon, value]

/-- The members of an object end at its closing bracket, or go on behind a field that is not set yet. -/
theorem readMembers_eq_ok_iff (closed : record.isOpen = false) {first : Bool} {draft after : δ} :
    record.readMembers first draft s = .ok (after, rest) ↔
      (Blanks s ('\x7d' :: rest) ∧ after = draft) ∨
        ∃ key field put t u v, record.field? key = some field ∧ field.isSet draft = false ∧
          LeadForm first s t ∧ KeyForm key t u ∧ field.value.read u = .ok (put, v) ∧
          record.readMembers false (put draft) v = .ok (after, rest) := by
  constructor
  · intro read
    rw [readMembers] at read
    split at read
    next => cases read
    next ended =>
      cases read
      exact .inl ⟨nextKey_eq_none_iff.1 ended, rfl⟩
    next key behind found =>
      split at read
      next => cases read
      next turned left taken =>
        obtain ⟨field, put, u, known, unset, colon, value, rfl⟩ :=
          (readMember_eq_ok_iff closed).1 taken
        obtain ⟨t, lead, text⟩ := nextKey_eq_some_iff.1 found
        exact .inr ⟨key, field, put, t, u, left, known, unset, lead, .colon text colon, value, read⟩
  · rintro (⟨blanks, rfl⟩ | ⟨key, field, put, t, u, v, known, unset, lead, ⟨text, colon⟩, value, others⟩)
    · exact readMembers_of_end _ (nextKey_eq_none_iff.2 blanks)
    · have found := nextKey_eq_some_iff.2 ⟨t, lead, text⟩
      have taken := (readMember_eq_ok_iff closed).2 ⟨field, put, u, known, unset, colon, value, rfl⟩
      rw [readMembers_of_member found taken, others]

/-- Behind its key, the value of a member is taken in each of its forms. -/
theorem member_iff {α : Type} {reader : Reader α} {forms : α → Form}
    (recognizes : Recognizes reader forms) (put : α → δ → δ) {key : String} {image : δ → δ} :
    (∃ t, KeyForm key s t ∧ (reader.map put).read t = .ok (image, rest)) ↔
      ∃ element, put element = image ∧ MemberForm key (forms element) s rest := by
  constructor
  · rintro ⟨t, named, taken⟩
    obtain ⟨u, blanks, element, same, form⟩ := (recognizes.map put).read_iff.1 taken
    exact ⟨element, same, .member named blanks form⟩
  · rintro ⟨element, same, ⟨named, blanks, form⟩⟩
    exact ⟨_, named, (recognizes.map put).read_iff.2 ⟨_, blanks, element, same, form⟩⟩

/-! ## Elements -/

theorem closeList_eq_ok_iff : closeList s = .ok rest ↔ Blanks s (']' :: rest) := by
  rw [blanks_cons_iff rfl]
  constructor
  · intro read
    unfold closeList at read
    split at read
    · cases read
    next skipped =>
      cases read
      exact skipped
    · split at read <;> cases read
    · cases read
  · intro skipped
    simp only [closeList, skipped]

theorem readElements_nil_iff {count : Nat} {draft after : δ} :
    record.readElements count draft [] s = .ok (after, rest) ↔
      Blanks s (']' :: rest) ∧ after = draft := by
  rw [← closeList_eq_ok_iff, readElements]
  constructor
  · intro read
    split at read
    next => cases read
    next closed =>
      cases read
      exact ⟨closed, rfl⟩
  · rintro ⟨closed, rfl⟩
    simp only [closed]

/-- The values of a list go on behind that of the next field. -/
theorem readElements_cons_iff {α : Type} {reader : Reader α} {forms : α → Form}
    (recognizes : Recognizes reader forms) (put : α → δ → δ) {key : String} {isSet : δ → Bool}
    {fields : List (Field δ)} {count : Nat} {draft after : δ} :
    record.readElements count draft (⟨key, isSet, reader.map put⟩ :: fields) s = .ok (after, rest) ↔
      ∃ element t u, LeadForm (count = 0) s t ∧ forms element t u ∧
        record.readElements (count + 1) (put element draft) fields u = .ok (after, rest) := by
  rw [readElements]
  constructor
  · intro read
    split at read
    next => cases read
    next => cases read
    next start next =>
      split at read
      next => cases read
      next image left taken =>
        obtain ⟨t, lead, element, rfl, form⟩ :=
          (recognizes.map put).item_iff.1 ⟨start, next, taken⟩
        exact ⟨element, t, left, lead, form, read⟩
  · rintro ⟨element, t, u, lead, form, others⟩
    obtain ⟨start, next, taken⟩ := (recognizes.map put).item_iff.2 ⟨t, lead, element, rfl, form⟩
    simp only [next, taken, others]

/-! ## Records -/

theorem complete_eq_ok_iff {read : Except Failure (δ × List Char)} {value : ρ} :
    record.complete read = .ok (value, rest) ↔
      ∃ draft, read = .ok (draft, rest) ∧ record.finish draft = .ok value := by
  unfold complete
  grind

/-- A record has the forms that its fields have between the two kinds of brackets. -/
theorem recognizes {forms : ρ → Form}
    (opens : ∀ {value s rest}, forms value s rest → ∃ inside, s = '\x7b' :: inside ∨ s = '[' :: inside)
    (object : ∀ {value s rest}, forms value ('\x7b' :: s) rest ↔
      ∃ after, record.readMembers true record.blank s = .ok (after, rest) ∧
        record.finish after = .ok value)
    (list : ∀ {value s rest}, forms value ('[' :: s) rest ↔
      ∃ after, record.readElements 0 record.blank record.fields s = .ok (after, rest) ∧
        record.finish after = .ok value) : Recognizes record.reader forms where
  starts := by
    intro value s rest form
    obtain ⟨inside, rfl | rfl⟩ := opens form
    · exact ⟨rfl, by decide⟩
    · exact ⟨rfl, by decide⟩
  read_iff := by
    intro value s rest
    constructor
    · intro read
      change record.readAt s = _ at read
      unfold readAt at read
      split at read
      next inside opened =>
        exact ⟨_, opened ▸ blanks_skipBlank s, object.2 (complete_eq_ok_iff.1 read)⟩
      next inside opened =>
        exact ⟨_, opened ▸ blanks_skipBlank s, list.2 (complete_eq_ok_iff.1 read)⟩
      next => cases read
    · rintro ⟨t, blanks, form⟩
      change record.readAt s = _
      obtain ⟨inside, rfl | rfl⟩ := opens form
      · rw [readAt, (blanks_cons_iff rfl).1 blanks]
        exact complete_eq_ok_iff.2 (object.1 form)
      · rw [readAt, (blanks_cons_iff rfl).1 blanks]
        exact complete_eq_ok_iff.2 (list.1 form)

end Record

end StaticAtoms.Json
