import StaticAtoms.Proofs.Json.Tokens

/-!
# What stands between brackets

* `between_eq` opens a list or an object at its first part, and `Bracket.ending` goes on from one part
  to the next.
* `ValueForm` and `InsideForm` say how a value and the parts up to a closing bracket stand in front of
  what is left of a text.  They are put together in the order in which a text is read, and
  `InsideForm.valueForm` makes a value of them.
-/

namespace StaticAtoms.Json

variable {s t u rest : List Char}

/-! ## Parts one after another -/

namespace Bracket

/-- What stands behind a part: further parts behind a comma each, and the closing bracket. -/
def ending (bracket : Bracket) : List (List Char) → List Char
  | [] => [bracket.close]
  | part :: parts => ',' :: (part ++ bracket.ending parts)

/-- What stands behind the opening bracket and the blanks that follow it. -/
def inside (bracket : Bracket) : List (List Char) → List Char
  | [] => [bracket.close]
  | part :: parts => part ++ bracket.ending parts

theorem intercalate_append (bracket : Bracket) (parts : List (List Char)) :
    [','].intercalate parts ++ [bracket.close] = bracket.inside parts := by
  induction parts with
  | nil => rfl
  | cons part parts ih =>
    cases parts with
    | nil => simp [inside, ending]
    | cons next parts => simpa [inside, ending, List.intercalate_cons_cons] using ih

theorem delimited_ending (bracket : Bracket) (parts : List (List Char)) (rest : List Char) :
    Delimited (bracket.ending parts ++ rest) := by
  cases parts with
  | nil =>
    cases bracket with
    | list => exact .inr (.inr (.inl rfl))
    | object => exact .inr (.inr (.inr rfl))
  | cons part parts => exact .comma _

theorem isBlank_close (bracket : Bracket) : isBlank bracket.close = false := by
  cases bracket <;> decide

theorem comma_ne_close (bracket : Bracket) : ',' ≠ bracket.close := by
  cases bracket <;> decide

end Bracket

theorem between_eq (bracket : Bracket) (gap : List Char) (parts : List (List Char)) :
    between bracket gap parts = bracket.opening :: (gap ++ bracket.inside parts) := by
  rw [between, bracket.intercalate_append]

/-! ## Parts -/

/-- Whether a text is an item of a list, or a member of an object. -/
inductive Bracket.IsPart : Bracket → List Char → Prop where
  | item {item : Item} (value : IsValue item.value) : IsPart .list item.text
  | member {member : Member} (value : IsValue member.item.value) : IsPart .object member.text

/-- Blanks in front of a part can be counted in. -/
theorem Bracket.IsPart.lead {bracket : Bracket} {gap part : List Char} (blank : Blank gap)
    (isPart : bracket.IsPart part) : bracket.IsPart (gap ++ part) := by
  cases isPart with
  | @item item value =>
    let led : Item := { item with
      before := gap ++ item.before
      blankBefore := List.forall_mem_append.2 ⟨blank, item.blankBefore⟩ }
    have same : led.text = gap ++ item.text := List.append_assoc ..
    exact same ▸ IsPart.item (show IsValue led.value from value)
  | @member member value =>
    let led : Member := { member with
      before := gap ++ member.before
      blankBefore := List.forall_mem_append.2 ⟨blank, member.blankBefore⟩ }
    have same : led.text = gap ++ member.text := List.append_assoc ..
    exact same ▸ IsPart.member (show IsValue led.item.value from value)

/-- Blanks behind an item can be counted in. -/
def Item.trail (item : Item) (gap : List Char) (blank : Blank gap) : Item :=
  { item with
    behind := item.behind ++ gap
    blankBehind := List.forall_mem_append.2 ⟨item.blankBehind, blank⟩ }

/-- Blanks behind a part can be counted in. -/
theorem Bracket.IsPart.trail {bracket : Bracket} {gap part : List Char} (blank : Blank gap)
    (isPart : bracket.IsPart part) : bracket.IsPart (part ++ gap) := by
  cases isPart with
  | @item item value =>
    have same : (item.trail gap blank).text = item.text ++ gap := by simp [Item.text, Item.trail]
    exact same ▸ IsPart.item (show IsValue (item.trail gap blank).value from value)
  | @member member value =>
    let trailed : Member := { member with item := member.item.trail gap blank }
    have same : trailed.text = member.text ++ gap := by
      simp [trailed, Member.text, Item.text, Item.trail]
    exact same ▸ IsPart.member (show IsValue trailed.item.value from value)

theorem Bracket.IsPart.exists_items {parts : List (List Char)}
    (isParts : ∀ part ∈ parts, IsPart .list part) :
    ∃ items : List Item, items.map Item.text = parts ∧ ∀ item ∈ items, IsValue item.value := by
  induction parts with
  | nil => exact ⟨[], rfl, by simp⟩
  | cons part parts ih =>
    rw [List.forall_mem_cons] at isParts
    obtain ⟨items, rfl, values⟩ := ih isParts.2
    cases isParts.1 with
    | @item item value => exact ⟨item :: items, rfl, List.forall_mem_cons.2 ⟨value, values⟩⟩

theorem Bracket.IsPart.exists_members {parts : List (List Char)}
    (isParts : ∀ part ∈ parts, IsPart .object part) :
    ∃ members : List Member, members.map Member.text = parts ∧
      ∀ member ∈ members, IsValue member.item.value := by
  induction parts with
  | nil => exact ⟨[], rfl, by simp⟩
  | cons part parts ih =>
    rw [List.forall_mem_cons] at isParts
    obtain ⟨members, rfl, values⟩ := ih isParts.2
    cases isParts.1 with
    | @member member value =>
      exact ⟨member :: members, rfl, List.forall_mem_cons.2 ⟨value, values⟩⟩

/-- Parts of one kind between their brackets are a value. -/
theorem IsValue.between {bracket : Bracket} {gap : List Char} {parts : List (List Char)}
    (blank : Blank gap) (isParts : ∀ part ∈ parts, bracket.IsPart part) :
    IsValue (between bracket gap parts) := by
  cases bracket with
  | list =>
    obtain ⟨items, rfl, values⟩ := Bracket.IsPart.exists_items isParts
    exact .list blank values
  | object =>
    obtain ⟨members, rfl, values⟩ := Bracket.IsPart.exists_members isParts
    exact .object blank values

/-! ## Forms -/

/-- A value behind blanks. -/
inductive ValueForm : Form where
  | value {spelling s rest : List Char} (blanks : Blanks s (spelling ++ rest))
      (isValue : IsValue spelling) : ValueForm s rest

/-- A part of a list or an object. -/
inductive PartForm (bracket : Bracket) : Form where
  | part {part rest : List Char} (isPart : bracket.IsPart part) : PartForm bracket (part ++ rest) rest

/-- Parts behind a comma each, up to the closing bracket. -/
inductive EndForm (bracket : Bracket) : Form where
  | parts {parts : List (List Char)} {s rest : List Char}
      (blanks : Blanks s (bracket.ending parts ++ rest))
      (isParts : ∀ part ∈ parts, bracket.IsPart part) : EndForm bracket s rest

/-- The closing bracket, or one more part and what follows it. -/
inductive InsideForm (bracket : Bracket) (first : Bool) : Form where
  | close {s rest : List Char} (blanks : Blanks s (bracket.close :: rest)) :
      InsideForm bracket first s rest
  | part {s t u rest : List Char} (lead : LeadForm first s t) (part : PartForm bracket t u)
      (others : EndForm bracket u rest) : InsideForm bracket first s rest

section Forms

variable {bracket : Bracket}

theorem ValueForm.lead (blanks : Blanks s t) (form : ValueForm t rest) : ValueForm s rest := by
  cases form with
  | value blanksBehind isValue => exact .value (blanks.trans blanksBehind) isValue

/-- A value is an item of a list. -/
theorem ValueForm.item (form : ValueForm s rest) : PartForm .list s rest := by
  cases form with
  | @value spelling _ _ blanks isValue =>
    obtain ⟨gap, blank, rfl⟩ := blanks
    let item : Item := ⟨gap, spelling, [], blank, blank_nil⟩
    have part : PartForm .list (item.text ++ rest) rest := .part (.item isValue)
    simpa [item, Item.text] using part

/-- A key with a colon and a value are a member of an object. -/
theorem ValueForm.member {key : List Char} (isText : IsText key) (colon : Blanks s (':' :: t))
    (form : ValueForm t rest) : PartForm .object (key ++ s) rest := by
  obtain ⟨behindKey, blankBehindKey, rfl⟩ := colon
  cases form with
  | @value spelling _ _ blanks isValue =>
    obtain ⟨gap, blank, rfl⟩ := blanks
    let member : Member :=
      ⟨[], key, behindKey, ⟨gap, spelling, [], blank, blank_nil⟩, isText, blank_nil, blankBehindKey⟩
    have part : PartForm .object (member.text ++ rest) rest := .part (.member isValue)
    simpa [member, Member.text, Item.text] using part

theorem PartForm.lead (blanks : Blanks s t) (form : PartForm bracket t rest) :
    PartForm bracket s rest := by
  cases form with
  | part isPart =>
    obtain ⟨gap, blank, rfl⟩ := blanks
    rw [← List.append_assoc]
    exact .part (isPart.lead blank)

theorem EndForm.close (blanks : Blanks s (bracket.close :: rest)) : EndForm bracket s rest := by
  have ended : Blanks s (bracket.ending [] ++ rest) := blanks
  exact .parts ended (by simp)

theorem EndForm.comma (blanks : Blanks s (',' :: t)) (form : PartForm bracket t u)
    (others : EndForm bracket u rest) : EndForm bracket s rest := by
  cases form with
  | @part part _ isPart =>
    cases others with
    | @parts parts _ _ blanksBehind isParts =>
      -- The blanks in front of the next comma are those behind this part.
      obtain ⟨gap, blank, rfl⟩ := blanksBehind
      have ended : Blanks s (bracket.ending ((part ++ gap) :: parts) ++ rest) := by
        simpa [Bracket.ending] using blanks
      exact .parts ended (List.forall_mem_cons.2 ⟨isPart.trail blank, isParts⟩)

theorem InsideForm.endForm (form : InsideForm bracket false s rest) : EndForm bracket s rest := by
  cases form with
  | close blanks => exact .close blanks
  | part lead part others =>
    cases lead with
    | next blanks blanksBehind => exact .comma blanks (part.lead blanksBehind) others

/-- What stands between brackets is a value with them. -/
theorem InsideForm.valueForm (form : InsideForm bracket true s rest) :
    ValueForm (bracket.opening :: s) rest := by
  cases form with
  | close blanks =>
    obtain ⟨gap, blank, rfl⟩ := blanks
    have value : IsValue (between bracket gap []) := .between blank (by simp)
    refine .value ⟨[], blank_nil, ?_⟩ value
    simp [between_eq, Bracket.inside]
  | part lead part others =>
    cases lead with
    | first blanks =>
      cases part.lead blanks with
      | @part spelling _ isPart =>
        cases others with
        | @parts parts _ _ blanksBehind isParts =>
          obtain ⟨gap, blank, rfl⟩ := blanksBehind
          have value : IsValue (between bracket [] ((spelling ++ gap) :: parts)) :=
            .between blank_nil (List.forall_mem_cons.2 ⟨isPart.trail blank, isParts⟩)
          refine .value ⟨[], blank_nil, ?_⟩ value
          simp [between_eq, Bracket.inside]

end Forms

end StaticAtoms.Json
