import StaticAtoms.Manifest.Basic
import StaticAtoms.Proofs.Json.Records

/-!
# Spellings of a manifest

`Manifest.JsonForm` lists the forms of a manifest in JSON, over the forms of its declarations, and
`Manifest.Spelled` allows blanks around them.

* `Declaration.recognizes` and `Manifest.recognizes` say that the readers take these forms and no
  others.
* `Manifest.parse_iff_spelled` says so of whole sources; what is spelled in no way is refused.
-/

namespace StaticAtoms

open Json

variable {s rest : List Char}

/-! ## Declarations -/

namespace Declaration

/-- The forms of a declaration: an object with both members in either order, or a list of both. -/
inductive JsonForm (declaration : Declaration) : Form where
  | object {s rest : List Char}
      (members : ObjectForm [MemberForm "ident" (TextForm declaration.ident),
        MemberForm "string" (TextForm declaration.string)] s rest) : JsonForm declaration s rest
  | swapped {s rest : List Char}
      (members : ObjectForm [MemberForm "string" (TextForm declaration.string),
        MemberForm "ident" (TextForm declaration.ident)] s rest) : JsonForm declaration s rest
  | list {s rest : List Char}
      (elements : ListForm [TextForm declaration.ident, TextForm declaration.string] s rest) :
      JsonForm declaration s rest

/-- What a member does to a draft. -/
theorem readMembers_eq_ok_iff {first : Bool} {draft after : Draft} :
    record.readMembers first draft s = .ok (after, rest) ↔
      (Blanks s ('\x7d' :: rest) ∧ after = draft) ∨
      (∃ text t u, draft.ident = none ∧ LeadForm first s t ∧
        MemberForm "ident" (TextForm text) t u ∧
        record.readMembers false { draft with ident := some text } u = .ok (after, rest)) ∨
      ∃ text t u, draft.string = none ∧ LeadForm first s t ∧
        MemberForm "string" (TextForm text) t u ∧
        record.readMembers false { draft with string := some text } u = .ok (after, rest) := by
  rw [Record.readMembers_eq_ok_iff rfl]
  constructor
  · rintro (closed | ⟨key, field, put, t, u, v, known, unset, lead, named, value, others⟩)
    · exact .inl closed
    · simp only [Record.field?, record, List.find?_cons, List.find?_nil] at known
      split at known
      next same =>
        cases known
        obtain rfl := of_decide_eq_true same
        obtain ⟨text, rfl, form⟩ := (Record.member_iff recognizes_text _).1 ⟨u, named, value⟩
        exact .inr (.inl ⟨text, t, v, by simpa using unset, lead, form, others⟩)
      split at known
      next same =>
        cases known
        obtain rfl := of_decide_eq_true same
        obtain ⟨text, rfl, form⟩ := (Record.member_iff recognizes_text _).1 ⟨u, named, value⟩
        exact .inr (.inr ⟨text, t, v, by simpa using unset, lead, form, others⟩)
      next => cases known
  · rintro (closed | ⟨text, t, u, unset, lead, form, others⟩ | ⟨text, t, u, unset, lead, form, others⟩)
    · exact .inl closed
    · obtain ⟨v, named, value⟩ := (Record.member_iff recognizes_text fun text (draft : Draft) =>
        { draft with ident := some text }).2 ⟨text, rfl, form⟩
      exact .inr ⟨_, _, _, _, _, _, rfl, by simp [unset], lead, named, value, others⟩
    · obtain ⟨v, named, value⟩ := (Record.member_iff recognizes_text fun text (draft : Draft) =>
        { draft with string := some text }).2 ⟨text, rfl, form⟩
      exact .inr ⟨_, _, _, _, _, _, rfl, by simp [unset], lead, named, value, others⟩

theorem readMembers_complete {first : Bool} {ident string : String} {after : Draft} :
    record.readMembers first ⟨some ident, some string⟩ s = .ok (after, rest) ↔
      Blanks s ('\x7d' :: rest) ∧ after = ⟨some ident, some string⟩ := by
  rw [readMembers_eq_ok_iff]
  simp

theorem jsonForm_object_iff {declaration : Declaration} :
    declaration.JsonForm ('\x7b' :: s) rest ↔
      ∃ after, record.readMembers true record.blank s = .ok (after, rest) ∧
        record.finish after = .ok declaration := by
  constructor
  · rintro (⟨⟨members⟩⟩ | ⟨⟨members⟩⟩ | ⟨elements⟩)
    · obtain ⟨t, u, lead, member, others⟩ := partsForm_cons_iff.1 members
      obtain ⟨v, w, leadNext, memberNext, last⟩ := partsForm_cons_iff.1 others
      refine ⟨⟨some declaration.ident, some declaration.string⟩, ?_, rfl⟩
      refine readMembers_eq_ok_iff.2 (.inr (.inl ⟨_, t, u, rfl, lead, member, ?_⟩))
      refine readMembers_eq_ok_iff.2 (.inr (.inr ⟨_, v, w, rfl, leadNext, memberNext, ?_⟩))
      exact readMembers_complete.2 ⟨partsForm_nil_iff.1 last, rfl⟩
    · obtain ⟨t, u, lead, member, others⟩ := partsForm_cons_iff.1 members
      obtain ⟨v, w, leadNext, memberNext, last⟩ := partsForm_cons_iff.1 others
      refine ⟨⟨some declaration.ident, some declaration.string⟩, ?_, rfl⟩
      refine readMembers_eq_ok_iff.2 (.inr (.inr ⟨_, t, u, rfl, lead, member, ?_⟩))
      refine readMembers_eq_ok_iff.2 (.inr (.inl ⟨_, v, w, rfl, leadNext, memberNext, ?_⟩))
      exact readMembers_complete.2 ⟨partsForm_nil_iff.1 last, rfl⟩
    · cases elements
  · rintro ⟨after, read, finished⟩
    obtain ⟨-, rfl⟩ | ⟨ident, t, u, -, lead, member, others⟩ |
      ⟨string, t, u, -, lead, member, others⟩ := readMembers_eq_ok_iff.1 read
    · cases finished
    · obtain ⟨-, rfl⟩ | ⟨_, _, _, set, -⟩ | ⟨string, v, w, -, leadNext, memberNext, last⟩ :=
        readMembers_eq_ok_iff.1 others
      · cases finished
      · cases set
      · obtain ⟨blanks, rfl⟩ := readMembers_complete.1 last
        cases finished
        exact .object (.braces (.part lead member (.part leadNext memberNext (.close blanks))))
    · obtain ⟨-, rfl⟩ | ⟨ident, v, w, -, leadNext, memberNext, last⟩ | ⟨_, _, _, set, -⟩ :=
        readMembers_eq_ok_iff.1 others
      · cases finished
      · obtain ⟨blanks, rfl⟩ := readMembers_complete.1 last
        cases finished
        exact .swapped (.braces (.part lead member (.part leadNext memberNext (.close blanks))))
      · cases set

theorem jsonForm_list_iff {declaration : Declaration} :
    declaration.JsonForm ('[' :: s) rest ↔
      ∃ after, record.readElements 0 record.blank record.fields s = .ok (after, rest) ∧
        record.finish after = .ok declaration := by
  constructor
  · rintro (⟨members⟩ | ⟨members⟩ | ⟨⟨elements⟩⟩)
    · cases members
    · cases members
    · obtain ⟨t, u, lead, ident, others⟩ := partsForm_cons_iff.1 elements
      obtain ⟨v, w, leadNext, string, last⟩ := partsForm_cons_iff.1 others
      refine ⟨⟨some declaration.ident, some declaration.string⟩, ?_, rfl⟩
      refine (Record.readElements_cons_iff recognizes_text _).2 ⟨_, t, u, lead, ident, ?_⟩
      refine (Record.readElements_cons_iff recognizes_text _).2 ⟨_, v, w, leadNext, string, ?_⟩
      exact Record.readElements_nil_iff.2 ⟨partsForm_nil_iff.1 last, rfl⟩
  · rintro ⟨after, read, finished⟩
    obtain ⟨ident, t, u, lead, form, others⟩ :=
      (Record.readElements_cons_iff recognizes_text _).1 read
    obtain ⟨string, v, w, leadNext, formNext, last⟩ :=
      (Record.readElements_cons_iff recognizes_text _).1 others
    obtain ⟨blanks, rfl⟩ := Record.readElements_nil_iff.1 last
    cases finished
    exact .list (.brackets (.part lead form (.part leadNext formNext (.close blanks))))

theorem recognizes : Recognizes record.reader JsonForm := by
  refine Record.recognizes ?_ jsonForm_object_iff jsonForm_list_iff
  rintro declaration s rest (⟨⟨-⟩⟩ | ⟨⟨-⟩⟩ | ⟨⟨-⟩⟩)
  · exact ⟨_, .inl rfl⟩
  · exact ⟨_, .inl rfl⟩
  · exact ⟨_, .inr rfl⟩

end Declaration

/-! ## Manifests -/

namespace Manifest

/-- The forms of a manifest: an object with its only member, or a list of it. -/
inductive JsonForm (manifest : Manifest) : Form where
  | object {s rest : List Char}
      (members : ObjectForm [MemberForm "atoms" (ListForm (manifest.atoms.map Declaration.JsonForm))]
        s rest) : JsonForm manifest s rest
  | list {s rest : List Char}
      (elements : ListForm [ListForm (manifest.atoms.map Declaration.JsonForm)] s rest) :
      JsonForm manifest s rest

/-- Whether a source has a form of the manifest with blanks around it, and nothing else. -/
def Spelled (manifest : Manifest) (source : String) : Prop :=
  ∃ s t, Blanks source.toList s ∧ manifest.JsonForm s t ∧ Blanks t []

/-- What the member does to a draft. -/
theorem readMembers_eq_ok_iff {first : Bool} {draft after : Draft} :
    record.readMembers first draft s = .ok (after, rest) ↔
      (Blanks s ('\x7d' :: rest) ∧ after = draft) ∨
      ∃ atoms t u, draft.atoms = none ∧ LeadForm first s t ∧
        MemberForm "atoms" (ListForm (atoms.map Declaration.JsonForm)) t u ∧
        record.readMembers false ⟨some atoms⟩ u = .ok (after, rest) := by
  rw [Record.readMembers_eq_ok_iff rfl]
  constructor
  · rintro (closed | ⟨key, field, put, t, u, v, known, unset, lead, named, value, others⟩)
    · exact .inl closed
    · simp only [Record.field?, record, List.find?_cons, List.find?_nil] at known
      split at known
      next same =>
        cases known
        obtain rfl := of_decide_eq_true same
        obtain ⟨atoms, rfl, form⟩ :=
          (Record.member_iff (recognizes_list Declaration.recognizes) _).1 ⟨u, named, value⟩
        exact .inr ⟨atoms, t, v, by simpa using unset, lead, form, others⟩
      next => cases known
  · rintro (closed | ⟨atoms, t, u, unset, lead, form, others⟩)
    · exact .inl closed
    · obtain ⟨v, named, value⟩ := (Record.member_iff (recognizes_list Declaration.recognizes)
        fun atoms (draft : Draft) => { draft with atoms := some atoms }).2 ⟨atoms, rfl, form⟩
      exact .inr ⟨_, _, _, _, _, _, rfl, by simp [unset], lead, named, value, others⟩

theorem jsonForm_object_iff {manifest : Manifest} :
    manifest.JsonForm ('\x7b' :: s) rest ↔
      ∃ after, record.readMembers true record.blank s = .ok (after, rest) ∧
        record.finish after = .ok manifest := by
  constructor
  · rintro (⟨⟨members⟩⟩ | ⟨elements⟩)
    · obtain ⟨t, u, lead, member, last⟩ := partsForm_cons_iff.1 members
      refine ⟨⟨some manifest.atoms⟩, ?_, rfl⟩
      refine readMembers_eq_ok_iff.2 (.inr ⟨_, t, u, rfl, lead, member, ?_⟩)
      exact readMembers_eq_ok_iff.2 (.inl ⟨partsForm_nil_iff.1 last, rfl⟩)
    · cases elements
  · rintro ⟨after, read, finished⟩
    obtain ⟨-, rfl⟩ | ⟨atoms, t, u, -, lead, member, last⟩ := readMembers_eq_ok_iff.1 read
    · cases finished
    · obtain ⟨blanks, rfl⟩ | ⟨_, _, _, set, -⟩ := readMembers_eq_ok_iff.1 last
      · cases finished
        exact .object (.braces (.part lead member (.close blanks)))
      · cases set

theorem jsonForm_list_iff {manifest : Manifest} :
    manifest.JsonForm ('[' :: s) rest ↔
      ∃ after, record.readElements 0 record.blank record.fields s = .ok (after, rest) ∧
        record.finish after = .ok manifest := by
  have recognizes := recognizes_list Declaration.recognizes
  constructor
  · rintro (⟨members⟩ | ⟨⟨elements⟩⟩)
    · cases members
    · obtain ⟨t, u, lead, atoms, last⟩ := partsForm_cons_iff.1 elements
      refine ⟨⟨some manifest.atoms⟩, ?_, rfl⟩
      refine (Record.readElements_cons_iff recognizes _).2 ⟨_, t, u, lead, atoms, ?_⟩
      exact Record.readElements_nil_iff.2 ⟨partsForm_nil_iff.1 last, rfl⟩
  · rintro ⟨after, read, finished⟩
    obtain ⟨atoms, t, u, lead, form, last⟩ := (Record.readElements_cons_iff recognizes _).1 read
    obtain ⟨blanks, rfl⟩ := Record.readElements_nil_iff.1 last
    cases finished
    exact .list (.brackets (.part lead form (.close blanks)))

theorem recognizes : Recognizes record.reader JsonForm := by
  refine Record.recognizes ?_ jsonForm_object_iff jsonForm_list_iff
  rintro manifest s rest (⟨⟨-⟩⟩ | ⟨⟨-⟩⟩)
  · exact ⟨_, .inl rfl⟩
  · exact ⟨_, .inr rfl⟩

theorem parse_eq_ok_iff {source : String} {manifest : Manifest} :
    parse source = .ok manifest ↔ manifest.Spelled source := by
  refine Iff.trans ?_ recognizes.parse_eq_ok_iff
  constructor
  · intro read
    unfold parse at read
    split at read
    next found =>
      cases read
      exact found
    next => cases read
  · intro found
    simp only [parse, found]

/-- Every source is parsed as the manifest that it spells, and refused if it spells none. -/
theorem parse_iff_spelled (source : String) :
    (∀ manifest, parse source = .ok manifest ↔ manifest.Spelled source) ∧
    ((∃ problem, parse source = .error problem ∧ problem.code.text = "E001") ↔
      ¬ ∃ manifest : Manifest, manifest.Spelled source) := by
  refine ⟨fun manifest => parse_eq_ok_iff, ?_⟩
  constructor
  · rintro ⟨problem, refused, -⟩ ⟨manifest, spelled⟩
    rw [parse_eq_ok_iff.2 spelled] at refused
    cases refused
  · intro unspelled
    cases found : Json.parse record.reader source with
    | ok manifest =>
      exact (unspelled ⟨manifest, recognizes.parse_eq_ok_iff.1 found⟩).elim
    | error cause =>
      exact ⟨.invalidManifest cause, by simp only [parse, found], rfl⟩

end Manifest

end StaticAtoms
