import StaticAtoms.Atom
import StaticAtoms.Proofs.Text.Lowercase
import StaticAtoms.Proofs.Text.Surrogates

/-!
# Atoms of code units

`Atom.ofUnits_decodes` is about atoms that are built from code units: they have the text with these
units, and every fact of the atom is one of the units.  Where there is no such text, the first unpaired
surrogate is named.
-/

namespace StaticAtoms.Atom

variable {ι : Type}

theorem ofUnits_units (ident : ι) (text : String) :
    ofUnits ident (Utf16.units text) = .ok (ofText ident text) := by
  rw [ofUnits, Utf16.decode?_units]

theorem ofUnits_of_not_wellPaired (ident : ι) {units : List UInt16}
    (faulty : ¬ Utf16.WellPaired units) :
    ofUnits ident units = .error (.unpairedSurrogate (Utf16.faultOffset units)) := by
  rw [ofUnits, (Utf16.decode?_of_not_wellPaired faulty).1]

/-- Code units whose surrogates are all paired are those of one text, whose atom they give.  Otherwise
the problem is the first unpaired surrogate. -/
theorem ofUnits_decodes (ident : ι) (units : List UInt16) :
    (Utf16.WellPaired units → ∃ atom, ofUnits ident units = .ok atom ∧ atom.ident = ident ∧
      Utf16.units atom.text = units ∧ atom.hash = Hash.ofUnits units ∧
      atom.lengthUnits = units.length ∧ atom.lowercase = isLowercaseUnits units) ∧
    (¬ Utf16.WellPaired units → ∃ problem index, ofUnits ident units = .error problem ∧
      problem.code.text = "E007" ∧ problem.message = s!"unpaired surrogate at code unit {index}" ∧
      Utf16.FirstUnpaired units index) ∧
    ∀ text, ofUnits ident (Utf16.units text) = .ok (ofText ident text) := by
  refine ⟨fun paired => ?_, fun faulty => ?_, ofUnits_units ident⟩
  · obtain ⟨text, rfl⟩ := paired.exists_units
    exact ⟨ofText ident text, ofUnits_units ident text, rfl, rfl, rfl, rfl,
      isLowercase_eq_isLowercaseUnits text⟩
  · exact ⟨_, _, ofUnits_of_not_wellPaired ident faulty, rfl, rfl,
      (Utf16.decode?_of_not_wellPaired faulty).2⟩

/-- A pair is one character, and the same halves in the other order are a fault behind it. -/
theorem ofUnits_decodes_reversed :
    (∃ atom, ofUnits () [0x61, 0xD83D, 0xDE00] = .ok atom ∧
      atom.hash = Hash.ofUnits [0x61, 0xD83D, 0xDE00]) ∧
    ∃ problem index, ofUnits () [0x61, 0xD83D, 0xDE00, 0xDE00, 0xD83D] = .error problem ∧
      Utf16.FirstUnpaired [0x61, 0xD83D, 0xDE00, 0xDE00, 0xD83D] index ∧
      problem.message = "unpaired surrogate at code unit 3" := by
  have paired : Utf16.WellPaired [0x61, 0xD83D, 0xDE00] := Utf16.wellPaired_ofChars ['a', '😀']
  have faulty : ¬ Utf16.WellPaired [0x61, 0xD83D, 0xDE00, 0xDE00, 0xD83D] := by
    intro allPaired
    refine allPaired 3 (.low rfl (by decide) fun before previous next found => ?_)
    cases next
    cases found
    decide
  obtain ⟨atom, decoded, -, -, hash, -⟩ := (ofUnits_decodes () _).1 paired
  obtain ⟨problem, index, refused, -, message, first⟩ := (ofUnits_decodes () _).2.1 faulty
  refine ⟨⟨atom, decoded, hash⟩, problem, index, refused, first, ?_⟩
  cases refused
  rfl

end StaticAtoms.Atom
