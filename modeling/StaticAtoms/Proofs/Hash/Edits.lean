import StaticAtoms.Atom
import StaticAtoms.Proofs.Hash.Feeding
import StaticAtoms.Proofs.Table.Registration

/-!
# Edits of a single code unit

Folding in a word can be undone: the golden ratio is odd, so that multiplying by it can be inverted, and
rotating and xoring move bits around and flip them.  `Hash.mix_right_injective` and
`Hash.mix_left_injective` say so of one step, and `Hash.mixWords_injective` of any number of them.

`StaticAtom.edits_detected` is the main statement: a single code unit that is changed changes the hash.
-/

namespace StaticAtoms

namespace Hash

/-! ## One step -/

/-- The inverse of the golden ratio. -/
def inverseRatio : UInt32 := 0x144CBC89

theorem inverseRatio_mul (word : UInt32) : inverseRatio * (goldenRatio * word) = word := by
  have inverse : inverseRatio * goldenRatio = 1 := rfl
  rw [← UInt32.mul_assoc, inverse, UInt32.one_mul]

theorem goldenRatio_mul_injective {left right : UInt32}
    (same : goldenRatio * left = goldenRatio * right) : left = right := by
  rw [← inverseRatio_mul left, same, inverseRatio_mul]

/-- Every bit moves up by five places, from the end to the start again. -/
theorem getLsbD_rotateFive (word : UInt32) {place : Nat} (bound : place < 32) :
    (rotateFive word).toBitVec.getLsbD ((place + 5) % 32) = word.toBitVec.getLsbD place := by
  have rotated : (rotateFive word).toBitVec = word.toBitVec.rotateLeft 5 := rfl
  rw [rotated, BitVec.getLsbD_rotateLeft]
  by_cases wraps : place < 27
  · have target : (place + 5) % 32 = place + 5 := Nat.mod_eq_of_lt (by omega)
    have behind : ¬ place + 5 < 5 % 32 := by omega
    have inside : place + 5 < 32 := by omega
    have source : place + 5 - 5 % 32 = place := by omega
    rw [target, decide_eq_false behind, cond_false, decide_eq_true inside, Bool.true_and, source]
  · have target : (place + 5) % 32 = place - 27 := by omega
    have front : place - 27 < 5 % 32 := by omega
    have source : 32 - 5 % 32 + (place - 27) = place := by omega
    rw [target, source, decide_eq_true front, cond_true]

theorem rotateFive_injective {left right : UInt32} (same : rotateFive left = rotateFive right) :
    left = right := by
  rw [← UInt32.toBitVec_inj]
  apply BitVec.eq_of_getLsbD_eq
  intro place bound
  rw [← getLsbD_rotateFive left bound, same, getLsbD_rotateFive right bound]

theorem mix_right_injective {hash left right : UInt32} (same : mix hash left = mix hash right) :
    left = right :=
  (UInt32.xor_right_inj _).1 (goldenRatio_mul_injective same)

theorem mix_left_injective {left right word : UInt32} (same : mix left word = mix right word) :
    left = right :=
  rotateFive_injective ((UInt32.xor_left_inj _).1 (goldenRatio_mul_injective same))

/-! ## Any number of steps -/

theorem mixWords_injective {left right : UInt32} (words : List UInt32)
    (same : mixWords left words = mixWords right words) : left = right := by
  induction words generalizing left right with
  | nil => exact same
  | cons word words ih => exact mix_left_injective (ih same)

/-- Words in front of a change are folded in alike, and words behind it keep the hashes apart. -/
theorem ofUnits_edit {before behind : List UInt16} {old new : UInt16} (changed : old ≠ new) :
    ofUnits (before ++ [old] ++ behind) ≠ ofUnits (before ++ [new] ++ behind) := by
  intro same
  simp only [ofUnits, mixUnits_eq_mixWords, List.map_append, mixWords_append] at same
  have words : old.toUInt32 = new.toUInt32 := mix_right_injective (mixWords_injective _ same)
  exact changed (UInt16.toUInt32_inj.1 words)

end Hash

/-! ## One difference -/

/-- Whether two sequences of code units have the same length and differ in exactly one place. -/
def DifferOnce (left right : List UInt16) : Prop :=
  left.length = right.length ∧
    ∃ place : Nat, ∀ index : Nat, left[index]? ≠ right[index]? ↔ index = place

theorem eq_take_append_drop {units : List UInt16} {place : Nat} (bound : place < units.length) :
    units = units.take place ++ [units[place]] ++ units.drop (place + 1) := by
  rw [List.append_assoc, List.singleton_append, ← List.drop_eq_getElem_cons, List.take_append_drop]

theorem DifferOnce.exists_append {left right : List UInt16} (differ : DifferOnce left right) :
    ∃ before old new behind, old ≠ new ∧ left = before ++ [old] ++ behind ∧
      right = before ++ [new] ++ behind := by
  obtain ⟨lengths, place, places⟩ := differ
  have equal (index : Nat) (other : index ≠ place) : left[index]? = right[index]? :=
    Decidable.not_not.1 (mt (places index).1 other)
  have different : left[place]? ≠ right[place]? := (places place).2 rfl
  have bound : place < left.length := by
    refine Nat.lt_of_not_le fun behind => different ?_
    rw [List.getElem?_eq_none behind, List.getElem?_eq_none (lengths ▸ behind)]
  have boundRight : place < right.length := lengths ▸ bound
  have front : left.take place = right.take place := by
    refine List.ext_getElem? fun index => ?_
    rw [List.getElem?_take, List.getElem?_take]
    split
    next less => exact equal index (Nat.ne_of_lt less)
    next => rfl
  have rest : left.drop (place + 1) = right.drop (place + 1) := by
    refine List.ext_getElem? fun index => ?_
    rw [List.getElem?_drop, List.getElem?_drop]
    exact equal _ (by omega)
  refine ⟨left.take place, left[place], right[place], left.drop (place + 1), ?_,
    eq_take_append_drop bound, ?_⟩
  · rwa [List.getElem?_eq_getElem bound, List.getElem?_eq_getElem boundRight, ne_eq,
      Option.some_inj] at different
  · rw [front, rest]
    exact eq_take_append_drop boundRight

theorem differOnce_append {before behind : List UInt16} {old new : UInt16} (changed : old ≠ new) :
    DifferOnce (before ++ [old] ++ behind) (before ++ [new] ++ behind) := by
  refine ⟨by simp, before.length, fun index => ?_⟩
  simp only [List.append_assoc, List.singleton_append, List.getElem?_append]
  split
  next front => simp [Nat.ne_of_lt front]
  next behindFront =>
    cases distance : index - before.length with
    | zero =>
      have here : index = before.length := by omega
      simp [changed, here]
    | succ rest =>
      have elsewhere : index ≠ before.length := by omega
      simp [elsewhere]

namespace StaticAtom

theorem verify_of_edit {atom : StaticAtom} {string : String} (verified : atom.verify = .ok ())
    (differ : DifferOnce (Utf16.units atom.string) (Utf16.units string)) :
    ({ atom with string } : StaticAtom).verify =
      .error (.hashMismatch atom.ident string atom.hash (Hash.ofText string)) := by
  obtain ⟨before, old, new, behind, changed, oldUnits, newUnits⟩ := differ.exists_append
  have wrongHash : atom.hash ≠ Hash.ofText string := by
    rw [(verify_eq_ok_iff.1 verified).1, Hash.ofText, Hash.ofText, oldUnits, newUnits]
    exact Hash.ofUnits_edit changed
  exact if_pos wrongHash

/-- A single code unit that is changed changes the hash, whatever stands around it, and different hashes
stay different whatever is fed to both.  So an atom that carries the facts of its string fails its check
as soon as one code unit of the string is changed and nothing else. -/
theorem edits_detected :
    (∀ before behind old new, old ≠ new →
      Hash.ofUnits (before ++ [old] ++ behind) ≠ Hash.ofUnits (before ++ [new] ++ behind)) ∧
    (∀ (left right : UInt32) feeds, left ≠ right →
      (TextHasher.feedAll ⟨left⟩ feeds).hash ≠ (TextHasher.feedAll ⟨right⟩ feeds).hash) ∧
    ∀ (atom : StaticAtom) string, atom.verify = .ok () →
      DifferOnce (Utf16.units atom.string) (Utf16.units string) →
      ∃ problem, ({ atom with string } : StaticAtom).verify = .error problem ∧
        problem.code.text = "E005" := by
  refine ⟨fun before behind old new => Hash.ofUnits_edit, fun left right feeds different => ?_,
    fun atom string verified differ => ⟨_, verify_of_edit verified differ, rfl⟩⟩
  rw [TextHasher.hash_feedAll, TextHasher.hash_feedAll]
  exact fun same => different (Hash.mixWords_injective _ same)

/-- An atom whose string has another last digit. -/
theorem edits_detected_digit :
    ∃ problem, (⟨"first", "atom_359079", 0x0B2339E6, true⟩ : StaticAtom).verify = .error problem ∧
      problem.code.text = "E005" := by
  obtain ⟨-, -, fails⟩ := edits_detected
  have differ : DifferOnce (Utf16.units "atom_35907" ++ [0x38] ++ [])
      (Utf16.units "atom_35907" ++ [0x39] ++ []) :=
    differOnce_append (by decide)
  exact fails ⟨"first", "atom_359078", 0x0B2339E6, true⟩ "atom_359079" rfl differ

end StaticAtom

end StaticAtoms
