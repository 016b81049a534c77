import StaticAtoms.Proofs.Text.Utf16

/-!
# Unpaired surrogates

`Utf16.Unpaired` says at which index a surrogate stands alone, in terms of its two neighbours.  All code
units are those of characters, or an unpaired surrogate follows behind these: `Utf16.splits`.

* `Utf16.WellPaired.unpaired_append_iff` says that paired units in front change nothing.
* `Utf16.decode?_units` says that decoding inverts encoding, and `Utf16.decode?_of_not_wellPaired` that it
  fails otherwise, with the offset of the first fault counted afterwards.
-/

namespace StaticAtoms.Utf16

/-! ## Pairs -/

/-- Whether half of a surrogate pair stands at an index without its other half: the second half is not
right behind the first one, or the first half not right in front of the second one. -/
inductive Unpaired (units : List UInt16) : (index : Nat) → Prop where
  | high {index : Nat} {unit : UInt16} (there : units[index]? = some unit) (first : isHigh unit)
      (alone : ∀ next, units[index + 1]? = some next → ¬ isLow next) : Unpaired units index
  | low {index : Nat} {unit : UInt16} (there : units[index]? = some unit) (second : isLow unit)
      (alone : ∀ before previous, before + 1 = index → units[before]? = some previous →
        ¬ isHigh previous) : Unpaired units index

/-- Whether every surrogate is paired. -/
def WellPaired (units : List UInt16) : Prop :=
  ∀ index, ¬ Unpaired units index

theorem not_isLow_of_isHigh {unit : UInt16} (high : isHigh unit) : ¬ isLow unit := by
  rw [isHigh_iff] at high
  rw [isLow_iff]
  omega

theorem wellPaired_nil : WellPaired [] := by
  intro index unpaired
  cases unpaired with
  | high there => cases there
  | low there => cases there

/-- Behind units that are paired among themselves, nothing is paired with anything in front: the last of
them is no first half. -/
theorem WellPaired.unpaired_append_iff {front rest : List UInt16} (paired : WellPaired front)
    {index : Nat} :
    Unpaired (front ++ rest) index ↔
      ∃ behind, index = front.length + behind ∧ Unpaired rest behind := by
  have inFront {place : Nat} {unit : UInt16} (there : front[place]? = some unit) :
      (front ++ rest)[place]? = some unit := by
    rwa [List.getElem?_append_left (List.getElem?_eq_some_iff.1 there).1]
  have atRest (place : Nat) : (front ++ rest)[front.length + place]? = rest[place]? := by
    rw [List.getElem?_append_right (Nat.le_add_right ..), Nat.add_sub_cancel_left]
  constructor
  · intro unpaired
    by_cases inside : index < front.length
    · -- What stands alone with `rest` behind it stands alone without.
      cases unpaired with
      | high there first alone =>
        rw [List.getElem?_append_left inside] at there
        exact absurd (.high there first fun next found => alone next (inFront found)) (paired index)
      | low there second alone =>
        rw [List.getElem?_append_left inside] at there
        exact absurd (.low there second fun before previous next found =>
          alone before previous next (inFront found)) (paired index)
    · obtain ⟨behind, rfl⟩ := Nat.exists_eq_add_of_le (Nat.le_of_not_lt inside)
      refine ⟨behind, rfl, ?_⟩
      cases unpaired with
      | high there first alone =>
        refine .high ((atRest behind).symm.trans there) first fun next found => ?_
        exact alone next ((atRest (behind + 1)).trans found)
      | low there second alone =>
        refine .low ((atRest behind).symm.trans there) second fun before previous next found => ?_
        exact alone (front.length + before) previous (congrArg (front.length + ·) next)
          ((atRest before).trans found)
  · rintro ⟨behind, rfl, unpaired⟩
    cases unpaired with
    | high there first alone =>
      refine .high ((atRest behind).trans there) first fun next found => ?_
      exact alone next ((atRest (behind + 1)).symm.trans found)
    | low there second alone =>
      refine .low ((atRest behind).trans there) second fun before previous next found => ?_
      cases behind with
      | zero =>
        -- A first half at the end of `front` would stand alone there.
        have inside : before < front.length := by omega
        have last : front[before + 1]? = none := List.getElem?_eq_none (by omega)
        rw [List.getElem?_append_left inside] at found
        intro isHigh
        refine paired before (.high found isHigh fun next foundNext => ?_)
        rw [last] at foundNext
        cases foundNext
      | succ behind =>
        obtain rfl : before = front.length + behind := by omega
        exact alone behind previous rfl ((atRest behind).symm.trans found)

theorem WellPaired.append {front rest : List UInt16} (paired : WellPaired front)
    (pairedRest : WellPaired rest) : WellPaired (front ++ rest) := by
  intro index unpaired
  obtain ⟨behind, -, unpairedRest⟩ := paired.unpaired_append_iff.1 unpaired
  exact pairedRest behind unpairedRest

theorem unpaired_zero_iff {unit : UInt16} {rest : List UInt16} :
    Unpaired (unit :: rest) 0 ↔
      isLow unit ∨ isHigh unit ∧ ∀ next, rest.head? = some next → ¬ isLow next := by
  rw [List.head?_eq_getElem?]
  constructor
  · intro unpaired
    cases unpaired with
    | high there first alone =>
      cases there
      exact .inr ⟨first, alone⟩
    | low there second =>
      cases there
      exact .inl second
  · rintro (second | ⟨first, alone⟩)
    · refine .low rfl second fun before previous next => ?_
      cases next
    · exact .high rfl first alone

/-! ## Whole characters -/

theorem ofChars_cons (c : Char) (chars : List Char) :
    ofChars (c :: chars) = ofChar c ++ ofChars chars :=
  List.flatMap_cons

theorem exists_ofChar_eq (c : Char) :
    (∃ unit, ofChar c = [unit]) ∨ ∃ high low, ofChar c = [high, low] := by
  unfold ofChar
  split
  · exact .inl ⟨_, rfl⟩
  · exact .inr ⟨_, _, rfl⟩

theorem wellPaired_ofChar (c : Char) : WellPaired (ofChar c) := by
  intro index unpaired
  obtain ⟨unit, form⟩ | ⟨high, low, form⟩ := exists_ofChar_eq c
  · obtain ⟨notHigh, notLow, -⟩ := ofChar_eq_single_iff.1 form
    rw [form] at unpaired
    cases unpaired with
    | high there first =>
      obtain rfl := List.mem_singleton.1 (List.mem_of_getElem? there)
      exact Bool.eq_false_iff.1 notHigh first
    | low there second =>
      obtain rfl := List.mem_singleton.1 (List.mem_of_getElem? there)
      exact Bool.eq_false_iff.1 notLow second
  · obtain ⟨isHigh, isLow, -⟩ := ofChar_eq_pair_iff.1 form
    rw [form] at unpaired
    match index, unpaired with
    | 0, .high _ _ alone => exact alone low rfl isLow
    | 0, .low there second _ =>
      cases there
      exact not_isLow_of_isHigh isHigh second
    | 1, .high there first _ =>
      cases there
      exact not_isLow_of_isHigh first isLow
    | 1, .low _ _ alone => exact alone 0 high rfl rfl isHigh

theorem wellPaired_ofChars (chars : List Char) : WellPaired (ofChars chars) := by
  induction chars with
  | nil => exact wellPaired_nil
  | cons c chars ih =>
    rw [ofChars_cons]
    exact (wellPaired_ofChar c).append ih

/-- Whether code units are those of characters, with nothing or an unpaired surrogate behind them. -/
def Splits (units : List UInt16) : Prop :=
  ∃ chars rest, units = ofChars chars ++ rest ∧ (rest = [] ∨ Unpaired rest 0)

theorem splits_nil : Splits [] :=
  ⟨[], [], rfl, .inl rfl⟩

theorem splits_of_unpaired {units : List UInt16} (unpaired : Unpaired units 0) : Splits units :=
  ⟨[], units, rfl, .inr unpaired⟩

theorem Splits.cons {c : Char} {front units : List UInt16} (form : ofChar c = front)
    (split : Splits units) : Splits (front ++ units) := by
  obtain ⟨chars, rest, rfl, ending⟩ := split
  refine ⟨c :: chars, rest, ?_, ending⟩
  rw [ofChars_cons, form, List.append_assoc]

theorem splits (units : List UInt16) : Splits units := by
  -- By induction on what is read: a character goes in front, and a fault ends the characters.
  fun_induction characters units with
  | case1 => exact splits_nil
  | case2 unit =>
    by_cases high : isHigh unit
    · exact splits_of_unpaired (unpaired_zero_iff.2 (.inr ⟨high, by simp⟩))
    by_cases low : isLow unit
    · exact splits_of_unpaired (unpaired_zero_iff.2 (.inl low))
    rw [Bool.not_eq_true] at high low
    exact splits_nil.cons (ofChar_eq_single_iff.2 ⟨high, low, rfl⟩)
  | case3 high low rest isHigh isLow ih => exact ih.cons (ofChar_eq_pair_iff.2 ⟨isHigh, isLow, rfl⟩)
  | case4 unit other rest high notLow =>
    exact splits_of_unpaired (unpaired_zero_iff.2 (.inr ⟨high, by simpa using notLow⟩))
  | case5 unit other rest notHigh low => exact splits_of_unpaired (unpaired_zero_iff.2 (.inl low))
  | case6 unit other rest notHigh notLow ih =>
    rw [Bool.not_eq_true] at notHigh notLow
    exact ih.cons (ofChar_eq_single_iff.2 ⟨notHigh, notLow, rfl⟩)

/-! ## Decoding -/

theorem characters_ofChar_append (c : Char) (rest : List UInt16) :
    characters (ofChar c ++ rest) = some c :: characters rest := by
  obtain ⟨unit, form⟩ | ⟨high, low, form⟩ := exists_ofChar_eq c
  · obtain ⟨notHigh, notLow, same⟩ := ofChar_eq_single_iff.1 form
    rw [form, same]
    cases rest <;> simp [characters, notHigh, notLow]
  · obtain ⟨isHigh, isLow, same⟩ := ofChar_eq_pair_iff.1 form
    rw [form, same]
    simp [characters, isHigh, isLow]

theorem characters_ofChars_append (chars : List Char) (rest : List UInt16) :
    characters (ofChars chars ++ rest) = chars.map some ++ characters rest := by
  induction chars with
  | nil => rfl
  | cons c chars ih =>
    rw [ofChars_cons, List.append_assoc, characters_ofChar_append, ih]
    rfl

theorem characters_of_unpaired {units : List UInt16} (unpaired : Unpaired units 0) :
    ∃ later, characters units = none :: later := by
  cases units with
  | nil => exact absurd unpaired (wellPaired_nil 0)
  | cons unit rest =>
    cases rest with
    | nil =>
      obtain low | ⟨high, -⟩ := unpaired_zero_iff.1 unpaired
      · exact ⟨[], by simp [characters, low]⟩
      · exact ⟨[], by simp [characters, high]⟩
    | cons next rest =>
      obtain low | ⟨high, alone⟩ := unpaired_zero_iff.1 unpaired
      · have notHigh : ¬ isHigh unit := fun high => not_isLow_of_isHigh high low
        exact ⟨_, by rw [characters, if_neg notHigh, if_pos low]⟩
      · exact ⟨_, by rw [characters, if_pos high, if_neg (alone next rfl)]⟩

theorem mapM_some (chars : List Char) : (chars.map some).mapM id = some chars := by
  induction chars with
  | nil => rfl
  | cons c chars ih => simp [ih]

theorem mapM_none (chars : List Char) (later : List (Option Char)) :
    (chars.map some ++ none :: later).mapM id = none := by
  induction chars with
  | nil => simp
  | cons c chars ih => simp [ih]

theorem length_ofChar (c : Char) : (ofChar c).length = width c := by
  unfold ofChar width
  split <;> rfl

theorem foldl_width (chars : List Char) (offset : Nat) :
    (chars.map some).foldl (fun offset c => offset + c.elim 1 width) offset =
      offset + (ofChars chars).length := by
  induction chars generalizing offset with
  | nil => rfl
  | cons c chars ih =>
    rw [List.map_cons, List.foldl_cons, ih, ofChars_cons, List.length_append, length_ofChar,
      ← Nat.add_assoc]
    rfl

theorem decode?_ofChars (chars : List Char) :
    decode? (ofChars chars) = some (String.ofList chars) := by
  have whole := characters_ofChars_append chars []
  rw [List.append_nil, characters, List.append_nil] at whole
  rw [decode?, whole, mapM_some, Option.map_some]

theorem decode?_units (text : String) : decode? (units text) = some text := by
  rw [units, decode?_ofChars, String.ofList_toList]

/-- The units of the characters in front of a fault, and nothing behind it, are counted. -/
theorem faultOffset_append (chars : List Char) {rest : List UInt16} (unpaired : Unpaired rest 0) :
    faultOffset (ofChars chars ++ rest) = (ofChars chars).length := by
  obtain ⟨later, fault⟩ := characters_of_unpaired unpaired
  have front : ((chars.map some) ++ none :: later).takeWhile Option.isSome = chars.map some := by
    rw [List.takeWhile_append_of_pos (by simp)]
    simp
  rw [faultOffset, characters_ofChars_append, fault, front, foldl_width, Nat.zero_add]

theorem decode?_append (chars : List Char) {rest : List UInt16} (unpaired : Unpaired rest 0) :
    decode? (ofChars chars ++ rest) = none := by
  obtain ⟨later, fault⟩ := characters_of_unpaired unpaired
  rw [decode?, characters_ofChars_append, fault, mapM_none, Option.map_none]

/-! ## The first fault -/

/-- Whether the first unpaired surrogate stands at an index. -/
structure FirstUnpaired (units : List UInt16) (index : Nat) : Prop where
  here : Unpaired units index
  notBefore : ∀ before < index, ¬ Unpaired units before
  front : WellPaired (units.take index)

theorem firstUnpaired_append (chars : List Char) {rest : List UInt16} (unpaired : Unpaired rest 0) :
    FirstUnpaired (ofChars chars ++ rest) (ofChars chars).length where
  here := (wellPaired_ofChars chars).unpaired_append_iff.2 ⟨0, rfl, unpaired⟩
  notBefore before less earlier := by
    obtain ⟨behind, rfl, -⟩ := (wellPaired_ofChars chars).unpaired_append_iff.1 earlier
    omega
  front := by
    rw [List.take_left]
    exact wellPaired_ofChars chars

/-- Code units whose surrogates are paired are those of a text. -/
theorem WellPaired.exists_units {units : List UInt16} (paired : WellPaired units) :
    ∃ text, Utf16.units text = units := by
  obtain ⟨chars, rest, rfl, rfl | unpaired⟩ := splits units
  · refine ⟨String.ofList chars, ?_⟩
    rw [Utf16.units, String.toList_ofList, List.append_nil]
  · exact absurd (firstUnpaired_append chars unpaired).here (paired _)

/-- Otherwise decoding fails, and what is counted afterwards leads to the first fault. -/
theorem decode?_of_not_wellPaired {units : List UInt16} (faulty : ¬ WellPaired units) :
    decode? units = none ∧ FirstUnpaired units (faultOffset units) := by
  obtain ⟨chars, rest, rfl, rfl | unpaired⟩ := splits units
  · rw [List.append_nil] at faulty
    exact absurd (wellPaired_ofChars chars) faulty
  · rw [faultOffset_append chars unpaired]
    exact ⟨decode?_append chars unpaired, firstUnpaired_append chars unpaired⟩

end StaticAtoms.Utf16
