import StaticAtoms.Files.Store

/-!
# Names in directories

The path of a name in a directory leads through the directory: it starts where the directory's path
does, has the same names, and ends in that name.  Whatever is wrong with the directory's path is wrong
with it, too, `fault?_of_join`, and nothing else as long as it is short: `fault?_join`.
-/

namespace StaticAtoms.Path

/-- A name that stands for something in a directory, and for no directory around it. -/
structure IsName (name : String) : Prop where
  noSlash : '/' ∉ name.toList
  notHere : name ≠ "."
  notAbove : name ≠ ".."
  notEmpty : name ≠ ""

/-! ## Splitting -/

theorem splitSlashes_ne_nil (text : List Char) : splitSlashes text ≠ [] := by
  cases text with
  | nil => exact List.cons_ne_nil _ _
  | cons c text =>
    rw [splitSlashes]
    split
    · exact List.cons_ne_nil _ _
    · split <;> exact List.cons_ne_nil _ _

theorem splitSlashes_append (front behind : List Char) :
    splitSlashes (front ++ '/' :: behind) = splitSlashes front ++ splitSlashes behind := by
  induction front with
  | nil =>
    cases split : splitSlashes behind with
    | nil => exact absurd split (splitSlashes_ne_nil behind)
    | cons part parts => simp [splitSlashes, split]
  | cons c front ih =>
    rw [List.cons_append, splitSlashes, ih, splitSlashes]
    -- The character joins the first part, which ends in front of the slash or at it.
    cases split : splitSlashes front with
    | nil => exact absurd split (splitSlashes_ne_nil front)
    | cons part parts =>
      simp only [List.cons_append]
      split <;> rfl

theorem splitSlashes_of_noSlash {text : List Char} (noSlash : '/' ∉ text) :
    splitSlashes text = [text] := by
  induction text with
  | nil => rfl
  | cons c text ih =>
    rw [List.mem_cons, not_or] at noSlash
    rw [splitSlashes, ih noSlash.2]
    simp [Ne.symm noSlash.1]

/-! ## Joining -/

theorem IsName.toList_ne_nil {name : String} (proper : IsName name) : name.toList ≠ [] :=
  fun empty => proper.notEmpty (String.toList_eq_nil_iff.1 empty)

theorem parts_of_isName {name : String} (proper : IsName name) : parts name = [name] := by
  simp [parts, splitSlashes_of_noSlash proper.noSlash, proper.toList_ne_nil]

theorem parts_append (front : String) {name : String} (proper : IsName name) :
    parts (front ++ "/" ++ name) = parts front ++ [name] := by
  simp [parts, splitSlashes_append, splitSlashes_of_noSlash proper.noSlash, proper.toList_ne_nil]

theorem parts_append_slash (front : String) : parts (front ++ "/") = parts front := by
  simp [parts, splitSlashes_append, splitSlashes]

theorem eq_append_of_endsInSlash {path : String} (ends : endsInSlash path) :
    ∃ front, path = front ++ "/" := by
  have last : path.toList.getLast? = some '/' := by simpa [endsInSlash] using ends
  obtain ⟨front, split⟩ := List.getLast?_eq_some_iff.1 last
  refine ⟨String.ofList front, String.toList_inj.1 ?_⟩
  simp [split]

theorem parts_join (directory : String) {name : String} (proper : IsName name) :
    parts (join directory name) = parts directory ++ [name] := by
  rw [join]
  split
  next short =>
    -- The name comes right behind an empty path or a slash.
    obtain empty | ends := Bool.or_eq_true_iff.1 short
    · obtain rfl := String.isEmpty_iff.1 empty
      rw [String.empty_append, parts_of_isName proper]
      rfl
    · obtain ⟨front, rfl⟩ := eq_append_of_endsInSlash ends
      rw [parts_append front proper, parts_append_slash]
  next => exact parts_append directory proper

theorem start_append {front : String} (filled : front ≠ "") (behind : String) :
    start (front ++ behind) = start front := by
  rw [start, start, String.toList_append]
  cases letters : front.toList with
  | nil => exact absurd (String.toList_eq_nil_iff.1 letters) filled
  | cons c letters => rfl

theorem start_join (directory : String) {name : String} (proper : IsName name) :
    start (join directory name) = start directory := by
  by_cases empty : directory = ""
  · subst empty
    have unrooted : name.toList.head? ≠ some '/' :=
      fun first => proper.noSlash (List.mem_of_head? first)
    show start ("" ++ name) = start ""
    rw [String.empty_append, start, if_neg unrooted]
    rfl
  · rw [join]
    split
    · exact start_append empty name
    · have filled : directory ++ "/" ≠ "" := by simp
      exact (start_append filled name).trans (start_append empty "/")

theorem join_eq_append (directory name : String) :
    ∃ gap, join directory name = directory ++ gap ++ name := by
  rw [join]
  split
  · exact ⟨"", by simp⟩
  · exact ⟨"/", rfl⟩

theorem endsInSlash_join (directory : String) {name : String} (proper : IsName name) :
    endsInSlash (join directory name) = false := by
  obtain ⟨gap, same⟩ := join_eq_append directory name
  rw [endsInSlash, decide_eq_false_iff_not, same, String.toList_append, List.getLast?_append]
  cases last : name.toList.getLast? with
  | none => exact absurd (List.getLast?_eq_none_iff.1 last) proper.toList_ne_nil
  | some c =>
    rintro slash
    cases slash
    exact proper.noSlash (List.mem_of_getLast? last)

theorem isEmpty_join (directory : String) {name : String} (proper : IsName name) :
    (join directory name).isEmpty = false := by
  obtain ⟨gap, same⟩ := join_eq_append directory name
  rw [Bool.eq_false_iff, Ne, String.isEmpty_iff, same, String.append_eq_empty_iff]
  exact fun empty => proper.notEmpty empty.2

theorem fault?_join {directory name : String} (noNul : '\x00' ∉ directory.toList)
    (sound : '\x00' ∉ name.toList) (short : directory.utf8ByteSize + name.utf8ByteSize < 4095) :
    fault? (join directory name) = none := by
  have slash : "/".utf8ByteSize = 1 := by decide
  have letters : '\x00' ∉ (join directory name).toList := by
    rw [join]
    split <;> simp [toString, noNul, sound]
  have size : (join directory name).utf8ByteSize ≤ 4095 := by
    rw [join]
    split <;> simp only [toString, String.utf8ByteSize_append] <;> omega
  rw [fault?, if_neg (by simpa using letters), if_neg (by omega)]

theorem fault?_of_join {directory name : String} (sound : fault? (join directory name) = none) :
    fault? directory = none := by
  obtain ⟨gap, same⟩ := join_eq_append directory name
  rw [same, fault?] at sound
  split at sound
  next => cases sound
  next noNul =>
    split at sound
    next => cases sound
    next short =>
      simp only [String.toList_append, List.contains_eq_mem, List.mem_append, decide_eq_true_eq,
        not_or, String.utf8ByteSize_append] at noNul short
      rw [fault?, if_neg (by simpa using noNul.1.1), if_neg (by omega)]

end StaticAtoms.Path
