import StaticAtoms.Json.Record

/-!
# What readers read

`Json.Reads reader spelling value` says that a reader takes a spelling off the front of a text and
gives a value, whatever blanks stand before it and whatever delimited text follows.  It is how the
other modules state that a value is read back, and it is kept by `Reader.map`.

`Json.Blanks` relates a text to what is left of it behind blanks; `skipBlank` passes over as many of
them as there are, which is what `blanks_cons_iff` and `blanks_nil_iff` say.
-/

namespace StaticAtoms.Json

/-! ## Blanks and delimiters -/

/-- Whether there is nothing but white space. -/
def Blank (s : List Char) : Prop :=
  ∀ c ∈ s, isBlank c

/-- What can follow a value: the end of the text, a blank, a comma or a closing bracket. -/
def Delimited : List Char → Prop
  | [] => True
  | c :: _ => isBlank c ∨ c = ',' ∨ c = ']' ∨ c = '\x7d'

theorem blank_nil : Blank [] := by
  simp [Blank]

theorem skipBlank_append {blanks : List Char} (blank : Blank blanks) (s : List Char) :
    skipBlank (blanks ++ s) = skipBlank s :=
  List.dropWhile_append_of_pos blank

theorem skipBlank_cons {c : Char} (filled : isBlank c = false) (s : List Char) :
    skipBlank (c :: s) = c :: s := by
  simp [skipBlank, filled]

theorem Delimited.append {blanks rest : List Char} (blank : Blank blanks)
    (delimited : Delimited rest) : Delimited (blanks ++ rest) := by
  cases blanks with
  | nil => exact delimited
  | cons c blanks => exact .inl (blank c List.mem_cons_self)

theorem Delimited.comma (rest : List Char) : Delimited (',' :: rest) :=
  .inr (.inl rfl)

/-! ## Blanks in front -/

/-- Whether nothing but blanks stands between a text and what is left of it. -/
def Blanks (s rest : List Char) : Prop :=
  ∃ blanks, Blank blanks ∧ s = blanks ++ rest

section Blanks

variable {s t rest : List Char}

theorem Blanks.refl (s : List Char) : Blanks s s :=
  ⟨[], blank_nil, rfl⟩

theorem Blanks.trans (blanks : Blanks s t) (blanksBehind : Blanks t rest) : Blanks s rest := by
  obtain ⟨front, blank, rfl⟩ := blanks
  obtain ⟨behind, blankBehind, rfl⟩ := blanksBehind
  exact ⟨front ++ behind, List.forall_mem_append.2 ⟨blank, blankBehind⟩, by simp⟩

theorem Blanks.skipBlank_eq (blanks : Blanks s t) : skipBlank s = skipBlank t := by
  obtain ⟨front, blank, rfl⟩ := blanks
  exact skipBlank_append blank t

theorem blanks_skipBlank (s : List Char) : Blanks s (skipBlank s) := by
  refine ⟨s.takeWhile isBlank, fun c member => ?_, List.takeWhile_append_dropWhile.symm⟩
  exact List.all_eq_true.1 List.all_takeWhile c member

theorem blanks_cons_iff {c : Char} (filled : isBlank c = false) :
    Blanks s (c :: rest) ↔ skipBlank s = c :: rest := by
  constructor
  · intro blanks
    rw [blanks.skipBlank_eq, skipBlank_cons filled]
  · intro skipped
    rw [← skipped]
    exact blanks_skipBlank s

theorem filled_of_skipBlank {c : Char} (skipped : skipBlank s = c :: rest) : isBlank c = false := by
  have filled := List.head?_dropWhile_not isBlank s
  unfold skipBlank at skipped
  rw [skipped] at filled
  exact filled

theorem blanks_nil_iff : Blanks s [] ↔ skipBlank s = [] := by
  constructor
  · intro blanks
    exact blanks.skipBlank_eq
  · intro skipped
    rw [← skipped]
    exact blanks_skipBlank s

end Blanks

/-! ## Readers -/

/-- Whether a reader takes the spelling for the value. -/
def Reads {α : Type} (reader : Reader α) (spelling : List Char) (value : α) : Prop :=
  ∀ ⦃blanks rest : List Char⦄, Blank blanks → Delimited rest →
    reader.read (blanks ++ (spelling ++ rest)) = .ok (value, rest)

theorem Reads.read_append {α : Type} {reader : Reader α} {spelling rest : List Char} {value : α}
    (reads : Reads reader spelling value) (delimited : Delimited rest) :
    reader.read (spelling ++ rest) = .ok (value, rest) :=
  reads blank_nil delimited

theorem Reads.map {α β : Type} {reader : Reader α} {spelling : List Char} {value : α}
    (reads : Reads reader spelling value) (f : α → β) :
    Reads (reader.map f) spelling (f value) := by
  intro blanks rest blank delimited
  simp only [Reader.map, reads blank delimited]

/-- A source that holds a spelling and blanks behind it is read. -/
theorem Reads.parse {α : Type} {reader : Reader α} {spelling : List Char} {value : α}
    (reads : Reads reader spelling value) {blanks : List Char} (blank : Blank blanks) :
    parse reader (String.ofList (spelling ++ blanks)) = .ok value := by
  have delimited : Delimited blanks := by
    have last : Delimited [] := trivial
    have followed := last.append blank
    rwa [List.append_nil] at followed
  have ended : skipBlank blanks = [] := blanks_nil_iff.1 ⟨blanks, blank, by simp⟩
  simp only [Json.parse, String.toList_ofList, reads.read_append delimited, ended]

/-! ## Truth values -/

theorem expect_append (atEnd wrong : Problem) (letters rest : List Char) :
    expect atEnd wrong letters (letters ++ rest) = .ok rest := by
  induction letters with
  | nil => rfl
  | cons letter letters ih => simp [expect, ih]

theorem flagWord_append (letters : List Char) (value : Bool) (rest : List Char) :
    flagWord letters value (letters ++ rest) = .ok (value, rest) := by
  simp [flagWord, word, expect_append]

end StaticAtoms.Json
