import StaticAtoms.Json.Failure

/-!
# Blanks and words

* `Json.skipBlank` passes over the white space that may stand between tokens.
* `Json.expect` takes given letters off; `Json.word` uses it for the rest of `null`, `true` or
  `false`.
-/

namespace StaticAtoms.Json

/-- White space between tokens: space, tab, line feed and carriage return. -/
def isBlank (c : Char) : Bool :=
  c = ' ' || c = '\t' || c = '\n' || c = '\r'

/-- What is left behind leading blanks. -/
def skipBlank (s : List Char) : List Char :=
  s.dropWhile isBlank

/-- Takes the given letters off.  Fails behind the first one that differs, for the reason `wrong`,
or at the end of the text, for the reason `atEnd`. -/
def expect (atEnd wrong : Problem) : (letters s : List Char) → Except Failure (List Char)
  | [], s => .ok s
  | _ :: _, [] => .error (.here atEnd [])
  | letter :: letters, c :: s =>
      if c = letter then expect atEnd wrong letters s else .error (.next wrong (c :: s))

/-- Reads the rest of a word such as `null`. -/
def word : (letters s : List Char) → Except Failure (List Char) :=
  expect .endInValue .notAWord

theorem length_skipBlank_le (s : List Char) : (skipBlank s).length ≤ s.length :=
  (List.dropWhile_sublist _).length_le

theorem length_expect {atEnd wrong : Problem} {letters s rest : List Char}
    (read : expect atEnd wrong letters s = .ok rest) : rest.length ≤ s.length := by
  induction letters generalizing s with
  | nil =>
      simp only [expect, Except.ok.injEq] at read
      subst read
      exact Nat.le_refl _
  | cons letter letters ih =>
      cases s with
      | nil => simp [expect] at read
      | cons c s =>
          simp only [expect] at read
          split at read
          · exact Nat.le_succ_of_le (ih read)
          · simp at read

theorem length_word {letters s rest : List Char} (read : word letters s = .ok rest) :
    rest.length ≤ s.length :=
  length_expect read

end StaticAtoms.Json
