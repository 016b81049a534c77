import StaticAtoms.Proofs.Json.Brackets

/-!
# Values are passed over whole

`skipValue` takes exactly one value off, of any kind and depth.

* `valueForm_of_skipValue`: what is passed over is a value.  `DemandForm` says what the brackets that
  are open still demand of the text, and `DemandForm.of_skipStep` goes back by one step.
* `IsValue.skipValue_eq`: every value is passed over, by induction on how it is nested.
-/

namespace StaticAtoms.Json

variable {s t rest : List Char}

/-! ## What is passed over -/

theorem word_eq_ok_iff {letters : List Char} : word letters s = .ok rest ↔ s = letters ++ rest :=
  expect_eq_ok_iff

theorem skipWord_eq_none_iff {letters : List Char} {bracket : Option Bracket} :
    skipWord letters s = .ok (bracket, rest) ↔ bracket = none ∧ s = letters ++ rest := by
  rw [← word_eq_ok_iff, skipWord]
  constructor
  · intro read
    split at read
    next => cases read
    next taken =>
      cases read
      exact ⟨rfl, taken⟩
  · rintro ⟨rfl, taken⟩
    simp only [taken]

/-- What is no opening bracket is a whole value. -/
theorem exists_of_skipToken {bracket : Option Bracket} (read : skipToken s = .ok (bracket, rest)) :
    (∃ spelling, bracket = none ∧ IsValue spelling ∧ s = spelling ++ rest) ∨
      ∃ opened, bracket = some opened ∧ s = opened.opening :: rest := by
  unfold skipToken at read
  split at read
  next => cases read
  next =>
    obtain ⟨rfl, rfl⟩ := skipWord_eq_none_iff.1 read
    exact .inl ⟨['n', 'u', 'l', 'l'], rfl, .word (by decide), rfl⟩
  next =>
    obtain ⟨rfl, rfl⟩ := skipWord_eq_none_iff.1 read
    exact .inl ⟨['t', 'r', 'u', 'e'], rfl, .word (by decide), rfl⟩
  next =>
    obtain ⟨rfl, rfl⟩ := skipWord_eq_none_iff.1 read
    exact .inl ⟨['f', 'a', 'l', 's', 'e'], rfl, .word (by decide), rfl⟩
  next =>
    cases read
    exact .inr ⟨.list, rfl, rfl⟩
  next =>
    cases read
    exact .inr ⟨.object, rfl, rfl⟩
  next =>
    split at read
    next => cases read
    next passed =>
      cases read
      obtain ⟨symbols, isSymbols, rfl⟩ := exists_of_skipText passed
      exact .inl ⟨_, rfl, .text (.quoted isSymbols), by simp⟩
  next =>
    split at read
    next =>
      split at read
      next => cases read
      next passed =>
        cases read
        obtain ⟨number, isNumber, same⟩ := isNumber_of_skipNumber passed
        exact .inl ⟨number, rfl, .number isNumber, same⟩
    next => cases read

/-- What the open brackets demand behind a value, the innermost first. -/
inductive OuterForm : List Bracket → Form where
  | done {rest : List Char} : OuterForm [] rest rest
  | bracket {bracket : Bracket} {outer : List Bracket} {s t rest : List Char}
      (ended : EndForm bracket s t) (others : OuterForm outer t rest) :
      OuterForm (bracket :: outer) s rest

/-- What is demanded of the text on the way over a value. -/
inductive DemandForm : Want → List Bracket → Form where
  | more {opened : List Bracket} {s rest : List Char} (outer : OuterForm opened s rest) :
      DemandForm .more opened s rest
  | value {opened : List Bracket} {s t rest : List Char} (value : ValueForm s t)
      (outer : OuterForm opened t rest) : DemandForm .value opened s rest
  | key {opened : List Bracket} {s t rest : List Char} (member : PartForm .object s t)
      (outer : OuterForm opened t rest) : DemandForm .key opened s rest

/-- Behind an opening bracket or a comma, a part and the end of the bracket are demanded. -/
theorem DemandForm.part {bracket : Bracket} {opened : List Bracket}
    (form : DemandForm bracket.wants (bracket :: opened) s rest) :
    ∃ t u, PartForm bracket s t ∧ EndForm bracket t u ∧ OuterForm opened u rest := by
  cases bracket with
  | list =>
    cases form with
    | value value outer =>
      cases outer with
      | bracket ended others => exact ⟨_, _, value.item, ended, others⟩
  | object =>
    cases form with
    | key member outer =>
      cases outer with
      | bracket ended others => exact ⟨_, _, member, ended, others⟩

theorem OuterForm.of_skipMore {bracket : Bracket} {outer inner : List Bracket} {want : Want}
    (step : skipMore bracket outer s = .ok (want, inner, t)) (form : DemandForm want inner t rest) :
    OuterForm (bracket :: outer) s rest := by
  unfold skipMore at step
  split at step
  next => cases step
  next c behind skipped =>
    split at step
    next comma =>
      cases step
      subst comma
      obtain ⟨u, v, part, ended, others⟩ := form.part
      exact .bracket (.comma (skipped ▸ blanks_skipBlank s) part ended) others
    next =>
      split at step
      next closes =>
        cases step
        subst closes
        cases form with
        | more outer => exact .bracket (.close (skipped ▸ blanks_skipBlank s)) outer
      next => cases step

theorem DemandForm.of_skipKey {opened : List Bracket} (step : skipKey s = .ok t)
    (form : DemandForm .value opened t rest) : DemandForm .key opened s rest := by
  unfold skipKey at step
  split at step
  next => cases step
  next inside skipped =>
    split at step
    next => cases step
    next passed =>
      obtain ⟨symbols, isSymbols, rfl⟩ := exists_of_skipText passed
      have blanks := blanks_skipBlank s
      rw [skipped] at blanks
      cases form with
      | value value outer =>
        have member := value.member (.quoted isSymbols) (Record.colon_eq_ok_iff.1 step)
        simp only [List.cons_append, List.append_assoc] at member
        exact .key (member.lead blanks) outer
  next => cases step

theorem closed_of_skipClose {bracket : Bracket} (step : skipClose bracket s = .ok (true, t)) :
    Blanks s (bracket.close :: t) := by
  unfold skipClose at step
  split at step
  next => cases step
  next c behind skipped =>
    split at step
    next closes =>
      cases step
      subst closes
      exact skipped ▸ blanks_skipBlank s
    next => cases step

theorem blanks_of_skipClose {bracket : Bracket} (step : skipClose bracket s = .ok (false, t)) :
    Blanks s t := by
  unfold skipClose at step
  split at step
  next => cases step
  next c behind skipped =>
    split at step
    next => cases step
    next =>
      cases step
      exact skipped ▸ blanks_skipBlank s

theorem DemandForm.of_skipStart {opened inner : List Bracket} {want : Want}
    (step : skipStart opened s = .ok (want, inner, t)) (form : DemandForm want inner t rest) :
    DemandForm .value opened s rest := by
  have blanks := blanks_skipBlank s
  unfold skipStart at step
  split at step
  next => cases step
  next behind token =>
    cases step
    obtain ⟨spelling, -, isValue, same⟩ | ⟨_, none, -⟩ := exists_of_skipToken token
    · cases form with
      | more outer => exact .value (.value (same ▸ blanks) isValue) outer
    · cases none
  next bracket behind token =>
    obtain ⟨_, none, -⟩ | ⟨_, some, same⟩ := exists_of_skipToken token
    · cases none
    · cases some
      rw [same] at blanks
      split at step
      next => cases step
      next closed =>
        cases step
        cases form with
        | more outer =>
          have inside : InsideForm bracket true behind t := .close (closed_of_skipClose closed)
          exact .value (inside.valueForm.lead blanks) outer
      next further =>
        cases step
        obtain ⟨u, v, part, ended, others⟩ := form.part
        have inside : InsideForm bracket true behind v :=
          .part (.first (blanks_of_skipClose further)) part ended
        exact .value (inside.valueForm.lead blanks) others

theorem DemandForm.of_skipStep {want next : Want} {opened inner : List Bracket}
    (step : skipStep want opened s = .ok (some (next, inner, t)))
    (form : DemandForm next inner t rest) : DemandForm want opened s rest := by
  unfold skipStep at step
  split at step
  next => cases step
  next =>
    split at step
    next => cases step
    next more =>
      cases step
      exact .more (.of_skipMore more form)
  next =>
    split at step
    next => cases step
    next key =>
      cases step
      exact form.of_skipKey key
  next =>
    split at step
    next => cases step
    next start =>
      cases step
      exact form.of_skipStart start

theorem DemandForm.of_skipAll {want : Want} {opened : List Bracket}
    (read : skipAll want opened s = .ok rest) : DemandForm want opened s rest := by
  -- By induction on the steps: what is demanded behind a step tells what is demanded in front of it.
  fun_induction skipAll want opened s with
  | case1 => cases read
  | case2 want opened s done =>
    cases read
    unfold skipStep at done
    split at done
    next => exact .more .done
    all_goals split at done <;> cases done
  | case3 want opened s next inner behind step ih => exact (ih read).of_skipStep step

/-- What is passed over is a value. -/
theorem valueForm_of_skipValue (read : skipValue s = .ok rest) : ValueForm s rest := by
  cases DemandForm.of_skipAll read with
  | value value outer =>
    cases outer with
    | done => exact value

/-! ## Every value is passed over -/

section Steps

variable {want next : Want} {opened inner : List Bracket} {bracket : Bracket}

theorem skipAll_of_step (step : skipStep want opened s = .ok (some (next, inner, t))) :
    skipAll want opened s = skipAll next inner t := by
  rw [skipAll]
  split
  next failed => rw [step] at failed; cases failed
  next done => rw [step] at done; cases done
  next stepped => rw [step] at stepped; cases stepped; rfl

theorem skipAll_of_failure {failure : Failure} (failed : skipStep want opened s = .error failure) :
    skipAll want opened s = .error failure := by
  rw [skipAll]
  split
  next same => rw [failed] at same; cases same; rfl
  next done => rw [failed] at done; cases done
  next stepped => rw [failed] at stepped; cases stepped

theorem skipAll_done : skipAll .more [] s = .ok s := by
  rw [skipAll]
  split
  next failed => cases failed
  next => rfl
  next stepped => cases stepped

/-- Blanks behind a value do not matter. -/
theorem skipAll_more_of_blanks (blanks : Blanks s t) :
    skipAll .more (bracket :: opened) s = skipAll .more (bracket :: opened) t := by
  have same : skipStep .more (bracket :: opened) s = skipStep .more (bracket :: opened) t := by
    simp only [skipStep, skipMore, blanks.skipBlank_eq]
  cases step : skipStep .more (bracket :: opened) t with
  | error failure => rw [skipAll_of_failure step, skipAll_of_failure (same.trans step)]
  | ok next =>
    cases next with
    | none =>
      simp only [skipStep] at step
      split at step <;> cases step
    | some next => rw [skipAll_of_step step, skipAll_of_step (same.trans step)]

end Steps

/-- Whether a value is passed over, wherever it stands. -/
def Passes (spelling : List Char) : Prop :=
  ∀ ⦃opened : List Bracket⦄ ⦃s rest : List Char⦄, skipBlank s = spelling ++ rest → Delimited rest →
    skipAll .value opened s = skipAll .more opened rest

/-- Whether a part is passed over, wherever it stands between brackets. -/
structure Bracket.Passes (bracket : Bracket) (part : List Char) : Prop where
  starts : ∀ rest, ∃ c t, skipBlank (part ++ rest) = c :: t ∧ c ≠ bracket.close
  skipAll_eq : ∀ ⦃opened : List Bracket⦄ ⦃s rest : List Char⦄,
    skipBlank s = skipBlank (part ++ rest) → Delimited rest →
      skipAll bracket.wants (bracket :: opened) s = skipAll .more (bracket :: opened) rest

theorem passes_of_skipToken {spelling : List Char}
    (token : ∀ rest, Delimited rest → skipToken (spelling ++ rest) = .ok (none, rest)) :
    Passes spelling := by
  intro opened s rest skipped delimited
  refine skipAll_of_step ?_
  simp only [skipStep, skipStart, skipped, token rest delimited]

theorem skipToken_of_mem_words {spelling : List Char} (known : spelling ∈ words)
    (rest : List Char) : skipToken (spelling ++ rest) = .ok (none, rest) := by
  simp only [words, List.mem_cons, List.not_mem_nil, or_false] at known
  obtain rfl | rfl | rfl := known <;> simp [skipToken, skipWord, word, expect]

theorem skipToken_of_isNumber {number : List Char} (isNumber : IsNumber number)
    (delimited : Delimited rest) : skipToken (number ++ rest) = .ok (none, rest) := by
  have passed := isNumber.skipNumber_eq delimited
  obtain ⟨c, others, rfl, lead⟩ := isNumber.exists_cons
  rw [List.cons_append] at passed ⊢
  have marks : ∀ mark ∈ ['n', 't', 'f', '[', '\x7b', '"'], ¬ (mark = '-' ∨ mark.isDigit) := by
    simp
  have noMark (mark : Char) (isMark : mark ∈ ['n', 't', 'f', '[', '\x7b', '"']) : c ≠ mark := by
    rintro rfl
    exact marks c isMark lead
  have isLead : (c = '-' || c.isDigit) = true := by simpa using lead
  rw [skipToken.eq_8 _ _ (noMark _ (by decide)) (noMark _ (by decide)) (noMark _ (by decide))
    (noMark _ (by decide)) (noMark _ (by decide)) (noMark _ (by decide)), if_pos isLead]
  simp only [passed]

theorem skipAll_ending {bracket : Bracket} {parts : List (List Char)}
    (passes : ∀ part ∈ parts, bracket.Passes part) (opened : List Bracket) (rest : List Char) :
    skipAll .more (bracket :: opened) (bracket.ending parts ++ rest) = skipAll .more opened rest := by
  induction parts with
  | nil =>
    refine skipAll_of_step ?_
    have skipped : skipBlank (bracket.close :: rest) = bracket.close :: rest :=
      skipBlank_cons bracket.isBlank_close rest
    have notComma : bracket.close ≠ ',' := bracket.comma_ne_close.symm
    simp [Bracket.ending, skipStep, skipMore, skipped, notComma]
  | cons part parts ih =>
    rw [List.forall_mem_cons] at passes
    have behind := bracket.delimited_ending parts rest
    have step : skipStep .more (bracket :: opened) (bracket.ending (part :: parts) ++ rest) =
        .ok (some (bracket.wants, bracket :: opened, part ++ (bracket.ending parts ++ rest))) := by
      rw [Bracket.ending, List.cons_append, List.append_assoc]
      simp only [skipStep, skipMore]
      rw [skipBlank_cons rfl]
      rfl
    rw [skipAll_of_step step, passes.1.skipAll_eq rfl behind, ih passes.2]

/-- Parts that are passed over are passed over between their brackets. -/
theorem passes_between {bracket : Bracket} {gap : List Char} {parts : List (List Char)}
    (blank : Blank gap) (passes : ∀ part ∈ parts, bracket.Passes part) :
    Passes (between bracket gap parts) := by
  intro opened s rest skipped delimited
  have token : skipToken (bracket.opening :: (gap ++ (bracket.inside parts ++ rest))) =
      .ok (some bracket, gap ++ (bracket.inside parts ++ rest)) := by
    cases bracket <;> rfl
  rw [between_eq, List.cons_append, List.append_assoc] at skipped
  cases parts with
  | nil =>
    have close : skipClose bracket (gap ++ (bracket.inside [] ++ rest)) = .ok (true, rest) := by
      have found : skipBlank (gap ++ bracket.close :: rest) = bracket.close :: rest :=
        (skipBlank_append blank _).trans (skipBlank_cons bracket.isBlank_close rest)
      simp [Bracket.inside, skipClose, found]
    refine skipAll_of_step ?_
    simp only [skipStep, skipStart, skipped, token, close]
  | cons part parts =>
    rw [List.forall_mem_cons] at passes
    obtain ⟨c, t, found, notClose⟩ := passes.1.starts (bracket.ending parts ++ rest)
    have inside : bracket.inside (part :: parts) ++ rest = part ++ (bracket.ending parts ++ rest) :=
      List.append_assoc ..
    have close : skipClose bracket (gap ++ (bracket.inside (part :: parts) ++ rest)) =
        .ok (false, c :: t) := by
      rw [inside]
      simp only [skipClose, skipBlank_append blank, found, notClose, ↓reduceIte]
    have step : skipStep .value opened s =
        .ok (some (bracket.wants, bracket :: opened, c :: t)) := by
      simp only [skipStep, skipStart, skipped, token, close]
    have again : skipBlank (c :: t) = skipBlank (part ++ (bracket.ending parts ++ rest)) :=
      found ▸ skipBlank_cons (filled_of_skipBlank found) t
    rw [skipAll_of_step step, passes.1.skipAll_eq again (bracket.delimited_ending parts rest),
      skipAll_ending passes.2]

theorem passes_item {item : Item} (value : IsValue item.value) (passes : Passes item.value) :
    Bracket.Passes .list item.text := by
  have skipped (rest : List Char) :
      skipBlank (item.text ++ rest) = item.value ++ (item.behind ++ rest) := by
    rw [Item.text, List.append_assoc, List.append_assoc]
    exact value.skipBlank_eq item.blankBefore _
  refine ⟨fun rest => ?_, fun opened s rest same delimited => ?_⟩
  · have starts := value.starts.append (item.behind ++ rest)
    rw [← skipped] at starts
    cases found : skipBlank (item.text ++ rest) with
    | nil => rw [found] at starts; exact starts.elim
    | cons c t => rw [found] at starts; exact ⟨c, t, rfl, starts.2⟩
  · have blanks : Blanks (item.behind ++ rest) rest := ⟨item.behind, item.blankBehind, rfl⟩
    exact (passes (same.trans (skipped rest)) (delimited.append item.blankBehind)).trans
      (skipAll_more_of_blanks blanks)

theorem passes_member {member : Member} (value : IsValue member.item.value)
    (passes : Passes member.item.value) : Bracket.Passes .object member.text := by
  obtain ⟨symbols, isSymbols, quoted⟩ := member.isText.exists_symbols
  have skipped (rest : List Char) : skipBlank (member.text ++ rest) =
      '"' :: (symbols.flatten ++ '"' :: (member.behindKey ++ ':' :: (member.item.text ++ rest))) := by
    rw [Member.text, quoted, List.append_assoc, skipBlank_append member.blankBefore]
    simp only [List.cons_append, List.append_assoc, List.nil_append]
    exact skipBlank_cons rfl _
  refine ⟨fun rest => ⟨'"', _, skipped rest, by decide⟩, fun opened s rest same delimited => ?_⟩
  have colon : colon (member.behindKey ++ ':' :: (member.item.text ++ rest)) =
      .ok (member.item.text ++ rest) :=
    Record.colon_eq_ok_iff.2 ⟨member.behindKey, member.blankBehindKey, rfl⟩
  have step : skipStep .key (.object :: opened) s =
      .ok (some (.value, .object :: opened, member.item.text ++ rest)) := by
    simp only [skipStep, skipKey, same, skipped, skipText_flatten isSymbols, colon]
  have blanks : Blanks (member.item.behind ++ rest) rest :=
    ⟨member.item.behind, member.item.blankBehind, rfl⟩
  have behind : skipBlank (member.item.text ++ rest) =
      member.item.value ++ (member.item.behind ++ rest) := by
    rw [Item.text, List.append_assoc, List.append_assoc]
    exact value.skipBlank_eq member.item.blankBefore _
  calc skipAll .key (.object :: opened) s
    _ = skipAll .value (.object :: opened) (member.item.text ++ rest) := skipAll_of_step step
    _ = skipAll .more (.object :: opened) (member.item.behind ++ rest) :=
      passes behind (delimited.append member.item.blankBehind)
    _ = skipAll .more (.object :: opened) rest := skipAll_more_of_blanks blanks

/-- Every value is passed over, however deeply it is nested. -/
theorem IsValue.passes {spelling : List Char} (value : IsValue spelling) : Passes spelling := by
  -- The open brackets are any, so the parts of a list or an object pass with one more of them.
  induction value with
  | word known => exact passes_of_skipToken fun rest _ => skipToken_of_mem_words known rest
  | number isNumber => exact passes_of_skipToken fun rest => skipToken_of_isNumber isNumber
  | text isText =>
    refine passes_of_skipToken fun rest _ => ?_
    cases isText with
    | quoted isSymbols =>
      simp [skipToken, skipText_flatten isSymbols]
  | list blank values ih =>
    refine passes_between blank fun part isPart => ?_
    obtain ⟨item, present, rfl⟩ := List.mem_map.1 isPart
    exact passes_item (values item present) (ih item present)
  | object blank values ih =>
    refine passes_between blank fun part isPart => ?_
    obtain ⟨member, present, rfl⟩ := List.mem_map.1 isPart
    exact passes_member (values member present) (ih member present)

/-- A value is passed over with the blanks in front of it, whatever delimited text follows. -/
theorem IsValue.skipValue_eq {gap spelling : List Char} (value : IsValue spelling)
    (blank : Blank gap) (delimited : Delimited rest) :
    skipValue (gap ++ (spelling ++ rest)) = .ok rest := by
  rw [skipValue, value.passes (value.skipBlank_eq blank rest) delimited, skipAll_done]

end StaticAtoms.Json
