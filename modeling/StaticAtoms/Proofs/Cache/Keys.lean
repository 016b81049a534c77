import StaticAtoms.Proofs.Cache.Entries

/-!
# What a key is made from

A key is the hash of a manifest's bytes, the name of a format and a version of the tool, one behind the
other.  There are no lengths in between, so that a version which ends in another one can take bytes
over from the manifest: `Origin.Shifts`.  That is the only way in which the bytes of different origins
can be the same: `Origin.keyInput_eq_iff`.
-/

namespace StaticAtoms.Cache

/-- What a key is made from. -/
structure Origin where
  manifest : Bytes
  format : OutputFormat
  tool : String
deriving DecidableEq

namespace Origin

variable {left right : Origin}

/-- The bytes that the key is the hash of. -/
def keyInput (origin : Origin) : Bytes :=
  Cache.keyInput origin.manifest origin.format origin.tool

/-- The bytes in front of the tool version. -/
def front (origin : Origin) : Bytes :=
  origin.manifest ++ Text.utf8 origin.format.name

/-- Whether the right tool version is the left one with some bytes in front of it, and the left
manifest and format name are the right ones with the same bytes behind them. -/
def Shifts (left right : Origin) : Prop :=
  ∃ gap ≠ [], Text.utf8 right.tool = gap ++ Text.utf8 left.tool ∧ left.front = right.front ++ gap

theorem Shifts.keyInput_eq (shifts : left.Shifts right) : left.keyInput = right.keyInput := by
  obtain ⟨gap, -, tools, fronts⟩ := shifts
  have leftInput : left.keyInput = left.front ++ Text.utf8 left.tool := rfl
  have rightInput : right.keyInput = right.front ++ Text.utf8 right.tool := rfl
  rw [leftInput, rightInput, tools, fronts, List.append_assoc]

/-- A tool version that reaches no further to the front than another one leaves it all components, and
one that does takes over what is in front of the other. -/
theorem eq_or_shifts {gap : Bytes} (tools : Text.utf8 right.tool = gap ++ Text.utf8 left.tool)
    (fronts : left.front = right.front ++ gap) : left = right ∨ left.Shifts right := by
  by_cases empty : gap = []
  · subst empty
    have sameTool : right.tool = left.tool := Text.utf8_injective tools
    rw [List.append_nil] at fronts
    have inputs : Cache.keyInput left.manifest left.format left.tool =
        Cache.keyInput right.manifest right.format left.tool :=
      congrArg (· ++ Text.utf8 left.tool) fronts
    obtain ⟨sameManifest, sameFormat⟩ := keyInput_inj.1 inputs
    left
    cases left
    cases right
    cases sameTool
    cases sameManifest
    cases sameFormat
    rfl
  · exact .inr ⟨gap, empty, tools, fronts⟩

theorem keyInput_eq_iff :
    left.keyInput = right.keyInput ↔ left = right ∨ left.Shifts right ∨ right.Shifts left := by
  constructor
  · intro same
    have split : left.front ++ Text.utf8 left.tool = right.front ++ Text.utf8 right.tool := same
    -- One of the tool versions begins no later than the other.
    obtain ⟨gap, fronts, tools⟩ | ⟨gap, fronts, tools⟩ := List.append_eq_append_iff.1 split
    · obtain equal | shifts := eq_or_shifts tools fronts
      · exact .inl equal.symm
      · exact .inr (.inr shifts)
    · obtain equal | shifts := eq_or_shifts tools fronts
      · exact .inl equal
      · exact .inr (.inl shifts)
  · rintro (rfl | shifts | shifts)
    · rfl
    · exact shifts.keyInput_eq
    · exact shifts.keyInput_eq.symm

/-! ## What cannot shift -/

theorem Shifts.length_tool_lt (shifts : left.Shifts right) :
    (Text.utf8 left.tool).length < (Text.utf8 right.tool).length := by
  obtain ⟨gap, filled, tools, -⟩ := shifts
  have some : 0 < gap.length := List.length_pos_iff.2 filled
  rw [tools, List.length_append]
  omega

theorem Shifts.suffix (shifts : left.Shifts right) :
    Text.utf8 left.tool <:+ Text.utf8 right.tool := by
  obtain ⟨gap, -, tools, -⟩ := shifts
  exact ⟨gap, tools.symm⟩

/-- The name of a format is not the name of one with bytes behind it. -/
theorem eq_nil_of_name {format other : OutputFormat} {gap : Bytes}
    (names : Text.utf8 format.name = Text.utf8 other.name ++ gap) : gap = [] := by
  cases format <;> cases other
  · exact List.self_eq_append_right.1 names
  · have first := congrArg List.head? names
    rw [List.head?_append] at first
    cases first
  · have first := congrArg List.head? names
    rw [List.head?_append] at first
    cases first
  · exact List.self_eq_append_right.1 names

theorem Shifts.manifest_ne (shifts : left.Shifts right) : left.manifest ≠ right.manifest := by
  intro same
  obtain ⟨gap, filled, -, fronts⟩ := shifts
  rw [front, front, same, List.append_assoc, List.append_cancel_left_eq] at fronts
  exact filled (eq_nil_of_name fronts)

/-- The bytes that a key is the hash of tell origins apart unless one tool version is the other one with
something in front of it, by which the manifests differ, too.  They do not tell exactly those apart of
which one shifts into the other. -/
theorem keyInput_separates (different : left ≠ right) :
    (∀ origin : Origin,
      key origin.manifest origin.format origin.tool = Sha256.digest origin.keyInput) ∧
    (left.keyInput = right.keyInput ↔ left.Shifts right ∨ right.Shifts left) ∧
    ((Text.utf8 left.tool).length = (Text.utf8 right.tool).length →
      left.keyInput ≠ right.keyInput) ∧
    (¬ Text.utf8 left.tool <:+ Text.utf8 right.tool → ¬ Text.utf8 right.tool <:+ Text.utf8 left.tool →
      left.keyInput ≠ right.keyInput) ∧
    (left.manifest = right.manifest → left.keyInput ≠ right.keyInput) := by
  have shifted : left.keyInput = right.keyInput ↔ left.Shifts right ∨ right.Shifts left := by
    rw [keyInput_eq_iff]
    exact or_iff_right different
  refine ⟨fun _ => rfl, shifted, fun length same => ?_, fun noneLeft noneRight same => ?_,
    fun manifest same => ?_⟩
  · obtain shifts | shifts := shifted.1 same
    · exact Nat.ne_of_lt shifts.length_tool_lt length
    · exact Nat.ne_of_gt shifts.length_tool_lt length
  · obtain shifts | shifts := shifted.1 same
    · exact noneLeft shifts.suffix
    · exact noneRight shifts.suffix
  · obtain shifts | shifts := shifted.1 same
    · exact shifts.manifest_ne manifest
    · exact shifts.manifest_ne manifest.symm

/-- Of two versions, the second ends in the first, and the manifests differ only in a blank. -/
theorem keyInput_separates_suffix :
    keyInput ⟨Text.utf8 "m ", .json, "0.1.0"⟩ ≠ keyInput ⟨Text.utf8 "m", .json, "10.1.0"⟩ := by
  have different : (⟨Text.utf8 "m ", .json, "0.1.0"⟩ : Origin) ≠ ⟨Text.utf8 "m", .json, "10.1.0"⟩ := by
    decide
  obtain ⟨-, shifted, -⟩ := keyInput_separates different
  intro same
  obtain ⟨gap, -, tools, fronts⟩ | shifts := shifted.1 same
  · have one : gap = Text.utf8 "1" := List.append_cancel_right tools.symm
    subst one
    revert fronts
    decide
  · exact absurd shifts.length_tool_lt (by decide)

def wholeOrigin : Origin :=
  ⟨Text.utf8 "\x7b\"atoms\": [\x7b\"ident\": \"json\", \"string\": \"x\"\x7d]\x7d", .json, "0.1.0"⟩

/-- An origin whose tool version begins inside of the manifest of the other. -/
def shiftedOrigin : Origin :=
  ⟨Text.utf8 "\x7b\"atoms\": [\x7b\"ident\": \"", .json, "\", \"string\": \"x\"\x7d]\x7djson0.1.0"⟩

/-- Two origins that share nothing but the format, and whose bytes and keys are the same. -/
theorem keyInput_shifted :
    shiftedOrigin ≠ wholeOrigin ∧ shiftedOrigin.keyInput = wholeOrigin.keyInput ∧
      key shiftedOrigin.manifest shiftedOrigin.format shiftedOrigin.tool =
        key wholeOrigin.manifest wholeOrigin.format wholeOrigin.tool := by
  have same : shiftedOrigin.keyInput = wholeOrigin.keyInput := by decide
  exact ⟨by decide, same, congrArg Sha256.digest same⟩

end Origin

end StaticAtoms.Cache
