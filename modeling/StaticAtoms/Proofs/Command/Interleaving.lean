import Mathlib.Data.List.Nodup
import StaticAtoms.Proofs.Command.Stores

/-!
# Flags anywhere on a command line

A command line is put together from pieces, which are positional arguments and flags with their values,
and from switches, which are the flags without a value.  The pieces can be interleaved in any way, and
switches can stand between any two arguments: `Interleaved` and `Sprinkled`.

* `Options.takeValue_spell` is about one flag with a value: what is taken out of the pieces, and what
  is left of them.
* `Options.ofArguments_of_sprinkled` goes through the three of them, behind the switches.
* `flags_anywhere` is the main statement.
-/

namespace StaticAtoms

/-! ## Pieces -/

/-- The flags with a value. -/
inductive ValueFlag where
  | format
  | out
  | cacheDir
deriving DecidableEq

/-- How a flag is spelled. -/
def ValueFlag.name : ValueFlag → String
  | format => "--format"
  | out => "--out"
  | cacheDir => "--cache-dir"

/-- A part of a command line that stands together: an argument of its own, or a flag and its value. -/
inductive Piece where
  | plain (argument : String)
  | valued (flag : ValueFlag) (value : String)

namespace Piece

/-- The arguments of a piece. -/
def arguments : Piece → List String
  | plain argument => [argument]
  | valued flag value => [flag.name, value]

/-- The argument of a piece, or the value of its flag. -/
def text : Piece → String
  | plain argument => argument
  | valued _ value => value

/-- The argument of a piece that is no flag with a value. -/
def plain? : Piece → Option String
  | plain argument => some argument
  | valued _ _ => none

/-- The flag and the value of a piece. -/
def valued? : Piece → Option (ValueFlag × String)
  | plain _ => none
  | valued flag value => some (flag, value)

/-- The flags with values behind the positional arguments. -/
def last (positionals : List String) (valued : List (ValueFlag × String)) : List Piece :=
  positionals.map plain ++ valued.map fun given => .valued given.1 given.2

end Piece

/-- The arguments of pieces, one piece after another. -/
def spell (pieces : List Piece) : List String :=
  pieces.flatMap Piece.arguments

/-- Whether pieces are positional arguments, in their order, and flags with values, in any order. -/
structure Interleaved (positionals : List String) (valued : List (ValueFlag × String))
    (pieces : List Piece) : Prop where
  positionals : pieces.filterMap Piece.plain? = positionals
  valued : (pieces.filterMap Piece.valued?).Perm valued

/-- Whether a command line is another one with switches inserted, anywhere between its arguments. -/
inductive Sprinkled : (switches line arguments : List String) → Prop
  | done : Sprinkled [] [] []
  | argument {switches line arguments : List String} (argument : String)
      (others : Sprinkled switches line arguments) :
      Sprinkled switches (argument :: line) (argument :: arguments)
  | switch {switches line arguments : List String} {switch : String}
      (known : switch ∈ Options.switches) (others : Sprinkled switches line arguments) :
      Sprinkled (switch :: switches) line (switch :: arguments)

/-- A piece that does not belong on a command line with given flags: an argument that looks like a flag
and is none, or a flag that is given already. -/
inductive Piece.Stray (valued : List (ValueFlag × String)) : Piece → Prop
  | unknown {argument : String} (dashed : argument.startsWith "--")
      (noSwitch : argument ∉ Options.switches) (noFlag : ∀ flag : ValueFlag, argument ≠ flag.name)
      (noHelp : argument ≠ "--help") : Stray valued (.plain argument)
  | again {flag : ValueFlag} {value : String} (given : flag ∈ valued.map Prod.fst)
      (undashed : value.startsWith "--" = false) : Stray valued (.valued flag value)

theorem ValueFlag.name_injective {flag other : ValueFlag} (same : flag.name = other.name) :
    flag = other := by
  revert same
  cases flag <;> cases other <;> decide

theorem ValueFlag.isFlag_name (flag : ValueFlag) : Options.isFlag flag.name := by
  cases flag <;> decide +kernel

theorem ValueFlag.startsWith_name (flag : ValueFlag) : flag.name.startsWith "--" := by
  cases flag <;> decide +kernel

theorem ValueFlag.name_notMem_switches (flag : ValueFlag) : flag.name ∉ Options.switches := by
  cases flag <;> decide

/-! ## Switches -/

namespace Sprinkled

variable {switches line arguments : List String}

/-- Without switches, the line is what it was before. -/
theorem filter_eq (sprinkled : Sprinkled switches line arguments)
    (free : ∀ argument ∈ line, argument ∉ Options.switches) :
    (arguments.filter fun argument => argument ∉ Options.switches) = line := by
  induction sprinkled with
  | done => rfl
  | argument argument others ih =>
    rw [List.forall_mem_cons] at free
    rw [List.filter_cons_of_pos (by simpa using free.1), ih free.2]
  | switch known others ih =>
    rw [List.filter_cons_of_neg (by simpa using known), ih free]

theorem mem_iff (sprinkled : Sprinkled switches line arguments) {argument : String} :
    argument ∈ arguments ↔ argument ∈ switches ∨ argument ∈ line := by
  induction sprinkled with
  | done => simp
  | argument other others ih => simp only [List.mem_cons, ih, or_left_comm]
  | switch known others ih => simp only [List.mem_cons, ih, or_assoc]

/-- Switches can stand behind everything else. -/
theorem append (line : List String) {switches : List String}
    (known : ∀ switch ∈ switches, switch ∈ Options.switches) :
    Sprinkled switches line (line ++ switches) := by
  induction line with
  | nil =>
    induction switches with
    | nil => exact .done
    | cons switch switches ih =>
      rw [List.forall_mem_cons] at known
      exact .switch known.1 (ih known.2)
  | cons argument line ih => exact .argument argument ih

theorem known (sprinkled : Sprinkled switches line arguments) :
    ∀ switch ∈ switches, switch ∈ Options.switches := by
  induction sprinkled with
  | done => simp
  | argument argument others ih => exact ih
  | switch known others ih => exact List.forall_mem_cons.2 ⟨known, ih⟩

end Sprinkled

/-! ## Flags with values -/

namespace Piece

/-- The value of a flag where it is given first. -/
def valueIn (flag : ValueFlag) (pieces : List Piece) : Option String :=
  (pieces.filterMap valued?).lookup flag

/-- Whether a piece gives a value to a flag. -/
def gives (flag : ValueFlag) : Piece → Bool
  | plain _ => false
  | valued other _ => other = flag

/-- Whether the argument of a piece, or its value, is spelled like no known flag. -/
structure Quiet (piece : Piece) : Prop where
  noFlag : ∀ flag : ValueFlag, piece.text ≠ flag.name
  noSwitch : piece.text ∉ Options.switches

/-- The pieces that are left when each flag with a value was taken out once. -/
def leftover (pieces : List Piece) : List Piece :=
  ((pieces.eraseP (gives .format)).eraseP (gives .out)).eraseP (gives .cacheDir)

theorem free_of_quiet {pieces : List Piece} (quiet : ∀ piece ∈ pieces, piece.Quiet) :
    ∀ argument ∈ spell pieces, argument ∉ Options.switches := by
  intro argument member
  obtain ⟨piece, present, own⟩ := List.mem_flatMap.1 member
  have noSwitch := (quiet piece present).noSwitch
  cases piece with
  | plain argument =>
    obtain rfl := List.mem_singleton.1 own
    exact noSwitch
  | valued flag value =>
    obtain rfl | own := List.mem_cons.1 own
    · exact flag.name_notMem_switches
    · obtain rfl := List.mem_singleton.1 own
      exact noSwitch

theorem filterMap_plain?_eraseP (flag : ValueFlag) (pieces : List Piece) :
    (pieces.eraseP (gives flag)).filterMap plain? = pieces.filterMap plain? := by
  induction pieces with
  | nil => rfl
  | cons piece pieces ih =>
    cases piece with
    | plain argument =>
      rw [List.eraseP_cons_of_neg (by simp [gives]), List.filterMap_cons, ih]
      rfl
    | valued other value =>
      by_cases same : other = flag
      · rw [List.eraseP_cons_of_pos (by simp [gives, same])]
        rfl
      · rw [List.eraseP_cons_of_neg (by simp [gives, same])]
        exact ih

theorem filterMap_valued?_eraseP (flag : ValueFlag) (pieces : List Piece) :
    (pieces.eraseP (gives flag)).filterMap valued? =
      (pieces.filterMap valued?).eraseP fun given => given.1 = flag := by
  induction pieces with
  | nil => rfl
  | cons piece pieces ih =>
    cases piece with
    | plain argument =>
      rw [List.eraseP_cons_of_neg (by simp [gives])]
      exact ih
    | valued other value =>
      by_cases same : other = flag
      · rw [List.eraseP_cons_of_pos (by simp [gives, same])]
        exact (List.eraseP_cons_of_pos (by simp [same])).symm
      · rw [List.eraseP_cons_of_neg (by simp [gives, same])]
        exact (congrArg _ ih).trans (List.eraseP_cons_of_neg (by simp [same])).symm

theorem valueIn_eraseP {flag other : ValueFlag} (different : flag ≠ other) (pieces : List Piece) :
    valueIn flag (pieces.eraseP (gives other)) = valueIn flag pieces := by
  rw [valueIn, valueIn, filterMap_valued?_eraseP]
  induction pieces.filterMap valued? with
  | nil => rfl
  | cons given others ih =>
    by_cases same : given.1 = other
    · have passed : (flag == given.1) = false := by simp [same, different]
      rw [List.eraseP_cons_of_pos (by simp [same]), List.lookup_cons, passed]
    · rw [List.eraseP_cons_of_neg (by simp [same]), List.lookup_cons, List.lookup_cons, ih]

end Piece

namespace Options

theorem takeValue_of_ne {flag argument : String} (different : argument ≠ flag) (rest : List String) :
    takeValue flag (argument :: rest) =
      (takeValue flag rest).map fun taken => (taken.1, argument :: taken.2) := by
  rw [takeValue.eq_def]
  simp only [different, ↓reduceIte]
  cases takeValue flag rest <;> rfl

theorem takeValue_self (flag value : String) (rest : List String) :
    takeValue flag (flag :: value :: rest) = .ok (some value, rest) := by
  rw [takeValue.eq_def]
  simp only [↓reduceIte]

/-- The first occurrence of a flag is taken out with its value, wherever it stands. -/
theorem takeValue_spell (flag : ValueFlag) {pieces : List Piece}
    (quiet : ∀ piece ∈ pieces, piece.Quiet) :
    takeValue flag.name (spell pieces) =
      .ok (Piece.valueIn flag pieces, spell (pieces.eraseP (Piece.gives flag))) := by
  induction pieces with
  | nil => rfl
  | cons piece pieces ih =>
    rw [List.forall_mem_cons] at quiet
    have others := ih quiet.2
    cases piece with
    | plain argument =>
      rw [List.eraseP_cons_of_neg (by simp [Piece.gives])]
      have own : argument ≠ flag.name := quiet.1.noFlag flag
      simp only [spell, List.flatMap_cons, Piece.arguments, List.singleton_append] at others ⊢
      rw [takeValue_of_ne own, others]
      rfl
    | valued other value =>
      simp only [spell, List.flatMap_cons, Piece.arguments, List.cons_append,
        List.nil_append] at others ⊢
      by_cases same : other = flag
      · subst same
        rw [List.eraseP_cons_of_pos (by simp [Piece.gives]), takeValue_self]
        simp [Piece.valueIn, Piece.valued?]
      · have named : other.name ≠ flag.name := mt ValueFlag.name_injective same
        have own : value ≠ flag.name := quiet.1.noFlag flag
        have passed : (flag == other) = false := by simpa using Ne.symm same
        rw [List.eraseP_cons_of_neg (by simp [Piece.gives, same]), takeValue_of_ne named,
          takeValue_of_ne own, others]
        simp [Except.map, Piece.valueIn, Piece.valued?, Piece.arguments, List.lookup_cons, passed]

/-- The options for given switches, flags with values, and a format. -/
def given (switches : List String) (valued : List (ValueFlag × String)) (format : OutputFormat) :
    Options where
  verbose := "--verbose" ∈ switches
  noCache := "--no-cache" ∈ switches
  codePoints := "--code-points" ∈ switches
  format
  out := valued.lookup .out
  cacheDir := (valued.lookup .cacheDir).getD defaultCacheDir

/-- What is made of interleaved pieces and switches: each flag takes its first value, and what is left
must not look like a flag. -/
theorem ofArguments_of_sprinkled {switches arguments : List String} {pieces : List Piece}
    (quiet : ∀ piece ∈ pieces, piece.Quiet)
    (sprinkled : Sprinkled switches (spell pieces) arguments) :
    ofArguments arguments =
      (formatOf (Piece.valueIn .format pieces)).bind fun format =>
        match (spell (Piece.leftover pieces)).find? isFlag with
        | some flag => .error (.unknownFlag flag)
        | none => .ok (given switches (pieces.filterMap Piece.valued?) format,
            spell (Piece.leftover pieces)) := by
  have free := Piece.free_of_quiet quiet
  have shown (switch : String) (known : switch ∈ Options.switches) :
      decide (switch ∈ arguments) = decide (switch ∈ switches) := by
    refine decide_eq_decide.2 (sprinkled.mem_iff.trans (or_iff_left ?_))
    exact fun member => free switch member known
  have quietBehind (flag : ValueFlag) {pieces : List Piece} (quiet : ∀ piece ∈ pieces, piece.Quiet) :
      ∀ piece ∈ pieces.eraseP (Piece.gives flag), piece.Quiet :=
    fun piece member => quiet piece (List.mem_of_mem_eraseP member)
  have format := takeValue_spell .format quiet
  have out := takeValue_spell .out (quietBehind .format quiet)
  have cacheDir := takeValue_spell .cacheDir (quietBehind .out (quietBehind .format quiet))
  simp only [ValueFlag.name] at format out cacheDir
  simp only [ofArguments, sprinkled.filter_eq free, format, bind, Except.bind]
  cases formatOf (Piece.valueIn .format pieces) with
  | error wrong => rfl
  | ok format =>
    simp only [out, cacheDir]
    have left : ((pieces.eraseP (Piece.gives .format)).eraseP (Piece.gives .out)).eraseP
      (Piece.gives .cacheDir) = Piece.leftover pieces := rfl
    rw [left]
    cases (spell (Piece.leftover pieces)).find? isFlag with
    | some flag => rfl
    | none =>
      rw [Piece.valueIn_eraseP (by decide), Piece.valueIn_eraseP (by decide),
        Piece.valueIn_eraseP (by decide), shown _ (by decide), shown _ (by decide),
        shown _ (by decide)]
      rfl

end Options

/-! ## What is left -/

namespace Piece

/-- The flags with values, in the order of the pieces. -/
def flags (pieces : List Piece) : List ValueFlag :=
  (pieces.filterMap valued?).map Prod.fst

theorem flags_eraseP (flag : ValueFlag) (pieces : List Piece) :
    flags (pieces.eraseP (gives flag)) = (flags pieces).erase flag := by
  rw [flags, flags, filterMap_valued?_eraseP, List.erase_eq_eraseP, List.eraseP_map]
  congr 2
  funext given
  exact decide_eq_decide.2 eq_comm

/-- Of the flags, each is left once less than it is given. -/
theorem count_flags_leftover (pieces : List Piece) (flag : ValueFlag) :
    (flags (leftover pieces)).count flag = (flags pieces).count flag - 1 := by
  rw [leftover, flags_eraseP, flags_eraseP, flags_eraseP, List.count_erase, List.count_erase,
    List.count_erase]
  cases flag <;> simp

theorem filterMap_plain?_leftover (pieces : List Piece) :
    (leftover pieces).filterMap plain? = pieces.filterMap plain? := by
  rw [leftover, filterMap_plain?_eraseP, filterMap_plain?_eraseP, filterMap_plain?_eraseP]

theorem name_mem_spell {flag : ValueFlag} {pieces : List Piece} (given : flag ∈ flags pieces) :
    flag.name ∈ spell pieces := by
  obtain ⟨⟨_, value⟩, member, rfl⟩ := List.mem_map.1 given
  obtain ⟨piece, member, same⟩ := List.mem_filterMap.1 member
  refine List.mem_flatMap.2 ⟨piece, member, ?_⟩
  cases piece with
  | plain argument => cases same
  | valued other value =>
    cases same
    exact List.mem_cons_self

theorem plain_mem_spell {argument : String} {pieces : List Piece}
    (member : argument ∈ pieces.filterMap plain?) : argument ∈ spell pieces := by
  obtain ⟨piece, member, same⟩ := List.mem_filterMap.1 member
  refine List.mem_flatMap.2 ⟨piece, member, ?_⟩
  cases piece with
  | plain other =>
    cases same
    exact List.mem_singleton_self _
  | valued flag value => cases same

/-- Pieces without flags are their arguments. -/
theorem spell_of_flags_eq_nil {pieces : List Piece} (none : flags pieces = []) :
    spell pieces = pieces.filterMap plain? := by
  induction pieces with
  | nil => rfl
  | cons piece pieces ih =>
    cases piece with
    | plain argument => exact congrArg (argument :: ·) (ih none)
    | valued flag value => cases none

theorem spell_leftover {pieces : List Piece} (distinct : (flags pieces).Nodup) :
    spell (leftover pieces) = pieces.filterMap plain? := by
  rw [spell_of_flags_eq_nil, filterMap_plain?_leftover]
  refine List.eq_nil_iff_forall_not_mem.2 fun flag member => ?_
  have once := List.nodup_iff_count_le_one.1 distinct flag
  have left := List.count_pos_iff.2 member
  rw [count_flags_leftover] at left
  omega

end Piece

/-! ## Command lines -/

section Undashed

variable {text : String}

theorem Options.isFlag_of_undashed (undashed : text.startsWith "--" = false) :
    Options.isFlag text = false := by
  rw [isFlag, undashed, Bool.false_and]

theorem ValueFlag.ne_name_of_undashed (undashed : text.startsWith "--" = false)
    (flag : ValueFlag) : text ≠ flag.name := by
  rintro rfl
  rw [flag.startsWith_name] at undashed
  cases undashed

theorem Options.notMem_switches_of_undashed (undashed : text.startsWith "--" = false) :
    text ∉ switches := by
  have dashed : ∀ switch ∈ switches, switch.startsWith "--" := by decide +kernel
  intro member
  rw [dashed text member] at undashed
  cases undashed

theorem Piece.quiet_of_undashed {piece : Piece} (undashed : piece.text.startsWith "--" = false) :
    piece.Quiet where
  noFlag := ValueFlag.ne_name_of_undashed undashed
  noSwitch := Options.notMem_switches_of_undashed undashed

end Undashed

theorem Piece.Stray.quiet {valued : List (ValueFlag × String)} {piece : Piece}
    (stray : piece.Stray valued) : piece.Quiet := by
  cases stray with
  | unknown dashed noSwitch noFlag noHelp => exact ⟨noFlag, noSwitch⟩
  | again given undashed => exact Piece.quiet_of_undashed undashed

/-- Where no key stands twice, the order of the keys does not matter. -/
theorem lookup_perm {valued others : List (ValueFlag × String)} (perm : valued.Perm others)
    (distinct : (valued.map Prod.fst).Nodup) (flag : ValueFlag) :
    valued.lookup flag = others.lookup flag := by
  induction perm with
  | nil => rfl
  | cons given perm ih =>
    rw [List.map_cons, List.nodup_cons] at distinct
    rw [List.lookup_cons, List.lookup_cons, ih distinct.2]
  | swap first second rest =>
    have different : second.1 ≠ first.1 := by
      rw [List.map_cons, List.map_cons, List.nodup_cons] at distinct
      exact fun same => distinct.1 (same ▸ List.mem_cons_self)
    rw [List.lookup_cons, List.lookup_cons, List.lookup_cons, List.lookup_cons]
    by_cases isFirst : flag = first.1
    · have passed : (flag == second.1) = false := by simpa [isFirst] using different.symm
      rw [passed]
    · have passed : (flag == first.1) = false := by simpa using isFirst
      rw [passed]
  | trans perm others ih ihOthers =>
    exact (ih distinct).trans (ihOthers ((perm.map Prod.fst).nodup_iff.1 distinct))

namespace Interleaved

variable {positionals : List String} {valued : List (ValueFlag × String)} {pieces : List Piece}

theorem flags_perm (interleaved : Interleaved positionals valued pieces) :
    (Piece.flags pieces).Perm (valued.map Prod.fst) :=
  interleaved.valued.map Prod.fst

theorem quiet (interleaved : Interleaved positionals valued pieces)
    (undashed : ∀ text ∈ positionals ++ valued.map Prod.snd, text.startsWith "--" = false) :
    ∀ piece ∈ pieces, piece.Quiet := by
  intro piece member
  refine Piece.quiet_of_undashed (undashed _ (List.mem_append.2 ?_))
  cases piece with
  | plain argument =>
    rw [← interleaved.positionals]
    exact .inl (List.mem_filterMap.2 ⟨_, member, rfl⟩)
  | valued flag value =>
    have given := interleaved.valued.mem_iff.1 (List.mem_filterMap.2 ⟨_, member, rfl⟩)
    exact .inr (List.mem_map.2 ⟨(flag, value), given, rfl⟩)

theorem last (positionals : List String) (valued : List (ValueFlag × String)) :
    Interleaved positionals valued (Piece.last positionals valued) where
  positionals := by simp [Piece.last, Function.comp_def, Piece.plain?, List.filterMap_map]
  valued := by simp [Piece.last, Function.comp_def, Piece.valued?, List.filterMap_map]

/-- The value of a flag does not depend on the order in which different flags are given. -/
theorem lookup_eq (interleaved : Interleaved positionals valued pieces)
    (distinct : (valued.map Prod.fst).Nodup) (flag : ValueFlag) :
    Piece.valueIn flag pieces = valued.lookup flag :=
  (lookup_perm interleaved.valued.symm distinct flag).symm

end Interleaved

/-! ## Command lines that are refused -/

/-- Whether a command line is refused before anything is done: whatever the files are and whatever
touching them does, the run only fails, and prints nothing. -/
def Refused (arguments : List String) : Prop :=
  ∃ outcome : Outcome, outcome.status = 1 ∧ outcome.standardOutput = "" ∧
    ∀ (m : Type → Type) [Monad m] [MonadFiles m], (run arguments : m Outcome) = pure outcome

theorem refused_of_error {arguments : List String} {wrong : UsageError}
    (error : Options.ofArguments arguments = .error wrong)
    (other : ∀ name, wrong ≠ .unknownCommand name) : Refused arguments := by
  have told : misused wrong = .complain wrong.lines := by
    cases wrong with
    | unknownCommand name => exact absurd rfl (other name)
    | _ => rfl
  have misunderstood : understand arguments = .error wrong := by
    rw [understand, error]
    rfl
  refine ⟨.complain wrong.lines, rfl, Outcome.standardOutput_complain _, fun m _ _ => ?_⟩
  rw [run, misunderstood]
  exact congrArg pure told

theorem Options.unknownFormat_of_formatOf_eq_error {name : Option String} {wrong : UsageError}
    (error : formatOf name = .error wrong) : ∃ text, wrong = .unknownFormat text := by
  cases name with
  | none => cases error
  | some text =>
    rw [formatOf] at error
    split at error
    · cases error
    · exact ⟨text, (Except.error.inj error).symm⟩

/-- If something that looks like a flag is left, the command line is refused. -/
theorem refused_of_leftover {switches arguments : List String} {pieces : List Piece}
    (quiet : ∀ piece ∈ pieces, piece.Quiet)
    (sprinkled : Sprinkled switches (spell pieces) arguments) {argument : String}
    (left : argument ∈ spell (Piece.leftover pieces)) (flag : Options.isFlag argument) :
    Refused arguments := by
  have read := Options.ofArguments_of_sprinkled quiet sprinkled
  cases known : Options.formatOf (Piece.valueIn .format pieces) with
  | error wrong =>
    obtain ⟨text, rfl⟩ := Options.unknownFormat_of_formatOf_eq_error known
    rw [known] at read
    exact refused_of_error read (by simp)
  | ok format =>
    cases found : (spell (Piece.leftover pieces)).find? Options.isFlag with
    | none => exact absurd flag (List.find?_eq_none.1 found argument left)
    | some first =>
      rw [known, found] at read
      exact refused_of_error read (by simp)

/-- A stray piece leaves something that looks like a flag: itself, or the second of two copies. -/
theorem Piece.Stray.exists_leftover {valued : List (ValueFlag × String)} {extra : Piece}
    (stray : extra.Stray valued) {before after : List Piece}
    (given : (flags (before ++ after)).Perm (valued.map Prod.fst)) :
    ∃ argument ∈ spell (leftover (before ++ extra :: after)), Options.isFlag argument := by
  cases stray with
  | @unknown argument dashed noSwitch noFlag noHelp =>
    refine ⟨argument, plain_mem_spell ?_, by simp [Options.isFlag, dashed, noHelp]⟩
    rw [filterMap_plain?_leftover]
    exact List.mem_filterMap.2 ⟨.plain argument, by simp, rfl⟩
  | @again flag value given' undashed =>
    refine ⟨flag.name, name_mem_spell (List.count_pos_iff.1 ?_), flag.isFlag_name⟩
    have once : 0 < (flags (before ++ after)).count flag :=
      List.count_pos_iff.2 (given.mem_iff.2 given')
    have twice : (flags (before ++ .valued flag value :: after)).count flag =
        (flags (before ++ after)).count flag + 1 := by
      simp [flags, valued?, List.count_append, Nat.add_assoc]
    rw [count_flags_leftover, twice]
    omega

/-! ## All flags behind the rest -/

/-- The command line with all flags behind the positional arguments, first those with a value. -/
def flagsLast (positionals : List String) (valued : List (ValueFlag × String))
    (switches : List String) : List String :=
  positionals ++ valued.flatMap (fun given => [given.1.name, given.2]) ++ switches

theorem sprinkled_flagsLast (positionals : List String) (valued : List (ValueFlag × String))
    {switches : List String} (known : ∀ switch ∈ switches, switch ∈ Options.switches) :
    Sprinkled switches (spell (Piece.last positionals valued))
      (flagsLast positionals valued switches) := by
  have line : spell (Piece.last positionals valued) =
      positionals ++ valued.flatMap fun given => [given.1.name, given.2] := by
    simp [Piece.last, spell, Piece.arguments, List.flatMap_map]
  rw [flagsLast, ← line]
  exact Sprinkled.append _ known

/-- What is made of a command line on which each flag with a value is given at most once. -/
theorem Options.ofArguments_of_interleaved {positionals switches arguments : List String}
    {valued : List (ValueFlag × String)} {pieces : List Piece}
    (distinct : (valued.map Prod.fst).Nodup)
    (undashed : ∀ text ∈ positionals ++ valued.map Prod.snd, text.startsWith "--" = false)
    (interleaved : Interleaved positionals valued pieces)
    (sprinkled : Sprinkled switches (spell pieces) arguments) :
    ofArguments arguments =
      (formatOf (valued.lookup .format)).map fun format =>
        (given switches valued format, positionals) := by
  have left : spell (Piece.leftover pieces) = positionals := by
    rw [Piece.spell_leftover (interleaved.flags_perm.nodup_iff.2 distinct),
      interleaved.positionals]
  have noFlag : positionals.find? isFlag = none := by
    refine List.find?_eq_none.2 fun text member => ?_
    simp [isFlag_of_undashed (undashed text (List.mem_append_left _ member))]
  have value := interleaved.lookup_eq distinct
  rw [ofArguments_of_sprinkled (interleaved.quiet undashed) sprinkled, left, noFlag, value .format]
  cases formatOf (valued.lookup .format) with
  | error wrong => rfl
  | ok format =>
    have same : given switches (pieces.filterMap Piece.valued?) format =
        given switches valued format := by
      have out := value .out
      have cacheDir := value .cacheDir
      rw [Piece.valueIn] at out cacheDir
      rw [given, given, out, cacheDir]
    exact congrArg (fun options => Except.ok (options, positionals)) same

/-- **Flags may stand anywhere.**  Take positional arguments and flags with values, each flag at most
once and nothing of it dashed but the flags, interleave them in any way and insert switches anywhere,
even between a flag and its value.  The options and the positional arguments are then the ones that
were given, and the run does what the run with all flags last does, in any monad with files and under
the same log filter.  One more argument that looks like a flag and is none, or a second copy of a flag
with its value, makes the run fail before it does anything, wherever it is inserted. -/
theorem flags_anywhere {positionals switches arguments : List String}
    {valued : List (ValueFlag × String)} {pieces : List Piece}
    (distinct : (valued.map Prod.fst).Nodup)
    (undashed : ∀ text ∈ positionals ++ valued.map Prod.snd, text.startsWith "--" = false)
    (interleaved : Interleaved positionals valued pieces)
    (sprinkled : Sprinkled switches (spell pieces) arguments) :
    (Options.ofArguments arguments =
      (Options.formatOf (valued.lookup .format)).map fun format =>
        (Options.given switches valued format, positionals)) ∧
    understand arguments = understand (flagsLast positionals valued switches) ∧
    (∀ (m : Type → Type) [Monad m] [MonadFiles m],
      (run arguments : m Outcome) = run (flagsLast positionals valued switches)) ∧
    (∀ setting, logFilter setting arguments =
      logFilter setting (flagsLast positionals valued switches)) ∧
    ∀ (before after : List Piece) (extra : Piece) (moreSwitches moreArguments : List String),
      pieces = before ++ after → extra.Stray valued →
      Sprinkled moreSwitches (spell (before ++ extra :: after)) moreArguments →
      Refused moreArguments := by
  have quiet := interleaved.quiet undashed
  have read := Options.ofArguments_of_interleaved distinct undashed interleaved sprinkled
  have sprinkledLast := sprinkled_flagsLast positionals valued sprinkled.known
  have readLast := Options.ofArguments_of_interleaved distinct undashed
    (Interleaved.last positionals valued) sprinkledLast
  have understood : understand arguments = understand (flagsLast positionals valued switches) := by
    rw [understand, understand, read, readLast]
  refine ⟨read, understood, fun m _ _ => ?_, fun setting => ?_, ?_⟩
  · rw [run, run, understood]
  · have verbose : "--verbose" ∈ arguments ↔ "--verbose" ∈ flagsLast positionals valued switches := by
      have free := Piece.free_of_quiet quiet
      have freeLast := Piece.free_of_quiet ((Interleaved.last positionals valued).quiet undashed)
      rw [sprinkled.mem_iff, sprinkledLast.mem_iff]
      exact or_congr_right (iff_of_false (fun member => free _ member (by decide))
        fun member => freeLast _ member (by decide))
    rw [logFilter, logFilter, decide_eq_decide.2 verbose]
  · intro before after extra moreSwitches moreArguments split stray moreSprinkled
    have more : ∀ piece ∈ before ++ extra :: after, piece.Quiet := by
      intro piece member
      obtain rfl | member := List.mem_cons.1 (List.perm_middle.mem_iff.1 member)
      · exact stray.quiet
      · exact quiet piece (split ▸ member)
    obtain ⟨argument, left, flag⟩ := stray.exists_leftover (split ▸ interleaved.flags_perm)
    exact refused_of_leftover more moreSprinkled left flag

/-- A command line with flags all over it, one of them parted from its value, and the same one with a
flag that is none. -/
theorem flags_anywhere_parted :
    let arguments := ["--out", "--verbose", "o.json", "gen", "--no-cache", "--format", "json",
      "atoms.json", "--verbose"]
    Options.ofArguments arguments =
      .ok (⟨true, true, false, .json, some "o.json", Options.defaultCacheDir⟩,
        ["gen", "atoms.json"]) ∧
    (run arguments : StateM Store Outcome) =
      run ["gen", "atoms.json", "--format", "json", "--out", "o.json",
        "--verbose", "--no-cache", "--verbose"] ∧
    Refused ["--out", "--verbose", "o.json", "gen", "--frob", "--format", "json", "atoms.json"] := by
  let valued : List (ValueFlag × String) := [(.format, "json"), (.out, "o.json")]
  have distinct : (valued.map Prod.fst).Nodup := by decide
  have undashed : ∀ text ∈ ["gen", "atoms.json"] ++ valued.map Prod.snd,
      text.startsWith "--" = false := by decide +kernel
  have interleaved : Interleaved ["gen", "atoms.json"] valued
      [.valued .out "o.json", .plain "gen", .valued .format "json", .plain "atoms.json"] :=
    ⟨rfl, .swap _ _ _⟩
  have sprinkled : Sprinkled ["--verbose", "--no-cache", "--verbose"]
      ["--out", "o.json", "gen", "--format", "json", "atoms.json"]
      ["--out", "--verbose", "o.json", "gen", "--no-cache", "--format", "json", "atoms.json",
        "--verbose"] :=
    .argument _ <| .switch (by decide) <| .argument _ <| .argument _ <| .switch (by decide) <|
      .argument _ <| .argument _ <| .argument _ <| .switch (by decide) .done
  have sprinkledMore : Sprinkled ["--verbose"]
      ["--out", "o.json", "gen", "--frob", "--format", "json", "atoms.json"]
      ["--out", "--verbose", "o.json", "gen", "--frob", "--format", "json", "atoms.json"] :=
    .argument _ <| .switch (by decide) <| .argument _ <| .argument _ <| .argument _ <|
      .argument _ <| .argument _ <| .argument _ .done
  have stray : Piece.Stray valued (.plain "--frob") :=
    .unknown (by decide +kernel) (by decide) (fun flag => by cases flag <;> decide) (by decide)
  obtain ⟨read, -, ran, -, refused⟩ := flags_anywhere distinct undashed interleaved sprinkled
  exact ⟨read, ran _, refused [.valued .out "o.json", .plain "gen"]
    [.valued .format "json", .plain "atoms.json"] _ _ _ rfl stray sprinkledMore⟩

end StaticAtoms
