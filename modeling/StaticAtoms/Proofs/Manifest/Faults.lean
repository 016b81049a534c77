import Mathlib.Computability.RegularExpressions
import StaticAtoms.Proofs.Manifest.Validity
import StaticAtoms.Proofs.Text.Utf16

/-!
# The faults of a manifest

`Declaration.faults` lists what is wrong with a declaration, looking at nothing but the declarations in
front of it, and `Manifest.faults` puts these lists one behind the other.  Validating goes through the
declarations once and remembers what it needs in a set and a map, whose entries are overwritten and put
back; `Manifest.problems_tell_faults` is the main statement, that it tells exactly these faults.

* `isIdent_iff` compares the rules for identifiers with a regular expression.
* `Seen.Records.problems_eq_faults` is about one declaration, and `Seen.Records.problemsOf_eq_faults`
  about any number of them.
-/

namespace StaticAtoms

/-! ## Identifiers -/

/-- The expression that is matched by single characters out of a list. -/
def oneOf (letters : List Char) : RegularExpression Char :=
  letters.foldr (fun letter others => .char letter + others) 0

/-- The characters from one to another. -/
def span (first last : Char) : List Char :=
  (List.range' first.toNat (last.toNat + 1 - first.toNat)).map Char.ofNat

/-- The class `[A-Za-z_]`. -/
def identStarts : List Char :=
  span 'A' 'Z' ++ span 'a' 'z' ++ ['_']

/-- The class `[A-Za-z0-9_]`. -/
def identRests : List Char :=
  identStarts ++ span '0' '9'

/-- The expression `[A-Za-z_][A-Za-z0-9_]*`. -/
def identExpression : RegularExpression Char :=
  oneOf identStarts * (oneOf identRests).star

theorem mem_oneOf_iff {letters chars : List Char} :
    chars ∈ (oneOf letters).matches' ↔ ∃ letter ∈ letters, chars = [letter] := by
  induction letters with
  | nil => simp [oneOf, RegularExpression.matches'_zero]
  | cons letter letters ih =>
    have either : chars ∈ (oneOf (letter :: letters)).matches' ↔
        chars = [letter] ∨ chars ∈ (oneOf letters).matches' := Iff.rfl
    rw [either, ih]
    simp

theorem mem_star_oneOf_iff {letters chars : List Char} :
    chars ∈ (oneOf letters).star.matches' ↔ ∀ c ∈ chars, c ∈ letters := by
  rw [RegularExpression.matches'_star, Language.mem_kstar]
  constructor
  · rintro ⟨parts, rfl, single⟩ c member
    obtain ⟨part, listed, inside⟩ := List.mem_flatten.1 member
    obtain ⟨letter, known, rfl⟩ := mem_oneOf_iff.1 (single part listed)
    rwa [List.mem_singleton.1 inside]
  · intro known
    refine ⟨chars.map fun c => [c], ?_, ?_⟩
    · rw [← List.flatMap_def, List.flatMap_singleton']
    · intro part listed
      obtain ⟨c, member, rfl⟩ := List.mem_map.1 listed
      exact mem_oneOf_iff.2 ⟨c, known c member, rfl⟩

theorem mem_span_iff {first last c : Char} (beforeSurrogates : last.toNat < 0xD800) :
    c ∈ span first last ↔ first ≤ c ∧ c ≤ last := by
  have order : first ≤ c ∧ c ≤ last ↔ first.toNat ≤ c.toNat ∧ c.toNat ≤ last.toNat := Iff.rfl
  rw [order, span, List.mem_map]
  simp only [List.mem_range'_1]
  constructor
  · rintro ⟨code, ⟨lower, upper⟩, rfl⟩
    rw [Utf16.toNat_ofNat_char (by omega)]
    omega
  · rintro ⟨lower, upper⟩
    exact ⟨c.toNat, ⟨lower, by omega⟩, Char.ofNat_toNat c⟩

theorem isIdentStart_iff {c : Char} : isIdentStart c ↔ c ∈ identStarts := by
  simp [isIdentStart, identStarts, mem_span_iff, or_assoc]

theorem isIdentRest_iff {c : Char} : isIdentRest c ↔ c ∈ identRests := by
  simp [isIdentRest, identRests, isIdentStart_iff, mem_span_iff]

/-- The rules for identifiers are those of the expression. -/
theorem isIdent_iff {text : String} : isIdent text ↔ text.toList ∈ identExpression.matches' := by
  rw [identExpression, RegularExpression.matches'_mul, Language.mem_mul, isIdent]
  simp only [mem_oneOf_iff, mem_star_oneOf_iff]
  cases text.toList with
  | nil => simp
  | cons first rest => simp [isIdentStart_iff, isIdentRest_iff]

/-! ## Faults -/

/-- What is wrong with a declaration behind the given ones: an identifier that breaks the rules, then an
identifier that was declared before, then a string that was declared before.  The first declaration of
that string is blamed. -/
def Declaration.faults (earlier : List Declaration) (declaration : Declaration) : List Problem :=
  (if declaration.ident.toList ∈ identExpression.matches' then []
    else [.invalidIdent declaration.ident]) ++
  (if declaration.ident ∈ earlier.map Declaration.ident then [.duplicateIdent declaration.ident]
    else []) ++
  match earlier.find? fun other => other.string = declaration.string with
  | some first => [.duplicateString declaration.ident declaration.string first.ident]
  | none => []

/-- The codes of the faults of a declaration. -/
theorem Declaration.codes_faults (earlier : List Declaration) (declaration : Declaration) :
    (declaration.faults earlier).map (fun problem => problem.code.text) =
      (if declaration.ident.toList ∈ identExpression.matches' then [] else ["E004"]) ++
      (if declaration.ident ∈ earlier.map Declaration.ident then ["E002"] else []) ++
      (if declaration.string ∈ earlier.map Declaration.string then ["E003"] else []) := by
  rw [faults, List.map_append, List.map_append, apply_ite (List.map _), apply_ite (List.map _)]
  congr 1
  cases found : earlier.find? fun other => other.string = declaration.string with
  | none =>
    have absent : declaration.string ∉ earlier.map Declaration.string := by
      intro member
      obtain ⟨other, listed, same⟩ := List.mem_map.1 member
      exact List.find?_eq_none.1 found other listed (decide_eq_true same)
    rw [if_neg absent]
    rfl
  | some first =>
    have present : declaration.string ∈ earlier.map Declaration.string := by
      have same := List.find?_some found
      rw [decide_eq_true_iff] at same
      exact List.mem_map.2 ⟨first, List.mem_of_find?_eq_some found, same⟩
    rw [if_pos present]
    rfl

/-- What is said of the faults of a declaration: the code, the message and the hint of each. -/
def Declaration.faultTexts (earlier : List Declaration) (declaration : Declaration) :
    List (String × String × Option String) :=
  let ident := declaration.ident
  (if ident.toList ∈ identExpression.matches' then []
    else [("E004", s!"`{ident}` is not a valid atom identifier",
      some "identifiers match [A-Za-z_][A-Za-z0-9_]*")]) ++
  (if ident ∈ earlier.map Declaration.ident then
    [("E002", s!"identifier `{ident}` is declared more than once", none)]
    else []) ++
  match earlier.find? fun other => other.string = declaration.string with
  | some first =>
      let string := Quoted.quote declaration.string
      [("E003", s!"string {string} of `{ident}` is already declared by `{first.ident}`",
        some "static atoms must have unique strings")]
  | none => []

/-- A code, a message and a hint. -/
def Problem.texts (problem : Problem) : String × String × Option String :=
  (problem.code.text, problem.message, problem.hint?)

theorem Declaration.texts_faults (earlier : List Declaration) (declaration : Declaration) :
    (declaration.faults earlier).map Problem.texts = declaration.faultTexts earlier := by
  rw [faults, faultTexts, List.map_append, List.map_append, apply_ite (List.map _),
    apply_ite (List.map _)]
  congr 1
  cases earlier.find? fun other => other.string = declaration.string <;> rfl

namespace Manifest

/-- The faults of all declarations, in order. -/
def faults (manifest : Manifest) : List Problem :=
  manifest.atoms.zipIdx.flatMap fun entry => entry.1.faults (manifest.atoms.take entry.2)

/-- What is said of the faults of all declarations, in order. -/
def faultTexts (manifest : Manifest) : List (String × String × Option String) :=
  manifest.atoms.zipIdx.flatMap fun entry => entry.1.faultTexts (manifest.atoms.take entry.2)

theorem texts_faults (manifest : Manifest) :
    manifest.faults.map Problem.texts = manifest.faultTexts := by
  rw [faults, faultTexts, List.map_flatMap]
  simp only [Declaration.texts_faults]

/-- Whether all identifiers match the expression, and neither an identifier nor a string is declared
twice. -/
structure Sound (manifest : Manifest) : Prop where
  grammar : ∀ declaration ∈ manifest.atoms, declaration.ident.toList ∈ identExpression.matches'
  idents : (manifest.atoms.map Declaration.ident).Nodup
  strings : (manifest.atoms.map Declaration.string).Nodup

theorem valid_iff_sound {manifest : Manifest} : manifest.Valid ↔ manifest.Sound := by
  constructor
  · rintro ⟨idents, apart⟩
    exact ⟨fun declaration member => isIdent_iff.1 (idents declaration member),
      List.pairwise_map.2 (apart.imp And.left), List.pairwise_map.2 (apart.imp And.right)⟩
  · rintro ⟨grammar, idents, strings⟩
    exact ⟨fun declaration member => isIdent_iff.2 (grammar declaration member),
      (List.pairwise_map.1 idents).and (List.pairwise_map.1 strings)⟩

namespace Seen

/-- What is remembered of the earlier declarations is enough to find the faults of the next one. -/
theorem Records.problems_eq_faults {seen : Seen} {earlier : List Declaration}
    (records : seen.Records earlier) (declaration : Declaration) :
    seen.problems declaration = declaration.faults earlier := by
  have valid : isIdent declaration.ident ↔
      declaration.ident.toList ∈ identExpression.matches' := isIdent_iff
  have repeated : declaration.ident ∈ seen.idents ↔
      declaration.ident ∈ earlier.map Declaration.ident := by
    rw [records.idents, List.mem_map]
  simp only [problems, Declaration.faults, valid, repeated, records.firsts]
  cases earlier.find? fun other => other.string = declaration.string <;> rfl

theorem Records.problemsOf_eq_faults {seen : Seen} {earlier : List Declaration}
    (records : seen.Records earlier) (declarations : List Declaration) :
    seen.problemsOf declarations =
      (declarations.zipIdx earlier.length).flatMap fun entry =>
        entry.1.faults ((earlier ++ declarations).take entry.2) := by
  -- By induction on the declarations, where `earlier` are those before.
  induction declarations generalizing seen earlier with
  | nil => rfl
  | cons declaration rest ih =>
    have front : (earlier ++ declaration :: rest).take earlier.length = earlier := List.take_left
    have behind := ih (records.add declaration)
    rw [List.length_append, List.length_singleton, List.append_assoc, List.singleton_append] at behind
    rw [problemsOf, records.problems_eq_faults, behind, List.zipIdx_cons, List.flatMap_cons, front]

end Seen

theorem problems_eq_faults (manifest : Manifest) : manifest.problems = manifest.faults :=
  Seen.records_none.problemsOf_eq_faults _

theorem problems_eq_nil_iff_sound {manifest : Manifest} :
    manifest.problems = [] ↔ manifest.Sound :=
  problems_eq_nil_iff.trans valid_iff_sound

/-- Validating tells the faults of all declarations in order, each against the first declaration, which
the message names. -/
theorem problems_tell_faults (manifest : Manifest) :
    manifest.problems = manifest.faults ∧
    manifest.problems.map (fun problem => (problem.code.text, problem.message, problem.hint?)) =
      manifest.faultTexts ∧
    (∀ earlier declaration,
      (Declaration.faults earlier declaration).map (fun problem => problem.code.text) =
        (if declaration.ident.toList ∈ identExpression.matches' then [] else ["E004"]) ++
        (if declaration.ident ∈ earlier.map Declaration.ident then ["E002"] else []) ++
        (if declaration.string ∈ earlier.map Declaration.string then ["E003"] else [])) ∧
    (manifest.problems = [] ↔ manifest.Sound) ∧
    ((∃ atoms, manifest.compile = .ok atoms) ↔ manifest.Sound) ∧
    ∀ problems, manifest.compile = .error problems ↔
      ¬ manifest.Sound ∧ problems = manifest.faults := by
  have told := manifest.problems_eq_faults
  refine ⟨told, ?_, Declaration.codes_faults, problems_eq_nil_iff_sound, ?_, fun problems => ?_⟩
  · rw [told]
    exact manifest.texts_faults
  · simp only [compile_eq_ok_iff, valid_iff_sound, exists_and_left, exists_eq, and_true]
  · rw [compile_eq_error_iff, ne_eq, problems_eq_nil_iff_sound, told]

example : (⟨[⟨"first", "s"⟩, ⟨"second", "s"⟩, ⟨"3rd", "s"⟩]⟩ : Manifest).problems =
    [.duplicateString "second" "s" "first", .invalidIdent "3rd",
      .duplicateString "3rd" "s" "first"] := by
  rfl

end Manifest

end StaticAtoms
