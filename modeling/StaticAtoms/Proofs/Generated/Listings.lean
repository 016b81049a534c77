import StaticAtoms.Proofs.Generated.Literals
import StaticAtoms.Proofs.Manifest.Validity
import StaticAtoms.Proofs.Text.Lowercase

/-!
# Listings read back

`Listing.read` reads the lines of a listing one by one, as its consumer does: the identifier up to
the first comma, the literal up to the quote that closes it, and the three numbers.  What a manifest
compiles to is read back as its declarations, and the numbers of every line are those of the code
units that its literal denotes.

* `Listing.readLine_line` and `Listing.lines?_flatMap` are about one line and about all of them.
* `Listing.printable_line` says that nothing but printable ASCII is written into a line.

`Listing.read_render_of_compile` is the main statement.
-/

namespace StaticAtoms.Listing

/-! ## Reading -/

/-- An atom as its line tells it. -/
structure Row where
  ident : String
  string : String
  length : Nat
  hash : Nat
  lowercase : Bool
deriving DecidableEq

namespace Row

/-- What the line declares. -/
def declaration (row : Row) : Declaration :=
  ⟨row.ident, row.string⟩

/-- Whether the numbers of the line are those of the code units that the literal denotes. -/
structure Consistent (row : Row) : Prop where
  length : row.length = (Utf16.units row.string).length
  hash : row.hash = (Hash.ofUnits (Utf16.units row.string)).toNat
  lowercase : row.lowercase = isLowercaseUnits (Utf16.units row.string)

end Row

/-- A field, which ends in front of the first comma. -/
def field (s : List Char) : List Char :=
  s.takeWhile (· ≠ ',')

/-- What follows a field. -/
def afterField (s : List Char) : List Char :=
  s.dropWhile (· ≠ ',')

/-- What stands behind the given letters, if a text begins with them. -/
def behind? : (letters s : List Char) → Option (List Char)
  | [], s => some s
  | _ :: _, [] => none
  | letter :: letters, c :: s => if c = letter then behind? letters s else none

/-- The number that decimal digits denote. -/
def decimal? (digits : List Char) : Option Nat :=
  if digits ≠ [] ∧ digits.all Char.isDigit then some (Nat.ofDigitChars 10 digits 0) else none

/-- The flag in front of the closing parenthesis. -/
def flag? (s : List Char) : Option Bool :=
  if s = "true)".toList then some true
  else if s = "false)".toList then some false
  else none

/-- Reads the line of an atom. -/
def readLine (line : List Char) : Option Row := do
  let start ← behind? "STATIC_ATOM(".toList line
  let opened ← behind? ", u\"".toList (afterField start)
  let (string, closed) ← readLiteral opened
  let numbers ← behind? ", ".toList closed
  let length ← decimal? (field numbers)
  let digits ← behind? ", 0x".toList (afterField numbers)
  let hash ← Hex.value? (field digits)
  let last ← behind? ", ".toList (afterField digits)
  let lowercase ← flag? last
  return ⟨String.ofList (field start), String.ofList string, length, hash, lowercase⟩

/-- The lines of a text, all of which have to be ended by a line feed. -/
def lines? : List Char → Option (List (List Char))
  | [] => some []
  | c :: rest =>
      match lines? rest with
      | none => none
      | some lines =>
          if c = '\n' then some ([] :: lines)
          else
            match lines with
            | [] => none
            | line :: lines => some ((c :: line) :: lines)

/-- Reads the lines behind the three comments. -/
def read (text : String) : Option (List Row) :=
  match lines? text.toList with
  | none => none
  | some lines => (lines.drop 3).mapM readLine

/-! ## One line -/

/-- What the line of an atom tells. -/
def row (atom : StaticAtom) : Row :=
  ⟨atom.ident, atom.string, Utf16.length atom.string, atom.hash.toNat, atom.lowercase⟩

theorem field_append {s : List Char} (noComma : ',' ∉ s) (rest : List Char) :
    field (s ++ ',' :: rest) = s ∧ afterField (s ++ ',' :: rest) = ',' :: rest := by
  have inside : ∀ c ∈ s, (c ≠ ',' : Bool) := fun c member =>
    decide_eq_true fun same => noComma (same ▸ member)
  rw [field, afterField, List.takeWhile_append_of_pos inside, List.dropWhile_append_of_pos inside]
  simp

theorem decimal?_toDigits (value : Nat) : decimal? (Nat.toDigits 10 value) = some value := by
  have digits : (Nat.toDigits 10 value).all Char.isDigit :=
    List.all_eq_true.2 fun _ member => Nat.isDigit_of_mem_toDigits (by decide) (by decide) member
  rw [decimal?, if_pos ⟨Nat.toDigits_ne_nil, digits⟩, Nat.ofDigitChars_ten_toDigits]

theorem flag?_append (flag : Bool) :
    flag? ((if flag then "true" else "false").toList ++ [')']) = some flag := by
  cases flag <;> rfl

theorem bounds_of_range {first last c : Char} (range : first ≤ c ∧ c ≤ last) (low : ',' < first)
    (high : last ≤ '~') : (' ' ≤ c ∧ c ≤ '~') ∧ c ≠ ',' := by
  have above : ',' < c := UInt32.lt_of_lt_of_le low range.1
  refine ⟨⟨UInt32.le_trans (by decide) (UInt32.le_of_lt above), UInt32.le_trans range.2 high⟩, ?_⟩
  rintro rfl
  exact UInt32.lt_irrefl _ above

theorem bounds_of_mem_toDigits {value : Nat} {c : Char} (member : c ∈ Nat.toDigits 10 value) :
    (' ' ≤ c ∧ c ≤ '~') ∧ c ≠ ',' := by
  have digit : c.isDigit := Nat.isDigit_of_mem_toDigits (by decide) (by decide) member
  simp only [Char.isDigit, Bool.and_eq_true, decide_eq_true_eq] at digit
  exact bounds_of_range ⟨digit.1, digit.2⟩ (by decide) (by decide)

theorem noComma_toDigits (value : Nat) : ',' ∉ Nat.toDigits 10 value :=
  fun member => (bounds_of_mem_toDigits member).2 rfl

theorem noComma_fixed (width value : Nat) : ',' ∉ Hex.fixed width value := by
  have noComma : ∀ digit : Fin 16, ',' ≠ Nat.digitChar digit := by decide
  intro member
  obtain ⟨digit, same⟩ := Hex.exists_digit_of_mem_fixed member
  exact noComma digit same

theorem readLine_line {atom : StaticAtom} (noComma : ',' ∉ atom.ident.toList) :
    readLine (line atom) = some (row atom) := by
  have fits : atom.hash.toNat < Nat.pow 16 8 := atom.hash.toNat_lt
  unfold line
  simp [readLine, behind?, field_append noComma, readLiteral_literal,
    field_append (noComma_toDigits _), decimal?_toDigits, field_append (noComma_fixed _ _),
    Hex.value?_fixed fits, flag?_append, row]

/-! ## Printable lines -/

/-- Whether there are only visible characters of ASCII and spaces. -/
def Printable (s : List Char) : Prop :=
  ∀ c ∈ s, ' ' ≤ c ∧ c ≤ '~'

instance (s : List Char) : Decidable (Printable s) :=
  List.decidableBAll (fun c => ' ' ≤ c ∧ c ≤ '~') s

theorem printable_append {s t : List Char} :
    Printable (s ++ t) ↔ Printable s ∧ Printable t :=
  List.forall_mem_append

theorem printable_toDigits (value : Nat) : Printable (Nat.toDigits 10 value) :=
  fun _ member => (bounds_of_mem_toDigits member).1

theorem printable_fixed (width value : Nat) : Printable (Hex.fixed width value) := by
  have digits : ∀ digit : Fin 16, ' ' ≤ Nat.digitChar digit ∧ Nat.digitChar digit ≤ '~' := by decide
  intro c member
  obtain ⟨digit, rfl⟩ := Hex.exists_digit_of_mem_fixed member
  exact digits digit

theorem printable_fixedUpper (width value : Nat) : Printable (Hex.fixedUpper width value) := by
  have digits : ∀ digit : Fin 16,
      ' ' ≤ (Nat.digitChar digit).toUpper ∧ (Nat.digitChar digit).toUpper ≤ '~' := by decide
  intro c member
  obtain ⟨lower, written, rfl⟩ := List.mem_map.1 member
  obtain ⟨digit, rfl⟩ := Hex.exists_digit_of_mem_fixed written
  exact digits digit

theorem printable_spell (c : Char) : Printable (spell c) := by
  unfold spell
  split
  · decide
  · decide
  · split
    next visible =>
      intro d member
      obtain rfl := List.mem_singleton.1 member
      exact visible
    next =>
      have name (letter : Char) (visible : ' ' ≤ letter ∧ letter ≤ '~') : Printable ['\\', letter] :=
        List.forall_mem_cons.2 ⟨by decide, List.forall_mem_singleton.2 visible⟩
      split
      · exact printable_append.2 ⟨name 'u' (by decide), printable_fixedUpper _ _⟩
      · exact printable_append.2 ⟨name 'U' (by decide), printable_fixedUpper _ _⟩

theorem printable_literal (string : String) : Printable (literal string) := by
  intro c member
  obtain ⟨d, -, spelled⟩ := List.mem_flatMap.1 member
  exact printable_spell d c spelled

theorem isIdentRest_bounds {c : Char} (rest : isIdentRest c) : (' ' ≤ c ∧ c ≤ '~') ∧ c ≠ ',' := by
  simp only [isIdentRest, isIdentStart, Bool.or_eq_true, Bool.and_eq_true, decide_eq_true_eq] at rest
  obtain ((capital | small) | rfl) | digit := rest
  · exact bounds_of_range capital (by decide) (by decide)
  · exact bounds_of_range small (by decide) (by decide)
  · decide
  · exact bounds_of_range digit (by decide) (by decide)

theorem isIdentRest_of_isIdent {text : String} (valid : isIdent text) :
    ∀ c ∈ text.toList, isIdentRest c := by
  unfold isIdent at valid
  split at valid
  next => cases valid
  next first rest chars =>
    rw [Bool.and_eq_true] at valid
    rw [chars, List.forall_mem_cons]
    exact ⟨Bool.or_eq_true_iff.2 (.inl valid.1), List.all_eq_true.1 valid.2⟩

theorem noComma_of_isIdent {text : String} (valid : isIdent text) : ',' ∉ text.toList := fun member =>
  (isIdentRest_bounds (isIdentRest_of_isIdent valid _ member)).2 rfl

theorem printable_of_isIdent {text : String} (valid : isIdent text) : Printable text.toList :=
  fun _ member => (isIdentRest_bounds (isIdentRest_of_isIdent valid _ member)).1

theorem printable_ofBytes (bytes : Bytes) : Printable (Hex.ofBytes bytes).toList := by
  rw [Hex.ofBytes, String.toList_ofList]
  intro c member
  obtain ⟨byte, -, digit⟩ := List.mem_flatMap.1 member
  exact printable_fixed 2 byte.toNat c digit

theorem printable_header {atoms : List StaticAtom} : ∀ line ∈ header atoms, Printable line := by
  simp only [header, List.forall_mem_cons, printable_append]
  refine ⟨by decide, ⟨by decide, printable_ofBytes _⟩, ⟨by decide, printable_toDigits _⟩, ?_⟩
  intro _ member
  cases member

theorem printable_line {atom : StaticAtom} (valid : isIdent atom.ident) : Printable (line atom) := by
  have flag : Printable (if atom.lowercase then "true" else "false").toList := by
    cases atom.lowercase <;> decide
  unfold line
  simp only [printable_append, printable_of_isIdent valid, printable_literal, printable_toDigits,
    printable_fixed, flag, and_true]
  decide

theorem printable_of_compile {manifest : Manifest} {atoms : List StaticAtom}
    (compiled : manifest.compile = .ok atoms) : ∀ line ∈ lines atoms, Printable line := by
  obtain ⟨valid, rfl⟩ := Manifest.compile_eq_ok_iff.1 compiled
  refine List.forall_mem_append.2 ⟨printable_header, ?_⟩
  simp only [List.forall_mem_map]
  exact fun declaration member => printable_line (valid.idents declaration member)

/-! ## All lines -/

theorem noLineFeed_of_printable {s : List Char} (printable : Printable s) : '\n' ∉ s :=
  fun member => absurd (printable _ member).1 (by decide)

theorem lines?_append {line : List Char} (noLineFeed : '\n' ∉ line) {s : List Char}
    {behind : List (List Char)} (read : lines? s = some behind) :
    lines? (line ++ '\n' :: s) = some (line :: behind) := by
  induction line with
  | nil => simp [lines?, read]
  | cons c line ih =>
    rw [List.mem_cons, not_or] at noLineFeed
    simp [lines?, ih noLineFeed.2, Ne.symm noLineFeed.1]

theorem lines?_flatMap {lines : List (List Char)} (noLineFeed : ∀ line ∈ lines, '\n' ∉ line) :
    lines? (lines.flatMap fun line => line ++ ['\n']) = some lines := by
  induction lines with
  | nil => rfl
  | cons line lines ih =>
    rw [List.forall_mem_cons] at noLineFeed
    rw [List.flatMap_cons, List.append_assoc]
    exact lines?_append noLineFeed.1 (ih noLineFeed.2)

theorem mapM_readLine {atoms : List StaticAtom} (noComma : ∀ atom ∈ atoms, ',' ∉ atom.ident.toList) :
    (atoms.map line).mapM readLine = some (atoms.map row) := by
  induction atoms with
  | nil => rfl
  | cons atom atoms ih =>
    rw [List.forall_mem_cons] at noComma
    simp [readLine_line noComma.1, ih noComma.2]

theorem read_render {manifest : Manifest} {atoms : List StaticAtom}
    (compiled : manifest.compile = .ok atoms) : read (render atoms) = some (atoms.map row) := by
  have noLineFeed (line : List Char) (member : line ∈ lines atoms) : '\n' ∉ line :=
    noLineFeed_of_printable (printable_of_compile compiled line member)
  obtain ⟨valid, rfl⟩ := Manifest.compile_eq_ok_iff.1 compiled
  rw [read, render, String.toList_ofList, lines?_flatMap noLineFeed]
  refine mapM_readLine ?_
  simp only [List.forall_mem_map]
  exact fun declaration member => noComma_of_isIdent (valid.idents declaration member)

theorem consistent_row (declaration : Declaration) :
    (row (.compute declaration.ident declaration.string)).Consistent where
  length := rfl
  hash := rfl
  lowercase := isLowercase_eq_isLowercaseUnits declaration.string

/-! ## Bytes -/

theorem utf8EncodeChar_of_printable {c : Char} (low : ' ' ≤ c) (high : c ≤ '~') :
    ∃ byte : UInt8, String.utf8EncodeChar c = [byte] ∧ 0x20 ≤ byte ∧ byte ≤ 0x7E := by
  have least : 0x20 ≤ c.toNat := UInt32.le_iff_toNat_le.1 low
  have most : c.toNat ≤ 0x7E := UInt32.le_iff_toNat_le.1 high
  have ascii : c.val.toNat ≤ 0x7F := Nat.le_trans most (by decide)
  refine ⟨c.val.toNat.toUInt8, ?_, ?_, ?_⟩
  · rw [String.utf8EncodeChar, if_pos ascii]
  · rw [UInt8.le_iff_toNat_le]
    simp
    omega
  · rw [UInt8.le_iff_toNat_le]
    simp
    omega

theorem bounds_of_printable {s : List Char} (printable : Printable s) :
    ∀ byte ∈ s.flatMap String.utf8EncodeChar, 0x20 ≤ byte ∧ byte ≤ 0x7E := by
  intro byte member
  obtain ⟨c, inside, encoded⟩ := List.mem_flatMap.1 member
  obtain ⟨low, high⟩ := printable c inside
  obtain ⟨only, single, bounds⟩ := utf8EncodeChar_of_printable low high
  rw [single, List.mem_singleton] at encoded
  exact encoded ▸ bounds

theorem utf8_render (atoms : List StaticAtom) :
    Text.utf8 (render atoms) =
      ((lines atoms).map (·.flatMap String.utf8EncodeChar)).flatMap (· ++ [0x0A]) := by
  have lineFeed : String.utf8EncodeChar '\n' = [0x0A] := by decide
  rw [render, Text.utf8_ofList, List.flatMap_assoc, List.flatMap_map]
  simp [lineFeed]

theorem row_injective {left right : StaticAtom} (same : row left = row right) : left = right := by
  cases left
  cases right
  simp only [row, Row.mk.injEq, UInt32.toNat_inj] at same
  obtain ⟨rfl, rfl, -, rfl, rfl⟩ := same
  rfl

/-! ## The whole listing -/

/-- A listing has one line of printable ASCII for every comment and atom.  It is read back as what was
declared, with the numbers of the code units of every literal, so that it tells the atoms. -/
theorem read_render_of_compile {manifest : Manifest} {atoms : List StaticAtom}
    (compiled : manifest.compile = .ok atoms) :
    (∃ lines : List Bytes,
      Text.utf8 (render atoms) = lines.flatMap (· ++ [0x0A]) ∧ lines.length = 3 + atoms.length ∧
        ∀ line ∈ lines, ∀ byte ∈ line, 0x20 ≤ byte ∧ byte ≤ 0x7E) ∧
    (∃ rows, read (render atoms) = some rows ∧ rows.map Row.declaration = manifest.atoms ∧
      rows.map Row.declaration = atoms.map (fun atom => ⟨atom.ident, atom.string⟩) ∧
      ∀ row ∈ rows, row.Consistent) ∧
    ∀ (other : Manifest) (others : List StaticAtom), other.compile = .ok others →
      render others = render atoms → others = atoms := by
  have back := read_render compiled
  have printable := printable_of_compile compiled
  refine ⟨⟨(lines atoms).map (·.flatMap String.utf8EncodeChar), utf8_render atoms, ?_, ?_⟩,
    ⟨atoms.map row, back, ?_, ?_, ?_⟩, ?_⟩
  · simp [lines, header]
    omega
  · rw [List.forall_mem_map]
    exact fun line member => bounds_of_printable (printable line member)
  · obtain ⟨-, rfl⟩ := Manifest.compile_eq_ok_iff.1 compiled
    simp [Row.declaration, row, StaticAtom.compute, Function.comp_def]
  · simp [Row.declaration, row]
  · obtain ⟨-, rfl⟩ := Manifest.compile_eq_ok_iff.1 compiled
    simp only [List.forall_mem_map]
    exact fun declaration _ => consistent_row declaration
  · intro other others otherCompiled same
    have rows := read_render otherCompiled
    rw [same, back, Option.some.injEq] at rows
    exact (List.map_inj_right fun _ _ => row_injective).1 rows.symm

/-- Strings with what might break out of a literal, and with digits behind escapes. -/
def escapedManifest : Manifest :=
  ⟨[⟨"quoted", "a\"), \\\n\\u0041"⟩, ⟨"Named", "\x7f41é\uffff😀F"⟩, ⟨"empty", ""⟩]⟩

/-- What `escapedManifest` compiles to. -/
def escapedAtoms : List StaticAtom :=
  escapedManifest.atoms.map fun declaration => .compute declaration.ident declaration.string

theorem read_render_of_compile_escaped :
    escapedManifest.compile = .ok escapedAtoms ∧
      ∃ rows, read (render escapedAtoms) = some rows ∧
        rows.map Row.declaration = escapedManifest.atoms ∧ ∀ row ∈ rows, row.Consistent := by
  have compiled : escapedManifest.compile = .ok escapedAtoms := rfl
  obtain ⟨-, ⟨rows, back, declared, -, consistent⟩, -⟩ := read_render_of_compile compiled
  exact ⟨compiled, rows, back, declared, consistent⟩

end StaticAtoms.Listing
