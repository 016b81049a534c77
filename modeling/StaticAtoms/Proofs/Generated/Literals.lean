import StaticAtoms.Generated.Listing
import StaticAtoms.Proofs.Text.Hex
import StaticAtoms.Proofs.Text.Utf16

/-!
# Literals read back

`Listing.readLiteral` reads a literal as the consumer of a listing does, knowing nothing but the rules
for escapes.  `Listing.readLiteral_literal` says that it gets back the string that was written, and
stops at the quote that closes it: the first one that is not escaped.
-/

namespace StaticAtoms.Listing

/-! ## Reading -/

/-- The character whose code point is given in digits, if there is one. -/
def named? (digits : List Char) : Option Char :=
  match Hex.value? digits with
  | some value => if value.isValidChar then some (Char.ofNat value) else none
  | none => none

/-- Puts the character that was read in front of what is read behind it. -/
def followed (c : Option Char) (behind : Option (List Char × List Char)) :
    Option (List Char × List Char) :=
  match c, behind with
  | some c, some (chars, rest) => some (c :: chars, rest)
  | _, _ => none

/-- Reads a literal behind its opening quote, up to the first quote that is not escaped. -/
def readLiteral : List Char → Option (List Char × List Char)
  | [] => none
  | '"' :: rest => some ([], rest)
  | '\\' :: '"' :: rest => followed (some '"') (readLiteral rest)
  | '\\' :: '\\' :: rest => followed (some '\\') (readLiteral rest)
  | '\\' :: 'u' :: a :: b :: c :: d :: rest =>
      followed (named? [a, b, c, d]) (readLiteral rest)
  | '\\' :: 'U' :: a :: b :: c :: d :: e :: f :: g :: h :: rest =>
      followed (named? [a, b, c, d, e, f, g, h]) (readLiteral rest)
  | '\\' :: _ => none
  | c :: rest => followed (some c) (readLiteral rest)

/-! ## Reading what was written -/

theorem named?_fixedUpper {width : Nat} (c : Char) (bound : c.toNat < Nat.pow 16 width) :
    named? (Hex.fixedUpper width c.toNat) = some c := by
  have valid : c.toNat.isValidChar := Utf16.toNat_char c
  simp only [named?, Hex.value?_fixedUpper bound, valid, ↓reduceIte, Char.ofNat_toNat]

theorem readLiteral_plain {c : Char} (notQuote : c ≠ '"') (notBackslash : c ≠ '\\')
    (rest : List Char) : readLiteral (c :: rest) = followed (some c) (readLiteral rest) := by
  rw [readLiteral]
  -- Every other rule wants a quote or a backslash in front.
  all_goals
    intros
    contradiction

theorem readLiteral_short (c : Char) (bound : c.toNat < Nat.pow 16 4) (rest : List Char) :
    readLiteral ('\\' :: 'u' :: (Hex.fixedUpper 4 c.toNat ++ rest)) =
      followed (some c) (readLiteral rest) := by
  have named := named?_fixedUpper c bound
  simp only [Hex.fixedUpper, Hex.fixed, List.map_cons, List.map_nil, List.nil_append,
    List.cons_append] at named ⊢
  rw [readLiteral, named]

theorem readLiteral_long (c : Char) (bound : c.toNat < Nat.pow 16 8) (rest : List Char) :
    readLiteral ('\\' :: 'U' :: (Hex.fixedUpper 8 c.toNat ++ rest)) =
      followed (some c) (readLiteral rest) := by
  have named := named?_fixedUpper c bound
  simp only [Hex.fixedUpper, Hex.fixed, List.map_cons, List.map_nil, List.nil_append,
    List.cons_append] at named ⊢
  rw [readLiteral, named]

/-- Every character is read as its spelling says. -/
theorem readLiteral_spell (c : Char) (rest : List Char) :
    readLiteral (spell c ++ rest) = followed (some c) (readLiteral rest) := by
  unfold spell
  split
  · rfl
  · rfl
  next notQuote notBackslash =>
    split
    next visible =>
      exact readLiteral_plain notQuote notBackslash rest
    next =>
      split
      next short => exact readLiteral_short c (Nat.lt_succ_of_le short) rest
      next =>
        have valid := Utf16.toNat_char c
        have bound : c.toNat < 0x100000000 := by omega
        exact readLiteral_long c bound rest

theorem readLiteral_literal (string : String) (rest : List Char) :
    readLiteral (literal string ++ '"' :: rest) = some (string.toList, rest) := by
  rw [literal]
  induction string.toList with
  | nil => rfl
  | cons c chars ih =>
    rw [List.flatMap_cons, List.append_assoc, readLiteral_spell, ih]
    rfl

end StaticAtoms.Listing
