import StaticAtoms.Text.Hex

/-!
# Reading hexadecimal digits back

`Hex.value?` reads a run of digits of either case, and `Hex.value?_map_fixed` says that it reads what
`Hex.fixed` writes.  `Hex.fixed_four` shows the digits that four places have.  Nothing but digits
is written: `Hex.not_mem_fixed`.  Bytes are read back from their digits: `Hex.bytes?_ofBytes`.
-/

namespace StaticAtoms.Hex

theorem digit?_digitChar {value : Nat} (bound : value < 16) :
    digit? (Nat.digitChar value) = some value := by
  have all : ∀ value : Fin 16, digit? (Nat.digitChar value) = some value.val := by decide
  exact all ⟨value, bound⟩

theorem digit?_toUpper_digitChar {value : Nat} (bound : value < 16) :
    digit? (Nat.digitChar value).toUpper = some value := by
  have all : ∀ value : Fin 16, digit? (Nat.digitChar value).toUpper = some value.val := by decide
  exact all ⟨value, bound⟩

theorem fixed_four (value : Nat) :
    fixed 4 value = [Nat.digitChar (value / 4096 % 16), Nat.digitChar (value / 256 % 16),
      Nat.digitChar (value / 16 % 16), Nat.digitChar (value % 16)] := by
  simp [fixed, Nat.div_div_eq_div_mul]

theorem exists_digit_of_mem_fixed {width value : Nat} {c : Char} (member : c ∈ fixed width value) :
    ∃ digit : Fin 16, c = Nat.digitChar digit := by
  induction width generalizing value with
  | zero => cases member
  | succ width ih =>
    rw [fixed, List.mem_append, List.mem_singleton] at member
    obtain front | last := member
    · exact ih front
    · exact ⟨⟨value % 16, Nat.mod_lt _ (by decide)⟩, last⟩

theorem not_mem_fixed {c : Char} (other : ∀ digit : Fin 16, c ≠ Nat.digitChar digit)
    (width value : Nat) : c ∉ fixed width value := by
  intro member
  obtain ⟨digit, same⟩ := exists_digit_of_mem_fixed member
  exact other digit same

/-! ## Numbers -/

/-- The number that a run of digits denotes. -/
def value? (digits : List Char) : Option Nat :=
  digits.foldlM (fun value c => (digit? c).map (16 * value + ·)) 0

/-- Digits that are spelled one way or the other are read as the number they were written for. -/
theorem value?_map_fixed {spell : Char → Char}
    (reads : ∀ value < 16, digit? (spell (Nat.digitChar value)) = some value) {width value : Nat}
    (bound : value < Nat.pow 16 width) : value? ((fixed width value).map spell) = some value := by
  induction width generalizing value with
  | zero =>
    obtain rfl := Nat.lt_one_iff.1 bound
    rfl
  | succ width ih =>
    have front : value / 16 < Nat.pow 16 width := (Nat.div_lt_iff_lt_mul (by decide)).2 bound
    have last := reads (value % 16) (Nat.mod_lt _ (by decide))
    have read := ih front
    simp only [value?] at read
    simp [value?, fixed, List.foldlM_append, read, last, Nat.div_add_mod]

theorem value?_fixed {width value : Nat} (bound : value < Nat.pow 16 width) :
    value? (fixed width value) = some value := by
  have read : value? ((fixed width value).map id) = some value :=
    value?_map_fixed (fun _ => digit?_digitChar) bound
  rwa [List.map_id] at read

theorem value?_fixedUpper {width value : Nat} (bound : value < Nat.pow 16 width) :
    value? (fixedUpper width value) = some value :=
  value?_map_fixed (fun _ => digit?_toUpper_digitChar) bound

/-! ## Bytes -/

theorem fixed_two (value : Nat) :
    fixed 2 value = [Nat.digitChar (value / 16 % 16), Nat.digitChar (value % 16)] := by
  simp [fixed]

theorem pairs?_append (byte : UInt8) (rest : List Char) :
    pairs? (fixed 2 byte.toNat ++ rest) = (pairs? rest).map (byte :: ·) := by
  have small := byte.toNat_lt
  have high := digit?_digitChar (Nat.mod_lt (byte.toNat / 16) (show 16 > 0 by decide))
  have low := digit?_digitChar (Nat.mod_lt byte.toNat (show 16 > 0 by decide))
  have whole : UInt8.ofNat (16 * (byte.toNat / 16 % 16) + byte.toNat % 16) = byte := by
    rw [← UInt8.toNat_inj, UInt8.toNat_ofNat']
    omega
  simp only [fixed_two, List.cons_append, List.nil_append, pairs?, high, low, whole,
    Option.bind_eq_bind, Option.bind_some, Option.pure_def, Option.map_eq_bind, Function.comp_def]

theorem bytes?_ofBytes (bytes : Bytes) : bytes? (ofBytes bytes) = some bytes := by
  rw [bytes?, ofBytes, String.toList_ofList]
  induction bytes with
  | nil => rfl
  | cons byte bytes ih => rw [List.flatMap_cons, pairs?_append, ih, Option.map_some]

theorem ofBytes_injective {left right : Bytes} (same : ofBytes left = ofBytes right) :
    left = right := by
  rw [← Option.some_inj, ← bytes?_ofBytes left, same, bytes?_ofBytes]

/-- Every digit is one byte in UTF-8. -/
theorem length_utf8_fixed (width value : Nat) :
    ((fixed width value).flatMap String.utf8EncodeChar).length = width := by
  have single : ∀ digit : Fin 16, (String.utf8EncodeChar (Nat.digitChar digit)).length = 1 := by
    decide
  induction width generalizing value with
  | zero => rfl
  | succ width ih =>
    have last := single ⟨value % 16, Nat.mod_lt _ (by decide)⟩
    simp [fixed, ih, last]

theorem utf8ByteSize_ofBytes (bytes : Bytes) : (ofBytes bytes).utf8ByteSize = 2 * bytes.length := by
  rw [← Text.length_utf8, ofBytes, Text.utf8_ofList]
  induction bytes with
  | nil => rfl
  | cons byte bytes ih =>
    rw [List.flatMap_cons, List.flatMap_append, List.length_append, length_utf8_fixed, ih,
      List.length_cons]
    omega

end StaticAtoms.Hex
