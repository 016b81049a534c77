import StaticAtoms.Bytes.LittleEndian

/-!
# Little-endian numbers read back

`LittleEndian.decode_encode` reads a number back that fits into its bytes, so that a number in front
of other bytes can be told from them: `LittleEndian.encode_append_inj`.  All bytes are written for some
number: `LittleEndian.encode_decode`.
-/

namespace StaticAtoms.LittleEndian

theorem decode_encode {width value : Nat} (fits : value < Nat.pow 256 width) :
    decode (encode width value) = value := by
  induction width generalizing value with
  | zero =>
    obtain rfl := Nat.lt_one_iff.1 fits
    rfl
  | succ width ih =>
    have front : value / 256 < Nat.pow 256 width := (Nat.div_lt_iff_lt_mul (by decide)).2 fits
    rw [encode, decode, ih front, UInt8.toNat_ofNat']
    omega

theorem decode_lt (bytes : Bytes) : decode bytes < Nat.pow 256 bytes.length := by
  induction bytes with
  | nil => exact Nat.one_pos
  | cons byte bytes ih =>
    have small := byte.toNat_lt
    show byte.toNat + 256 * decode bytes < Nat.pow 256 bytes.length * 256
    omega

theorem encode_decode (bytes : Bytes) : encode bytes.length (decode bytes) = bytes := by
  induction bytes with
  | nil => rfl
  | cons byte bytes ih =>
    have small := byte.toNat_lt
    have behind : (byte.toNat + 256 * decode bytes) / 256 = decode bytes := by omega
    have first : UInt8.ofNat (byte.toNat + 256 * decode bytes) = byte := by
      rw [← UInt8.toNat_inj, UInt8.toNat_ofNat']
      omega
    rw [decode, List.length_cons, encode, behind, ih, first]

/-- Two numbers of one width in front of other bytes. -/
theorem encode_append_inj {width left right : Nat} (fitsLeft : left < Nat.pow 256 width)
    (fitsRight : right < Nat.pow 256 width) {s t : Bytes}
    (same : encode width left ++ s = encode width right ++ t) : left = right ∧ s = t := by
  have lengths : (encode width left).length = (encode width right).length := by
    rw [length_encode, length_encode]
  obtain ⟨digits, rests⟩ := List.append_inj same lengths
  refine ⟨?_, rests⟩
  rw [← decode_encode fitsLeft, digits, decode_encode fitsRight]

end StaticAtoms.LittleEndian
