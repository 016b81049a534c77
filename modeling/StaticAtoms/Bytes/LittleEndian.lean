import StaticAtoms.Text.Utf8

/-!
# Little-endian numbers

* `LittleEndian.encode` writes a number into a given count of bytes, the least significant first.
* `LittleEndian.decode` reads such bytes back.
-/

namespace StaticAtoms.LittleEndian

/-- The `width` lowest bytes of a number, the least significant first. -/
def encode : (width : Nat) → (value : Nat) → Bytes
  | 0, _ => []
  | width + 1, value => UInt8.ofNat value :: encode width (value / 256)

/-- The number that the bytes denote. -/
def decode : Bytes → Nat
  | [] => 0
  | byte :: rest => byte.toNat + 256 * decode rest

@[simp] theorem length_encode (width value : Nat) : (encode width value).length = width := by
  induction width generalizing value with
  | zero => rfl
  | succ width ih => simp [encode, ih]

end StaticAtoms.LittleEndian
