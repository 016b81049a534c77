import StaticAtoms.Hash.Basic

/-!
# The hash in wider words

The hash is computed in 32-bit words, which drop what is carried out of them.  Two other ways to compute
it are set beside it: in 64-bit words, of which the upper half is masked away after every rotation and
every product, and in numbers without bounds, which are reduced at the same places.

`Hash.toNat_mix` and `Hash.toNat_maskedMix` compare one step of the words with one of the numbers, and
`Hash.ofUnits_eq_masked` is the main statement about any number of steps.
-/

namespace StaticAtoms.Hash

/-! ## Words of 64 bits -/

/-- The lower half of a word. -/
def lowHalf (word : UInt64) : UInt64 :=
  word &&& 0xFFFFFFFF

/-- Rotates the lower half of a word to the left by five bits. -/
def maskedRotate (state : UInt64) : UInt64 :=
  lowHalf ((state <<< 5) ||| (state >>> 27))

/-- What is multiplied by the golden ratio when a unit is folded in. -/
def maskedFactor (state : UInt64) (unit : UInt16) : UInt64 :=
  maskedRotate state ^^^ unit.toUInt64

/-- Folds one unit into the running hash, which is the lower half of a word. -/
def maskedMix (state : UInt64) (unit : UInt16) : UInt64 :=
  lowHalf (0x9E3779B9 * maskedFactor state unit)

/-- The hash of code units, in words of 64 bits. -/
def maskedOfUnits (units : List UInt16) : UInt64 :=
  units.foldl maskedMix 0

/-! ## Numbers without bounds -/

/-- Rotates 32 binary digits to the left by five. -/
def exactRotate (state : Nat) : Nat :=
  (state <<< 5 ||| state >>> 27) % 0x100000000

/-- Folds one unit into the running hash and reduces the product. -/
def exactMix (state : Nat) (unit : UInt16) : Nat :=
  0x9E3779B9 * (exactRotate state ^^^ unit.toNat) % 0x100000000

/-- The hash of code units, in numbers without bounds. -/
def exactOfUnits (units : List UInt16) : Nat :=
  units.foldl exactMix 0

/-! ## One step -/

theorem toNat_lowHalf (word : UInt64) : (lowHalf word).toNat = word.toNat % 0x100000000 :=
  Nat.and_two_pow_sub_one_eq_mod word.toNat 32

theorem or_mod (left right : Nat) :
    (left ||| right) % 0x100000000 = left % 0x100000000 ||| right % 0x100000000 :=
  @Nat.or_mod_two_pow left right 32

theorem toNat_rotateFive (word : UInt32) : (rotateFive word).toNat = exactRotate word.toNat := by
  have small : word.toNat >>> 27 < 0x100000000 :=
    Nat.lt_of_le_of_lt (Nat.shiftRight_le word.toNat 27) word.toNat_lt
  -- What is shifted down is small already, so that only what is shifted up is reduced.
  rw [exactRotate, or_mod, Nat.mod_eq_of_lt small]
  rfl

theorem toNat_mix (hash : UInt32) (unit : UInt16) :
    (mix hash unit.toUInt32).toNat = exactMix hash.toNat unit := by
  rw [mix, UInt32.toNat_mul, UInt32.toNat_xor, toNat_rotateFive, UInt16.toNat_toUInt32]
  rfl

/-- The digits that a shift drops from a word of 64 bits are among those that are masked away. -/
theorem toNat_maskedRotate (state : UInt64) :
    (maskedRotate state).toNat = exactRotate state.toNat := by
  have shifted : (state <<< 5).toNat % 0x100000000 = state.toNat <<< 5 % 0x100000000 :=
    Nat.mod_mod_of_dvd _ (by decide)
  rw [maskedRotate, toNat_lowHalf, UInt64.toNat_or, or_mod, shifted, exactRotate, or_mod]
  rfl

theorem toNat_maskedFactor (state : UInt64) (unit : UInt16) :
    (maskedFactor state unit).toNat = exactRotate state.toNat ^^^ unit.toNat := by
  rw [maskedFactor, UInt64.toNat_xor, toNat_maskedRotate, UInt16.toNat_toUInt64]

theorem toNat_maskedMix (state : UInt64) (unit : UInt16) :
    (maskedMix state unit).toNat = exactMix state.toNat unit := by
  rw [maskedMix, toNat_lowHalf, UInt64.toNat_mul, toNat_maskedFactor, exactMix]
  exact Nat.mod_mod_of_dvd _ (by decide)

/-! ## Any number of steps -/

theorem toNat_ofUnits (units : List UInt16) : (ofUnits units).toNat = exactOfUnits units :=
  (List.foldl_hom UInt32.toNat fun hash unit => (toNat_mix hash unit).symm).symm

theorem toNat_maskedOfUnits (units : List UInt16) :
    (maskedOfUnits units).toNat = exactOfUnits units :=
  (List.foldl_hom UInt64.toNat fun state unit => (toNat_maskedMix state unit).symm).symm

/-! ## Bounds -/

theorem maskedFactor_lt (state : UInt64) (unit : UInt16) :
    (maskedFactor state unit).toNat < UInt32.size := by
  have rotated : exactRotate state.toNat < UInt32.size := Nat.mod_lt _ (by decide)
  have small : unit.toNat < UInt32.size := Nat.lt_trans unit.toNat_lt (by decide)
  rw [toNat_maskedFactor]
  exact @Nat.xor_lt_two_pow _ _ 32 rotated small

/-- The hash is the same in words of 64 bits, whose upper half is masked away, and in numbers without
bounds, which are reduced at every step.  After any units, the state is less than 2^32, so that for the
next unit neither the shift nor the product exceeds 64 bits. -/
theorem ofUnits_eq_masked (units : List UInt16) :
    (ofUnits units).toUInt64 = maskedOfUnits units ∧
    ofUnits units = (maskedOfUnits units).toUInt32 ∧
    (ofUnits units).toNat = exactOfUnits units ∧
    (maskedOfUnits units).toNat < UInt32.size ∧
    (maskedOfUnits units).toNat <<< 5 < UInt64.size ∧
    ∀ unit, (0x9E3779B9 : UInt64).toNat * (maskedFactor (maskedOfUnits units) unit).toNat <
      UInt64.size := by
  have widened : (ofUnits units).toUInt64 = maskedOfUnits units := by
    rw [← UInt64.toNat_inj, UInt32.toNat_toUInt64, toNat_ofUnits, toNat_maskedOfUnits]
  have bound : (maskedOfUnits units).toNat < UInt32.size := by
    rw [← widened, UInt32.toNat_toUInt64]
    exact (ofUnits units).toNat_lt
  refine ⟨widened, ?_, toNat_ofUnits units, bound, ?_, fun unit => ?_⟩
  · rw [← widened, UInt32.toUInt32_toUInt64]
  · calc
      (maskedOfUnits units).toNat <<< 5 = (maskedOfUnits units).toNat * 32 := Nat.shiftLeft_eq _ 5
      _ < UInt32.size * 32 := Nat.mul_lt_mul_of_pos_right bound (by decide)
      _ < UInt64.size := by decide
  · have ratio : (0x9E3779B9 : UInt64).toNat < UInt32.size := by decide
    exact Nat.mul_lt_mul'' ratio (maskedFactor_lt _ unit)

example : maskedOfUnits (Utf16.units "café") = 0x811012D4 := by decide

end StaticAtoms.Hash
