import StaticAtoms.Text.Utf8
import StaticAtoms.Text.Utf16

/-!
# The stable text hash

A text is hashed over its UTF-16 code units: every unit is xored into the rotated state, and the
result is multiplied by the golden ratio.  Nothing is seeded, so a text has one hash for good.

* `Hash.mix` folds one unit in; `Hash.ofUnits` and `Hash.ofText` fold a whole sequence.
* `Hash.ofScalars` folds the characters' code points instead.
* `isLowercase` and `isLowercaseUnits` look for ASCII capitals in the two encodings of a text.
-/

namespace StaticAtoms

namespace Hash

/-- The golden ratio as a 32-bit fraction. -/
def goldenRatio : UInt32 := 0x9E3779B9

/-- Rotates a word to the left by five bits. -/
def rotateFive (word : UInt32) : UInt32 :=
  (word <<< 5) ||| (word >>> 27)

/-- Folds one unit into the running hash. -/
def mix (hash unit : UInt32) : UInt32 :=
  goldenRatio * (rotateFive hash ^^^ unit)

/-- Folds code units into the running hash. -/
def mixUnits (hash : UInt32) (units : List UInt16) : UInt32 :=
  units.foldl (fun running unit => mix running unit.toUInt32) hash

/-- Folds bytes into the running hash. -/
def mixBytes (hash : UInt32) (bytes : Bytes) : UInt32 :=
  bytes.foldl (fun running byte => mix running byte.toUInt32) hash

/-- The hash of a sequence of code units, paired or not. -/
def ofUnits (units : List UInt16) : UInt32 :=
  mixUnits 0 units

/-- The hash of a text: that of its code units. -/
def ofText (text : String) : UInt32 :=
  ofUnits (Utf16.units text)

/-- The hash of a text's code points. -/
def ofScalars (text : String) : UInt32 :=
  text.toList.foldl (fun running c => mix running c.val) 0

end Hash

/-- Whether no byte of the text is an ASCII capital; other letters of either case are let pass. -/
def isLowercase (text : String) : Bool :=
  (Text.utf8 text).all fun byte => !(0x41 ≤ byte && byte ≤ 0x5A)

/-- Whether no code unit is an ASCII capital. -/
def isLowercaseUnits (units : List UInt16) : Bool :=
  units.all fun unit => !(0x41 ≤ unit && unit ≤ 0x5A)

end StaticAtoms
