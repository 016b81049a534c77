import StaticAtoms.Hash.Basic
import StaticAtoms.Bytes.LittleEndian

/-!
# Hashers fed step by step

* `TextHasher` takes a text's code units in any number of pieces.
* `KeyHasher` hashes the keys of a hash map: a 32-bit key is its own hash, anything else is folded
  in byte by byte.
-/

namespace StaticAtoms

/-- The hash of the code units fed so far. -/
structure TextHasher where
  hash : UInt32
deriving DecidableEq

namespace TextHasher

/-- A hasher that has been fed nothing. -/
def start : TextHasher := ⟨0⟩

/-- Feeds one unit, or one code point. -/
def writeUnit (hasher : TextHasher) (unit : UInt32) : TextHasher :=
  ⟨Hash.mix hasher.hash unit⟩

/-- Feeds code units. -/
def writeUnits (hasher : TextHasher) (units : List UInt16) : TextHasher :=
  units.foldl (fun running unit => running.writeUnit unit.toUInt32) hasher

/-- Feeds the code units of a text. -/
def writeText (hasher : TextHasher) (text : String) : TextHasher :=
  hasher.writeUnits (Utf16.units text)

end TextHasher

/-- The hash of the keys fed so far. -/
structure KeyHasher where
  state : UInt64
deriving DecidableEq

namespace KeyHasher

/-- A hasher that has been fed nothing. -/
def start : KeyHasher := ⟨0⟩

/-- Folds one byte into the low half of the state. -/
def writeByte (hasher : KeyHasher) (byte : UInt8) : KeyHasher :=
  ⟨(Hash.mix hasher.state.toUInt32 byte.toUInt32).toUInt64⟩

/-- Folds bytes in. -/
def writeBytes (hasher : KeyHasher) (bytes : Bytes) : KeyHasher :=
  bytes.foldl writeByte hasher

/-- Something that can be fed to a hasher of keys.  A size has 64 bits, and words of 128 bits are given
by their bits, signed or not. -/
inductive Piece where
  | bytes (bytes : Bytes)
  | word8 (value : UInt8)
  | signed8 (value : Int8)
  | word16 (value : UInt16)
  | signed16 (value : Int16)
  | word32 (value : UInt32)
  | signed32 (value : Int32)
  | word64 (value : UInt64)
  | signed64 (value : Int64)
  | word128 (bits : BitVec 128)
  | signed128 (bits : BitVec 128)
  | size (value : UInt64)
  | signedSize (value : Int64)
  | text (text : String)

/-- Feeds one piece.  A 32-bit word replaces the state, and the bytes of any other are folded in; a signed
word is fed by its bits.  A text is followed by the byte 0xFF, which no text contains. -/
def write (hasher : KeyHasher) : Piece → KeyHasher
  | .bytes bytes => hasher.writeBytes bytes
  | .word8 value => hasher.writeBytes [value]
  | .signed8 value => hasher.writeBytes [value.toUInt8]
  | .word16 value => hasher.writeBytes (LittleEndian.encode 2 value.toNat)
  | .signed16 value => hasher.writeBytes (LittleEndian.encode 2 value.toUInt16.toNat)
  | .word32 value => ⟨value.toUInt64⟩
  | .signed32 value => ⟨value.toUInt32.toUInt64⟩
  | .word64 value => hasher.writeBytes (LittleEndian.encode 8 value.toNat)
  | .signed64 value => hasher.writeBytes (LittleEndian.encode 8 value.toUInt64.toNat)
  | .word128 bits => hasher.writeBytes (LittleEndian.encode 16 bits.toNat)
  | .signed128 bits => hasher.writeBytes (LittleEndian.encode 16 bits.toNat)
  | .size value => hasher.writeBytes (LittleEndian.encode 8 value.toNat)
  | .signedSize value => hasher.writeBytes (LittleEndian.encode 8 value.toUInt64.toNat)
  | .text text => hasher.writeBytes (Text.utf8 text ++ [0xFF])

end KeyHasher

end StaticAtoms
