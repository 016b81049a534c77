import StaticAtoms.Text.Hex

/-!
# SHA-256

The hash function of FIPS 180-4 on byte strings.  `Sha256.digest` is the only entry point; a
`Digest` is thirty-two bytes, written as text by `Digest.hex`.
-/

namespace StaticAtoms

/-- Thirty-two bytes, the size of a SHA-256 hash. -/
structure Digest where
  bytes : Bytes
  length_bytes : bytes.length = 32
deriving DecidableEq

namespace Digest

/-- Sixty-four lowercase hexadecimal digits. -/
def hex (digest : Digest) : String :=
  Hex.ofBytes digest.bytes

/-- A byte string of the right length as a digest. -/
def ofBytes? (bytes : Bytes) : Option Digest :=
  if length_bytes : bytes.length = 32 then some ⟨bytes, length_bytes⟩ else none

end Digest

namespace Sha256

/-! ## Words -/

/-- Rotates a word to the right. -/
def rotr (word amount : UInt32) : UInt32 :=
  (word >>> amount) ||| (word <<< (32 - amount))

/-- A word as four bytes, the most significant first. -/
def wordBytes (word : UInt32) : Bytes :=
  [(word >>> 24).toUInt8, (word >>> 16).toUInt8, (word >>> 8).toUInt8, word.toUInt8]

/-- Reads bytes four at a time as words, the most significant byte first. -/
def words : Bytes → List UInt32
  | b₀ :: b₁ :: b₂ :: b₃ :: rest =>
      ((b₀.toUInt32 <<< 24) ||| (b₁.toUInt32 <<< 16) ||| (b₂.toUInt32 <<< 8) ||| b₃.toUInt32)
        :: words rest
  | _ => []

/-! ## Padding -/

/-- Appends the bit one, zero bits up to a whole number of blocks, and the length in bits. -/
def pad (message : Bytes) : Bytes :=
  let zeros : Bytes := List.replicate ((119 - message.length % 64) % 64) 0
  let bits := UInt64.ofNat (8 * message.length)
  message ++ [(0x80 : UInt8)] ++ zeros ++ wordBytes (bits >>> 32).toUInt32 ++ wordBytes bits.toUInt32

/-! ## Compression -/

/-- The eight working words. -/
structure State where
  a : UInt32
  b : UInt32
  c : UInt32
  d : UInt32
  e : UInt32
  f : UInt32
  g : UInt32
  h : UInt32

/-- The state before the first block. -/
def initial : State :=
  ⟨0x6A09E667, 0xBB67AE85, 0x3C6EF372, 0xA54FF53A, 0x510E527F, 0x9B05688C, 0x1F83D9AB, 0x5BE0CD19⟩

/-- The additive constant of each round. -/
def roundConstants : List UInt32 :=
  [0x428A2F98, 0x71374491, 0xB5C0FBCF, 0xE9B5DBA5, 0x3956C25B, 0x59F111F1, 0x923F82A4, 0xAB1C5ED5,
   0xD807AA98, 0x12835B01, 0x243185BE, 0x550C7DC3, 0x72BE5D74, 0x80DEB1FE, 0x9BDC06A7, 0xC19BF174,
   0xE49B69C1, 0xEFBE4786, 0x0FC19DC6, 0x240CA1CC, 0x2DE92C6F, 0x4A7484AA, 0x5CB0A9DC, 0x76F988DA,
   0x983E5152, 0xA831C66D, 0xB00327C8, 0xBF597FC7, 0xC6E00BF3, 0xD5A79147, 0x06CA6351, 0x14292967,
   0x27B70A85, 0x2E1B2138, 0x4D2C6DFC, 0x53380D13, 0x650A7354, 0x766A0ABB, 0x81C2C92E, 0x92722C85,
   0xA2BFE8A1, 0xA81A664B, 0xC24B8B70, 0xC76C51A3, 0xD192E819, 0xD6990624, 0xF40E3585, 0x106AA070,
   0x19A4C116, 0x1E376C08, 0x2748774C, 0x34B0BCB5, 0x391C0CB3, 0x4ED8AA4A, 0x5B9CCA4F, 0x682E6FF3,
   0x748F82EE, 0x78A5636F, 0x84C87814, 0x8CC70208, 0x90BEFFFA, 0xA4506CEB, 0xBEF9A3F7, 0xC67178F2]

/-- One round, with its constant and its word of the schedule. -/
def round (constant word : UInt32) (s : State) : State :=
  let sum₁ := rotr s.e 6 ^^^ rotr s.e 11 ^^^ rotr s.e 25
  let choice := (s.e &&& s.f) ^^^ (~~~s.e &&& s.g)
  let first := s.h + sum₁ + choice + constant + word
  let sum₀ := rotr s.a 2 ^^^ rotr s.a 13 ^^^ rotr s.a 22
  let majority := (s.a &&& s.b) ^^^ (s.a &&& s.c) ^^^ (s.b &&& s.c)
  { a := first + (sum₀ + majority), b := s.a, c := s.b, d := s.c,
    e := s.d + first, f := s.e, g := s.f, h := s.g }

/-- The word that follows a window of sixteen words of the schedule. -/
def nextWord (window : List UInt32) : UInt32 :=
  let early := window.getD 1 0
  let late := window.getD 14 0
  window.getD 0 0 + (rotr early 7 ^^^ rotr early 18 ^^^ (early >>> 3))
    + window.getD 9 0 + (rotr late 17 ^^^ rotr late 19 ^^^ (late >>> 10))

/-- Runs a round per constant, sliding the window of the schedule along. -/
def rounds : (constants window : List UInt32) → State → State
  | constant :: constants, word :: window, state =>
      rounds constants (window ++ [nextWord (word :: window)]) (round constant word state)
  | _, _, state => state

/-- The state after one more block of sixteen words. -/
def compress (s : State) (block : List UInt32) : State :=
  let t := rounds roundConstants block s
  { a := s.a + t.a, b := s.b + t.b, c := s.c + t.c, d := s.d + t.d,
    e := s.e + t.e, f := s.f + t.f, g := s.g + t.g, h := s.h + t.h }

/-- Compresses the first `count` blocks of sixty-four bytes. -/
def compressBlocks : (count : Nat) → Bytes → State → State
  | 0, _, state => state
  | count + 1, text, state =>
      compressBlocks count (text.drop 64) (compress state (words (text.take 64)))

/-- The SHA-256 hash of a byte string. -/
def digest (message : Bytes) : Digest :=
  let text := pad message
  let s := compressBlocks (text.length / 64) text initial
  { bytes := wordBytes s.a ++ wordBytes s.b ++ wordBytes s.c ++ wordBytes s.d
      ++ wordBytes s.e ++ wordBytes s.f ++ wordBytes s.g ++ wordBytes s.h
    length_bytes := rfl }

end Sha256

end StaticAtoms
