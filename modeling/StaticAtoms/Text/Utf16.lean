/-!
# UTF-16 code units

* `Utf16.ofChars` and `Utf16.units` encode; a character above U+FFFF becomes a surrogate pair.
* `Utf16.decode?` reads units back, and `Utf16.faultOffset` says where the first unpaired surrogate
  stands.
-/

namespace StaticAtoms.Utf16

/-- The first half of a surrogate pair. -/
def isHigh (unit : UInt16) : Bool :=
  0xD800 ≤ unit && unit ≤ 0xDBFF

/-- The second half of a surrogate pair. -/
def isLow (unit : UInt16) : Bool :=
  0xDC00 ≤ unit && unit ≤ 0xDFFF

/-- The code units of a character: one, or the two halves of a pair. -/
def ofChar (c : Char) : List UInt16 :=
  if c.toNat < 0x10000 then
    [UInt16.ofNat c.toNat]
  else
    [UInt16.ofNat (0xD800 + (c.toNat - 0x10000) / 0x400),
      UInt16.ofNat (0xDC00 + (c.toNat - 0x10000) % 0x400)]

/-- The code units of a list of characters. -/
def ofChars (chars : List Char) : List UInt16 :=
  chars.flatMap ofChar

/-- The code units of a text. -/
def units (text : String) : List UInt16 :=
  ofChars text.toList

/-- The number of code units of a text. -/
def length (text : String) : Nat :=
  (units text).length

/-- The character that a surrogate pair denotes. -/
def combine (high low : UInt16) : Char :=
  Char.ofNat (0x10000 + (high.toNat - 0xD800) * 0x400 + (low.toNat - 0xDC00))

/-- What code units denote, one character after another.  An unpaired surrogate denotes none, and the
unit behind it starts afresh. -/
def characters : List UInt16 → List (Option Char)
  | [] => []
  | [unit] => [if isHigh unit || isLow unit then none else some (Char.ofNat unit.toNat)]
  | unit :: next :: rest =>
      if isHigh unit then
        if isLow next then some (combine unit next) :: characters rest
        else none :: characters (next :: rest)
      else if isLow unit then none :: characters (next :: rest)
      else some (Char.ofNat unit.toNat) :: characters (next :: rest)

/-- The text whose code units are given, if every surrogate is paired. -/
def decode? (units : List UInt16) : Option String :=
  ((characters units).mapM id).map String.ofList

/-- The number of code units that a character has. -/
def width (c : Char) : Nat :=
  if c.toNat < 0x10000 then 1 else 2

/-- The number of code units in front of the first unpaired surrogate: those of the characters there. -/
def faultOffset (units : List UInt16) : Nat :=
  ((characters units).takeWhile Option.isSome).foldl (fun offset c => offset + c.elim 1 width) 0

end StaticAtoms.Utf16
