import StaticAtoms.Log.Pattern.Flags
import StaticAtoms.Text.Hex

/-!
# Smallest parts of regular expressions

* `Part.readEscape` reads what a backslash begins.
* `together` is the height of parts that are taken together; it bounds how deep an expression may be.

There are no tables of Unicode, so that sets such as `\d` and the edges of words are refused unless the
flag `u` is off.
-/

namespace StaticAtoms.Log.Pattern

/-- What a smallest part stands for: one character, one of a set, or a place between characters. -/
inductive Part where
  | character (c : Char)
  | set
  | place
deriving DecidableEq

/-- The height of parts that are taken together.  Smallest parts have the height zero, and a single
part keeps its height. -/
def together : List Nat → Nat
  | [] => 0
  | [height] => height
  | heights => 1 + heights.foldl max 0

namespace Part

/-- Whether a backslash makes a character stand for itself: ASCII, apart from letters, digits and the
two signs that mark the edges of words. -/
def isEscapable (c : Char) : Bool :=
  c.toNat < 0x80 && !c.isAlphanum && c ≠ '<' && c ≠ '>'

/-- The control character of a letter behind a backslash. -/
def control? : Char → Option Char
  | 'a' => some '\x07'
  | 'f' => some '\x0c'
  | 'n' => some '\n'
  | 'r' => some '\r'
  | 't' => some '\t'
  | 'v' => some '\x0b'
  | _ => none

/-- The number of digits of a code point, by the letter that announces it. -/
def codeWidth? : Char → Option Nat
  | 'x' => some 2
  | 'u' => some 4
  | 'U' => some 8
  | _ => none

/-- Reads a number of hexadecimal digits. -/
def readDigits (flags : Flags) : (count value : Nat) → List Char → Option (Nat × List Char)
  | 0, value, s => some (value, s)
  | count + 1, value, s =>
      match flags.skip s with
      | [] => none
      | c :: rest =>
          match Hex.digit? c with
          | none => none
          | some digit => readDigits flags count (16 * value + digit) rest

/-- Reads a character by its code point.  Two digits stand for a byte where bytes count, and a byte is
a character only in ASCII. -/
def readCode (flags : Flags) (width : Nat) (s : List Char) : Option (Part × List Char) :=
  match readDigits flags width 0 s with
  | none => none
  | some (code, rest) =>
      if !decide code.isValidChar then none
      else if width = 2 && !flags.unicode && code ≥ 0x80 then none
      else some (.character (Char.ofNat code), rest)

/-- Reads what a backslash begins. -/
def readEscape (flags : Flags) : List Char → Option (Part × List Char)
  | [] => none
  | c :: rest =>
      if isEscapable c then some (.character c, rest)
      else if let some c := control? c then some (.character c, rest)
      else if let some width := codeWidth? c then readCode flags width rest
      else if c = 'A' || c = 'z' then some (.place, rest)
      else if flags.unicode then none
      else if ['d', 's', 'w'].contains c then some (.set, rest)
      else if ['b', 'B', '<', '>'].contains c then some (.place, rest)
      else none

end Part

end StaticAtoms.Log.Pattern
