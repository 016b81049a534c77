import StaticAtoms.Json.Blank
import StaticAtoms.Text.Hex
import StaticAtoms.Text.Utf16

/-!
# Texts between quotes

* `Json.readText` reads a text behind its opening quote and undoes the escapes.
* `Json.skipText` passes over one, looking only at the form of the escapes.

Both leave what follows the closing quote; `length_readText` and `length_skipText` say that it is
shorter.
-/

namespace StaticAtoms.Json

/-! ## Escapes -/

/-- The character behind a backslash that stands for one character. -/
def shortEscape? : Char → Option Char
  | '"' => some '"'
  | '\\' => some '\\'
  | '/' => some '/'
  | 'b' => some '\x08'
  | 'f' => some '\x0c'
  | 'n' => some '\n'
  | 'r' => some '\r'
  | 't' => some '\t'
  | _ => none

/-- The unit that four digits denote. -/
def unit? (a b c d : Char) : Option UInt16 := do
  return UInt16.ofNat
    (((16 * (← Hex.digit? a) + (← Hex.digit? b)) * 16 + (← Hex.digit? c)) * 16 + (← Hex.digit? d))

/-- Reads four hexadecimal digits as a code unit.  Four bytes count as read when they are no
digits, and all bytes when there are fewer. -/
def readUnit : List Char → Except Failure (UInt16 × List Char)
  | a :: b :: c :: d :: rest =>
      match unit? a b c d with
      | some unit => .ok (unit, rest)
      | none => .error ⟨.badEscape, bytesLeft (a :: b :: c :: d :: rest) - 4⟩
  | s =>
      if bytesLeft s < 4 then .error ⟨.endInText, 0⟩
      else .error ⟨.badEscape, bytesLeft s - 4⟩

/-- Reads the second half of a surrogate pair, which is an escape of its own. -/
def readLow (high : UInt16) (s : List Char) : Except Failure (Char × List Char) :=
  match expect .endInText .brokenPair ['\\', 'u'] s with
  | .error failure => .error failure
  | .ok s =>
      match readUnit s with
      | .error failure => .error failure
      | .ok (low, rest) =>
          if Utf16.isLow low then .ok (Utf16.combine high low, rest)
          else .error (.here .loneSurrogate rest)

/-- Reads the character that an escape with hexadecimal digits denotes, behind its `u`. -/
def readUnicode (s : List Char) : Except Failure (Char × List Char) :=
  match readUnit s with
  | .error failure => .error failure
  | .ok (unit, rest) =>
      if Utf16.isLow unit then .error (.here .loneSurrogate rest)
      else if Utf16.isHigh unit then readLow unit rest
      else .ok (Char.ofNat unit.toNat, rest)

/-- Reads the character that an escape denotes, behind its backslash. -/
def readEscape : List Char → Except Failure (Char × List Char)
  | [] => .error (.here .endInText [])
  | 'u' :: rest => readUnicode rest
  | c :: rest =>
      match shortEscape? c with
      | some denoted => .ok (denoted, rest)
      | none => .error (.next .badEscape (c :: rest))

/-! ## Whole texts -/

/-- Reads one character of a text, or `none` at the closing quote. -/
def readChar : List Char → Except Failure (Option Char × List Char)
  | [] => .error (.here .endInText [])
  | '"' :: rest => .ok (none, rest)
  | '\\' :: rest =>
      match readEscape rest with
      | .error failure => .error failure
      | .ok (c, rest) => .ok (some c, rest)
  | c :: rest =>
      if c < ' ' then .error (.here .controlCharacter rest) else .ok (some c, rest)

theorem length_readUnit {s rest : List Char} {unit : UInt16}
    (read : readUnit s = .ok (unit, rest)) : rest.length < s.length := by
  unfold readUnit at read
  grind

theorem length_readLow {high : UInt16} {s rest : List Char} {c : Char}
    (read : readLow high s = .ok (c, rest)) : rest.length < s.length := by
  unfold readLow at read
  grind [→ length_expect, → length_readUnit]

theorem length_readUnicode {s rest : List Char} {c : Char}
    (read : readUnicode s = .ok (c, rest)) : rest.length < s.length := by
  unfold readUnicode at read
  grind [→ length_readUnit, → length_readLow]

theorem length_readEscape {s rest : List Char} {c : Char}
    (read : readEscape s = .ok (c, rest)) : rest.length < s.length := by
  unfold readEscape at read
  grind [→ length_readUnicode]

theorem length_readChar {s rest : List Char} {c : Option Char}
    (read : readChar s = .ok (c, rest)) : rest.length < s.length := by
  unfold readChar at read
  grind [→ length_readEscape]

/-- Reads the rest of a text, of which the characters of `seen` are read, the last one first. -/
def readChars (seen s : List Char) : Except Failure (List Char × List Char) :=
  match _ : readChar s with
  | .error failure => .error failure
  | .ok (none, rest) => .ok (seen.reverse, rest)
  | .ok (some c, rest) => readChars (c :: seen) rest
termination_by s.length
decreasing_by exact length_readChar (by assumption)

/-- Reads a text behind its opening quote. -/
def readText (s : List Char) : Except Failure (String × List Char) :=
  match readChars [] s with
  | .error failure => .error failure
  | .ok (chars, rest) => .ok (String.ofList chars, rest)

theorem length_readChars {seen s chars rest : List Char}
    (read : readChars seen s = .ok (chars, rest)) : rest.length < s.length := by
  fun_induction readChars seen s <;> grind [→ length_readChar]

theorem length_readText {s rest : List Char} {text : String}
    (read : readText s = .ok (text, rest)) : rest.length < s.length := by
  unfold readText at read
  grind [→ length_readChars]

/-! ## Texts that nobody looks at -/

/-- Passes over one character of a text; the flag says whether it was the closing quote. -/
def skipChar : List Char → Except Failure (Bool × List Char)
  | [] => .error (.here .endInText [])
  | '"' :: rest => .ok (true, rest)
  | '\\' :: [] => .error (.here .endInText [])
  | '\\' :: 'u' :: rest =>
      match readUnit rest with
      | .error failure => .error failure
      | .ok (_, rest) => .ok (false, rest)
  | '\\' :: c :: rest =>
      if (shortEscape? c).isSome then .ok (false, rest)
      else .error (.next .badEscape (c :: rest))
  | c :: rest =>
      if c < ' ' then .error (.here .controlCharacter (c :: rest)) else .ok (false, rest)

theorem length_skipChar {s rest : List Char} {closed : Bool}
    (read : skipChar s = .ok (closed, rest)) : rest.length < s.length := by
  unfold skipChar at read
  grind [→ length_readUnit]

/-- Passes over a text behind its opening quote. -/
def skipText (s : List Char) : Except Failure (List Char) :=
  match _ : skipChar s with
  | .error failure => .error failure
  | .ok (true, rest) => .ok rest
  | .ok (false, rest) => skipText rest
termination_by s.length
decreasing_by exact length_skipChar (by assumption)

theorem length_skipText {s rest : List Char} (read : skipText s = .ok rest) :
    rest.length < s.length := by
  fun_induction skipText s <;> grind [→ length_skipChar]

end StaticAtoms.Json
