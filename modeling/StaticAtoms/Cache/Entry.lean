import StaticAtoms.Bytes.LittleEndian
import StaticAtoms.Bytes.Sha256
import StaticAtoms.Generated.Format

/-!
# Cache entries

A cache entry is a file with one rendered output.  It begins with the bytes `ATMC`, the format
version, the tool version behind its length, the key, and the length of the output, which follows.

* `Cache.keyInput` and `Cache.key` tell what output an entry is for.
* `Cache.Entry.encode` is the content of an entry's file.
* `Cache.Header.read` reads the fields in front of the output from any bytes, and `Cache.Entry.load`
  the output; `Cache.Miss` says why there is none.
-/

namespace StaticAtoms.Cache

/-! ## Keys -/

/-- The bytes that a key is the hash of. -/
def keyInput (manifest : Bytes) (format : OutputFormat) (tool : String) : Bytes :=
  manifest ++ Text.utf8 format.name ++ Text.utf8 tool

/-- The key of the output of a manifest in a format, made by a version of the tool. -/
def key (manifest : Bytes) (format : OutputFormat) (tool : String) : Digest :=
  Sha256.digest (keyInput manifest format tool)

/-! ## Writing -/

/-- The bytes that every entry begins with. -/
def magic : Bytes := [0x41, 0x54, 0x4D, 0x43]

/-- The version of the format of entries. -/
def formatVersion : Nat := 1

/-- Lengths of texts stay below this number, the first that takes more than four bytes. -/
def lengthLimit : Nat := 0x100000000

/-- A text behind its length in four bytes, if the length fits there. -/
def encodeText? (text : String) : Option Bytes :=
  let bytes := Text.utf8 text
  if bytes.length < lengthLimit then some (LittleEndian.encode 4 bytes.length ++ bytes) else none

/-- An output and what it was made from. -/
structure Entry where
  tool : String
  key : Digest
  output : String
deriving DecidableEq

namespace Entry

/-- The bytes in front of the tool version. -/
def start : Bytes :=
  magic ++ LittleEndian.encode 2 formatVersion

/-- The content of an entry's file.  When a text is too long for its length field, what stands in
front of it is all that can be written. -/
def encode (entry : Entry) : Except Bytes Bytes :=
  match encodeText? entry.tool with
  | none => .error start
  | some tool =>
      let front := start ++ tool ++ entry.key.bytes
      match encodeText? entry.output with
      | none => .error front
      | some output => .ok (front ++ output)

end Entry

/-! ## Reading -/

/-- Why there is no output to be had from a file. -/
inductive Miss where
  /-- The file cannot be read, is cut off in front of the output, or is for something else. -/
  | absent
  /-- The file begins with other bytes. -/
  | notAnEntry
  /-- The output would be longer than the file. -/
  | tooLong
  /-- The output would be longer than what follows the header. -/
  | truncated
deriving DecidableEq

/-- What a miss says about the file at a path. -/
def Miss.warning? (path : String) : Miss → Option String
  | absent => none
  | notAnEntry => some s!"ignoring {path}: not an atomtab cache file"
  | tooLong => some s!"ignoring {path}: output length exceeds file size"
  | truncated => some s!"truncated cache entry {path}"

/-- Splits a number of bytes off. -/
def take? (count : Nat) (bytes : Bytes) : Option (Bytes × Bytes) :=
  if count ≤ bytes.length then some (bytes.take count, bytes.drop count) else none

/-- Splits a number off. -/
def number? (width : Nat) (bytes : Bytes) : Option (Nat × Bytes) := do
  let (field, rest) ← take? width bytes
  return (LittleEndian.decode field, rest)

/-- Splits a text behind its length off.  A length above the limit is refused before the text is looked
at. -/
def text? (limit : Nat) (bytes : Bytes) : Option (String × Bytes) := do
  let (length, rest) ← number? 4 bytes
  if limit < length then none
  else
    let (field, rest) ← take? length rest
    return (← Text.ofUtf8? field, rest)

/-- Splits a digest off. -/
def digest? (bytes : Bytes) : Option (Digest × Bytes) := do
  let (field, rest) ← take? 32 bytes
  return (← Digest.ofBytes? field, rest)

/-- The fields in front of the output. -/
structure Header where
  formatVersion : Nat
  tool : String
  key : Digest
  outputLength : Nat
deriving DecidableEq

namespace Header

/-- The fields behind the magic bytes, with a limit for the length of the tool version. -/
def fields? (limit : Nat) (bytes : Bytes) : Option (Header × Bytes) := do
  let (formatVersion, rest) ← number? 2 bytes
  let (tool, rest) ← text? limit rest
  let (key, rest) ← digest? rest
  let (outputLength, rest) ← number? 4 rest
  return (⟨formatVersion, tool, key, outputLength⟩, rest)

/-- Reads a header, and gives what follows it.  No text must be said to be longer than the whole file. -/
def read (content : Bytes) : Except Miss (Header × Bytes) :=
  match take? 4 content with
  | none => .error .absent
  | some (first, rest) =>
      if first ≠ magic then .error .notAnEntry
      else
        match fields? content.length rest with
        | none => .error .absent
        | some (header, rest) =>
            if content.length < header.outputLength then .error .tooLong else .ok (header, rest)

end Header

namespace Entry

/-- The output in a file, if the file is an entry for the given key and tool version. -/
def load (content : Bytes) (key : Digest) (tool : String) : Except Miss String :=
  match Header.read content with
  | .error miss => .error miss
  | .ok (header, rest) =>
      if header.formatVersion ≠ Cache.formatVersion ∨ header.tool ≠ tool ∨ header.key ≠ key then
        .error .absent
      else
        match take? header.outputLength rest with
        | none => .error .truncated
        | some (output, _) =>
            match Text.ofUtf8? output with
            | none => .error .absent
            | some text => .ok text

end Entry

end StaticAtoms.Cache
