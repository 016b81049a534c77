import StaticAtoms.Json.Failure
import StaticAtoms.Files.Error

/-!
# Problems and diagnostics

* `Problem` lists everything that the library can object to; `Problem.diagnostic` words it.
* `Diagnostic` is what a user sees: a stable code, a message and perhaps a hint.
-/

namespace StaticAtoms

/-! ## Diagnostics -/

/-- The stable codes. -/
inductive Code where
  | invalidSource
  | duplicateIdent
  | duplicateString
  | invalidIdent
  | hashMismatch
  | lowercaseMismatch
  | malformedUnits
  | fileFailure
  | fingerprintMismatch
deriving DecidableEq

namespace Code

/-- All codes in their order. -/
def all : List Code :=
  [invalidSource, duplicateIdent, duplicateString, invalidIdent, hashMismatch, lowercaseMismatch,
    malformedUnits, fileFailure, fingerprintMismatch]

/-- How a code is written. -/
def text : Code → String
  | invalidSource => "E001"
  | duplicateIdent => "E002"
  | duplicateString => "E003"
  | invalidIdent => "E004"
  | hashMismatch => "E005"
  | lowercaseMismatch => "E006"
  | malformedUnits => "E007"
  | fileFailure => "E008"
  | fingerprintMismatch => "E009"

end Code

/-- A message to the user. -/
structure Diagnostic where
  code : Code
  message : String
  hint : Option String
deriving DecidableEq

namespace Diagnostic

/-- A message with a hint, in place of one that it may have had. -/
def withHint (diagnostic : Diagnostic) (hint : String) : Diagnostic :=
  { diagnostic with hint := some hint }

/-- A message as it is printed: the hint stands on a line of its own. -/
def display (diagnostic : Diagnostic) : String :=
  let first := s!"error[{diagnostic.code.text}]: {diagnostic.message}"
  match diagnostic.hint with
  | none => first
  | some hint => s!"{first}\n  hint: {hint}"

end Diagnostic

/-! ## Problems -/

/-- What is wrong, with everything that the message names. -/
inductive Problem where
  /-- A manifest does not have the right form. -/
  | invalidManifest (cause : Json.Error)
  /-- A generated table does not have the right form. -/
  | invalidTable (cause : Json.Error)
  /-- An identifier does not follow the rules for identifiers. -/
  | invalidIdent (ident : String)
  /-- An earlier declaration has the same identifier. -/
  | duplicateIdent (ident : String)
  /-- An earlier declaration, that of `first`, has the same string. -/
  | duplicateString (ident string first : String)
  /-- A static atom has a string that the table has already. -/
  | reRegistered (ident string : String)
  /-- A static atom does not carry the hash of its string. -/
  | hashMismatch (ident string : String) (carried expected : UInt32)
  /-- A static atom says of its string that it is lowercase, or is not, and is wrong. -/
  | lowercaseMismatch (ident string : String) (carried expected : Bool)
  /-- Half of a surrogate pair stands alone. -/
  | unpairedSurrogate (offset : Nat)
  /-- A file cannot be read or written. -/
  | fileFailure (path : String) (cause : FileError)
  /-- A generated table does not carry the fingerprint of its entries. -/
  | fingerprintMismatch (carried expected : String)
deriving DecidableEq

namespace Problem

/-- The code of a problem. -/
def code : Problem → Code
  | invalidManifest _ => .invalidSource
  | invalidTable _ => .invalidSource
  | invalidIdent _ => .invalidIdent
  | duplicateIdent _ => .duplicateIdent
  | duplicateString _ _ _ => .duplicateString
  | reRegistered _ _ => .duplicateString
  | hashMismatch _ _ _ _ => .hashMismatch
  | lowercaseMismatch _ _ _ _ => .lowercaseMismatch
  | unpairedSurrogate _ => .malformedUnits
  | fileFailure _ _ => .fileFailure
  | fingerprintMismatch _ _ => .fingerprintMismatch

/-- The message of a problem. -/
def message : Problem → String
  | invalidManifest cause =>
      s!"invalid manifest at line {cause.line} column {cause.column}: {cause.message}"
  | invalidTable cause => s!"invalid generated table at line {cause.line}: {cause.message}"
  | invalidIdent ident => s!"`{ident}` is not a valid atom identifier"
  | duplicateIdent ident => s!"identifier `{ident}` is declared more than once"
  | duplicateString ident string first =>
      s!"string {Quoted.quote string} of `{ident}` is already declared by `{first}`"
  | reRegistered ident string =>
      s!"static atom `{ident}` re-registers string {Quoted.quote string}"
  | hashMismatch ident string carried expected =>
      s!"atom `{ident}` ({Quoted.quote string}) carries hash 0x{Hex.word carried}, "
        ++ s!"expected 0x{Hex.word expected}"
  | lowercaseMismatch ident string carried expected =>
      s!"atom `{ident}` ({Quoted.quote string}) is_ascii_lowercase is {carried}, "
        ++ s!"expected {expected}"
  | unpairedSurrogate offset => s!"unpaired surrogate at code unit {offset}"
  | fileFailure path cause => s!"{path}: {cause.message}"
  | fingerprintMismatch carried expected =>
      s!"fingerprint {carried} does not match entries ({expected})"

/-- What the user may do about a problem. -/
def hint? : Problem → Option String
  | invalidManifest _ =>
      some "expected \x7b\"atoms\": [\x7b\"ident\": \"...\", \"string\": \"...\"\x7d, ...]\x7d"
  | invalidIdent _ => some "identifiers match [A-Za-z_][A-Za-z0-9_]*"
  | duplicateString _ _ _ => some "static atoms must have unique strings"
  | hashMismatch _ _ _ _ => some "regenerate the atom table from its manifest"
  | fingerprintMismatch _ _ => some "the table was edited after generation"
  | _ => none

/-- What the user sees of a problem. -/
def diagnostic (problem : Problem) : Diagnostic :=
  ⟨problem.code, problem.message, problem.hint?⟩

end Problem

end StaticAtoms
