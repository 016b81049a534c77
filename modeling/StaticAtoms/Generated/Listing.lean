import StaticAtoms.Fingerprint

/-!
# Listings

The listing of static atoms has a line `STATIC_ATOM(ident, u"string", length, 0xhash, lowercase)` per
atom, for inclusion by a preprocessor.  All characters of a listing are printable ASCII.
-/

namespace StaticAtoms.Listing

/-- The spelling of a character in a literal.  Characters outside of printable ASCII are named by
their code points. -/
def spell (c : Char) : List Char :=
  match c with
  | '"' => ['\\', '"']
  | '\\' => ['\\', '\\']
  | _ =>
      if ' ' ≤ c ∧ c ≤ '~' then [c]
      else if c.toNat ≤ 0xFFFF then ['\\', 'u'] ++ Hex.fixedUpper 4 c.toNat
      else ['\\', 'U'] ++ Hex.fixedUpper 8 c.toNat

/-- A string between the quotes of a literal. -/
def literal (string : String) : List Char :=
  string.toList.flatMap spell

/-- The line of an atom. -/
def line (atom : StaticAtom) : List Char :=
  "STATIC_ATOM(".toList ++ atom.ident.toList ++ ", u\"".toList ++ literal atom.string
    ++ "\", ".toList ++ Nat.toDigits 10 (Utf16.length atom.string)
    ++ ", 0x".toList ++ Hex.fixed 8 atom.hash.toNat
    ++ ", ".toList ++ (if atom.lowercase then "true" else "false").toList ++ ")".toList

/-- The comments in front of the atoms. -/
def header (atoms : List StaticAtom) : List (List Char) :=
  ["// Generated by atomtab. Do not edit.".toList,
    "// fingerprint: ".toList ++ (Fingerprint.ofAtoms atoms).hex.toList,
    "// atoms: ".toList ++ Nat.toDigits 10 atoms.length]

/-- All lines of a listing. -/
def lines (atoms : List StaticAtom) : List (List Char) :=
  header atoms ++ atoms.map line

/-- The listing of the atoms, with every line ended by a line feed. -/
def render (atoms : List StaticAtom) : String :=
  String.ofList ((lines atoms).flatMap fun line => line ++ ['\n'])

end StaticAtoms.Listing
