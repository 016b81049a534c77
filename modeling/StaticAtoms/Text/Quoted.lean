import StaticAtoms.Text.Hex
import StaticAtoms.Text.Printable

/-!
# Quoted texts

How a text is shown in messages: between double quotes, with everything escaped that would not be
seen as itself.  `Quoted.quote` is the only entry point.
-/

namespace StaticAtoms.Quoted

/-- The spelling of a character between double quotes. -/
def spell (c : Char) : List Char :=
  match c with
  | '"' => ['\\', '"']
  | '\\' => ['\\', '\\']
  | '\x00' => ['\\', '0']
  | '\t' => ['\\', 't']
  | '\r' => ['\\', 'r']
  | '\n' => ['\\', 'n']
  | _ =>
      if Text.isPrintable c then [c]
      else ['\\', 'u', '\x7b'] ++ Hex.shortest c.toNat ++ ['\x7d']

/-- A text between double quotes. -/
def quote (text : String) : String :=
  String.ofList (['"'] ++ text.toList.flatMap spell ++ ['"'])

end StaticAtoms.Quoted
