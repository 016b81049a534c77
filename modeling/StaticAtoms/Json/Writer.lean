import StaticAtoms.Text.Hex

/-!
# Writing JSON

Values are written from the inside out: `Json.writeList` and `Json.writeObject` join values that are
already written.  A `Json.Layout` says where lines are broken; both layouts differ in blanks alone.
-/

namespace StaticAtoms.Json

/-! ## Texts -/

/-- The spelling of a character between quotes. -/
def spell (c : Char) : List Char :=
  match c with
  | '"' => ['\\', '"']
  | '\\' => ['\\', '\\']
  | '\x08' => ['\\', 'b']
  | '\x0c' => ['\\', 'f']
  | '\n' => ['\\', 'n']
  | '\r' => ['\\', 'r']
  | '\t' => ['\\', 't']
  | _ => if c < ' ' then ['\\', 'u'] ++ Hex.fixed 4 c.toNat else [c]

/-- A text between quotes. -/
def writeText (text : String) : List Char :=
  '"' :: text.toList.flatMap spell ++ ['"']

/-- A number. -/
def writeNat (value : Nat) : List Char :=
  Nat.toDigits 10 value

/-- A truth value. -/
def writeFlag : Bool → List Char
  | true => ['t', 'r', 'u', 'e']
  | false => ['f', 'a', 'l', 's', 'e']

/-! ## Layouts -/

/-- The blanks behind a colon, and those in front of an item or a closing bracket at a depth. -/
structure Layout where
  gap : List Char
  newline : (depth : Nat) → List Char

namespace Layout

/-- No blanks. -/
def compact : Layout where
  gap := []
  newline _ := []

/-- Every item on a line of its own, indented by two spaces for each bracket around it. -/
def pretty : Layout where
  gap := [' ']
  newline depth := '\n' :: List.replicate (2 * depth) ' '

end Layout

/-! ## Lists and objects -/

/-- Items between two brackets that stand at the given depth. -/
def writeBetween (layout : Layout) (depth : Nat) (opening closing : Char) :
    List (List Char) → List Char
  | [] => [opening, closing]
  | first :: others =>
      let newline := layout.newline (depth + 1)
      [opening] ++ newline ++ first ++ others.flatMap (fun item => ',' :: newline ++ item)
        ++ layout.newline depth ++ [closing]

/-- A list of written values. -/
def writeList (layout : Layout) (depth : Nat) (values : List (List Char)) : List Char :=
  writeBetween layout depth '[' ']' values

/-- An object of keys with written values. -/
def writeObject (layout : Layout) (depth : Nat) (members : List (String × List Char)) :
    List Char :=
  writeBetween layout depth '\x7b' '\x7d'
    (members.map fun (key, value) => writeText key ++ ':' :: layout.gap ++ value)

end StaticAtoms.Json
