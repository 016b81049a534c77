import StaticAtoms.Text.Ranges

/-!
# Blanks

The characters that show as white space (`White_Space`, by Unicode 17.0), and texts without them at
their ends.

* `Text.isBlank` looks a character up; what is white space in ASCII is blank:
  `isBlank_of_isWhitespace`.
* `Text.trim` takes blanks off both ends.
-/

namespace StaticAtoms.Text

/-- The first and last code points of the runs of blanks, in ascending order. -/
def blankRanges : List (Nat × Nat) :=
  [(0x9, 0xD), (0x20, 0x20), (0x85, 0x85), (0xA0, 0xA0), (0x1680, 0x1680), (0x2000, 0x200A),
   (0x2028, 0x2029), (0x202F, 0x202F), (0x205F, 0x205F), (0x3000, 0x3000)]

/-- Whether a character is white space. -/
def isBlank (c : Char) : Bool :=
  inRanges c.toNat blankRanges

/-- Takes blanks off both ends. -/
def trim (s : List Char) : List Char :=
  ((s.dropWhile isBlank).reverse.dropWhile isBlank).reverse

theorem isBlank_of_isWhitespace {c : Char} (white : c.isWhitespace) : isBlank c := by
  simp only [Char.isWhitespace, Bool.or_eq_true, decide_eq_true_eq] at white
  rcases white with ((rfl | rfl) | rfl) | rfl <;> rfl

end StaticAtoms.Text
