/-!
# Ranges of code points

Classes of characters are given by the ranges of their code points, in ascending order.
`Text.inRanges` looks a code point up.
-/

namespace StaticAtoms.Text

/-- Whether a number lies in one of the ranges, which are in ascending order. -/
def inRanges (value : Nat) : List (Nat × Nat) → Bool
  | [] => false
  | (first, last) :: rest =>
      if value < first then false
      else if value ≤ last then true
      else inRanges value rest

end StaticAtoms.Text
