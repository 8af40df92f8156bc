/-!
# Sets of code points

A set is given by its boundaries in ascending order: the first code point inside, the first one
outside again, and so on.
-/

namespace ControlProps

/-- Whether a code point lies in the set with the given boundaries. -/
def withinBoundaries (codePoint : Nat) : List Nat → Bool
  | inside :: outside :: rest =>
    if codePoint < inside then false
    else codePoint < outside || withinBoundaries codePoint rest
  | [inside] => inside ≤ codePoint
  | [] => false

end ControlProps
