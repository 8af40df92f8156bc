import ControlProps.Text.CodePoints

/-!
# White space

The characters with the property White_Space, and texts without white space at their ends.
-/

namespace ControlProps

/-- The boundaries of the white space characters. -/
def blankBoundaries : List Nat :=
  [0x9, 0xE, 0x20, 0x21, 0x85, 0x86, 0xA0, 0xA1, 0x1680, 0x1681, 0x2000, 0x200B, 0x2028, 0x202A,
   0x202F, 0x2030, 0x205F, 0x2060, 0x3000, 0x3001]

/-- A white space character. -/
def isBlank (c : Char) : Bool := withinBoundaries c.toNat blankBoundaries

/-- The characters without white space at either end. -/
def trimBlanks (text : List Char) : List Char :=
  ((text.dropWhile isBlank).reverse.dropWhile isBlank).reverse

/-- The text without white space at either end. -/
def trimmed (text : String) : String := String.ofList (trimBlanks text.toList)

end ControlProps
