/-!
# Styled text

On a terminal that shows colours, words are set off by a control sequence before and behind them.
-/

namespace ControlProps

/-- A way to set off words. -/
inductive Style where
  | boldGreen
  | boldRed
  | green
  | red
  | yellow
  | faint
  deriving DecidableEq

namespace Style

/-- The sequence with the given codes. -/
def sequence (codes : String) : String := "\x1b[" ++ codes ++ "m"

/-- The sequence that begins a style. -/
def opening : Style → String
  | boldGreen => sequence "1;32"
  | boldRed => sequence "1;31"
  | green => sequence "32"
  | red => sequence "31"
  | yellow => sequence "33"
  | faint => sequence "2"

/-- The sequence that ends every style. -/
def closing : String := sequence "0"

/-- Words in a style, if colours are shown; the style goes on behind an end within the words. -/
def apply (style : Style) (colored : Bool) (words : String) : String :=
  if colored then
    style.opening ++ words.replace closing (closing ++ style.opening) ++ closing
  else words

end Style

end ControlProps
