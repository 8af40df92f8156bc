import ControlProps.Text.Blank
import ControlProps.Text.Digit
import ControlProps.Text.Word

/-!
# Expressions and what they match

An expression describes stretches of text. A place in a text is the number of characters before it.
`Expression.advance` gives all places that matches from the given places can end at, so no choice
between alternatives has to be undone.
-/

namespace ControlProps

/-- A set of characters. -/
inductive CharSet where
  | single (c : Char)
  | range (low high : Char)
  | digit
  | word
  | blank
  | none
  | complement (set : CharSet)
  | union (a b : CharSet)
  | ignoringCase (set : CharSet)
  deriving DecidableEq

namespace CharSet

/-- Whether a character is in a set. -/
def contains : CharSet → Char → Bool
  | single d, c => c == d
  | range low high, c => low ≤ c && c ≤ high
  | digit, c => isDecimalDigit c
  | word, c => isWordChar c
  | blank, c => isBlank c
  | none, _ => false
  | complement set, c => !set.contains c
  | union a b, c => a.contains c || b.contains c
  | ignoringCase set, c => set.contains c || set.contains c.toLower || set.contains c.toUpper

/-- The set with the other case of each letter of ASCII that is named in it. -/
def foldCase : CharSet → CharSet
  | complement set => complement set.foldCase
  | union a b => union a.foldCase b.foldCase
  | set => ignoringCase set

end CharSet

/-- A condition on a place between two characters. -/
inductive Anchor where
  | textStart
  | textEnd
  | lineStart
  | lineEnd
  | wordBoundary
  | noWordBoundary
  deriving DecidableEq

/-- An expression. -/
inductive Expression where
  | empty
  | one (set : CharSet)
  | anchor (anchor : Anchor)
  | sequence (a b : Expression)
  | alternatives (a b : Expression)
  | repeated (body : Expression) (least : Nat) (most : Option Nat)
  deriving DecidableEq

namespace Places

/-- The character before a place. -/
def before? (text : Array Char) : Nat → Option Char
  | 0 => none
  | place + 1 => text[place]?

/-- Past one character of the set, if one is ahead. -/
def past? (text : Array Char) (set : CharSet) (place : Nat) : Option Nat :=
  if text[place]?.any set.contains then some (place + 1) else none

/-- Whether a word begins or ends at a place. -/
def isWordBoundary (text : Array Char) (place : Nat) : Bool :=
  (before? text place).any isWordChar != text[place]?.any isWordChar

/-- Whether a condition holds at a place. -/
def satisfies (text : Array Char) (place : Nat) : Anchor → Bool
  | .textStart => place == 0
  | .textEnd => text.size ≤ place
  | .lineStart => (before? text place).all (· == '\n')
  | .lineEnd => text[place]?.all (· == '\n')
  | .wordBoundary => isWordBoundary text place
  | .noWordBoundary => !isWordBoundary text place

/-- Those of the places that are new. -/
def without (known places : List Nat) : List Nat := places.filter fun place => !known.contains place

/-- All places that any number of steps leads to; a round takes a step from those that are new. -/
def closure (step : List Nat → List Nat) : Nat → List Nat → List Nat → List Nat
  | 0, reached, _ => reached
  | rounds + 1, reached, recent =>
    match without reached (step recent) with
    | [] => reached
    | more => closure step rounds (reached ++ more) more

/-- A step taken a number of times. -/
def steps (step : List Nat → List Nat) : Nat → List Nat → List Nat
  | 0, places => places
  | count + 1, places => steps step count (step places)

/-- A step taken at most a number of times. -/
def stepsUpTo (step : List Nat → List Nat) : Nat → List Nat → List Nat
  | 0, places => places
  | count + 1, places => places ++ without places (stepsUpTo step count (step places))

end Places

namespace Expression

/-- The places where matches that begin at one of the given places can end. -/
def advance (text : Array Char) : Expression → List Nat → List Nat
  | empty, places => places
  | one set, places => places.filterMap (Places.past? text set)
  | anchor condition, places => places.filter (Places.satisfies text · condition)
  | sequence a b, places => b.advance text (a.advance text places)
  | alternatives a b, places =>
    let first := a.advance text places
    first ++ Places.without first (b.advance text places)
  | repeated body least none, places =>
    let begun := Places.steps (body.advance text) least places
    Places.closure (body.advance text) text.size begun begun
  | repeated body least (some most), places =>
    Places.stepsUpTo (body.advance text) (most - least)
      (Places.steps (body.advance text) least places)

/-- Whether a match begins at a place. -/
def matchesAt (expression : Expression) (text : Array Char) (place : Nat) : Bool :=
  !(expression.advance text [place]).isEmpty

/-- Where the first match in a text begins. -/
def find? (expression : Expression) (text : String) : Option Nat :=
  let chars := text.toList.toArray
  (List.range (chars.size + 1)).find? (expression.matchesAt chars)

end Expression

end ControlProps
