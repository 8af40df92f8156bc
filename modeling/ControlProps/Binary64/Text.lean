import ControlProps.Binary64.Shortest

/-!
# Numbers as text

`Binary64.toText` writes a number positionally with the fewest digits that read back, never
with an exponent. `Binary64.ofText?` reads decimal text, with or without point and exponent,
and the words for infinity and for not a number.
-/

namespace ControlProps

/-- The value of a run of decimal digits. -/
def digitsValue (digits : List Char) : Nat :=
  digits.foldl (fun value digit => 10 * value + (digit.toNat - '0'.toNat)) 0

namespace Decimal

/-- Positional notation: no exponent, and a point only where digits follow it. -/
def positional (d : Decimal) : String :=
  let digits := Nat.toDigits 10 d.coefficient
  if 0 ≤ d.exponent then
    String.ofList (digits ++ List.replicate (if d.coefficient = 0 then 0 else d.exponent.toNat) '0')
  else
    let places := (-d.exponent).toNat
    let padded := List.replicate (places + 1 - digits.length) '0' ++ digits
    let whole := padded.length - places
    String.ofList (padded.take whole ++ '.' :: padded.drop whole)

/-- The decimal with the given digits before and after the point, times a power of ten. -/
def ofDigits (whole fraction : List Char) (exponent : Int) : Decimal :=
  ⟨digitsValue (whole ++ fraction), exponent - fraction.length⟩

end Decimal

namespace Binary64

/-- Positional text with the fewest digits that read back; of two such, the upper one. -/
def toText : Binary64 → String
  | nan => "NaN"
  | signed negative rank =>
    let magnitude := if rank.val < infinityRank then (Decimal.shortest .upward rank).positional
      else "inf"
    if negative then "-" ++ magnitude else magnitude

/-- An optional sign and what follows it; `true` stands for minus. -/
def splitSign : List Char → Bool × List Char
  | '-' :: rest => (true, rest)
  | '+' :: rest => (false, rest)
  | rest => (false, rest)

/-- Digits with at most one point, at least one digit in all: the parts and what follows. -/
def splitPoint? (text : List Char) : Option (List Char × List Char × List Char) :=
  let whole := text.takeWhile Char.isDigit
  match text.dropWhile Char.isDigit with
  | '.' :: rest =>
    let fraction := rest.takeWhile Char.isDigit
    if whole.isEmpty && fraction.isEmpty then none
    else some (whole, fraction, rest.dropWhile Char.isDigit)
  | rest => if whole.isEmpty then none else some (whole, [], rest)

/-- A signed run of digits, to the end of the text. -/
def exponent? (text : List Char) : Option Int :=
  let (negative, digits) := splitSign text
  if digits.isEmpty || !digits.all Char.isDigit then none
  else some (if negative then -(digitsValue digits : Int) else digitsValue digits)

/-- An unsigned decimal, to the end of the text. -/
def magnitude? (text : List Char) : Option Decimal :=
  match splitPoint? text with
  | none => none
  | some (whole, fraction, []) => some (Decimal.ofDigits whole fraction 0)
  | some (whole, fraction, mark :: rest) =>
    if mark = 'e' ∨ mark = 'E' then (exponent? rest).map (Decimal.ofDigits whole fraction) else none

/-- Reads a whole text as a number; overflow gives an infinity. -/
def ofText? (text : String) : Option Binary64 :=
  let (negative, unsigned) := splitSign text.toList
  let word := unsigned.map Char.toLower
  if word = ['i', 'n', 'f'] ∨ word = ['i', 'n', 'f', 'i', 'n', 'i', 't', 'y'] then
    some (infinity negative)
  else if word = ['n', 'a', 'n'] then some nan
  else (magnitude? unsigned).map (ofDecimal negative)

end Binary64

end ControlProps
