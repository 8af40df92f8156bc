import ControlProps.Geometry.Coercion

/-!
# Dimensions

A dimension is a number of logical pixels or a length with a unit. As a text it is a number without
exponent, followed by at most one unit suffix.
-/

namespace ControlProps

/-- The units of a length. -/
inductive LengthUnit where
  | percent
  | px
  | vw
  | vh
  | vmin
  | vmax
  deriving DecidableEq

namespace LengthUnit

/-- The suffix that stands for a unit. -/
def suffix : LengthUnit → String
  | percent => "%"
  | px => "px"
  | vw => "vw"
  | vh => "vh"
  | vmin => "vmin"
  | vmax => "vmax"

/-- The name of a unit. -/
def name : LengthUnit → String
  | percent => "percent"
  | unit => unit.suffix

/-- All units. -/
def all : List LengthUnit := [percent, px, vw, vh, vmin, vmax]

/-- The unit with the given suffix. -/
def ofSuffix? (suffix : List Char) : Option LengthUnit :=
  all.find? (fun unit => unit.suffix.toList == suffix)

end LengthUnit

/-- A dimension. -/
inductive Dimension where
  | points (value : Binary64)
  | length (magnitude : Binary64) (unit : LengthUnit)
  deriving DecidableEq

namespace Dimension

/-- The text of a dimension. -/
def toText : Dimension → String
  | points value => value.toText
  | length magnitude unit => magnitude.toText ++ unit.suffix

/-- The value of a dimension: a number without unit, else its text. -/
def toValue : Dimension → Value
  | points value => .float value
  | dimension => .string dimension.toText

/-- The digits and the point that begin a text, and the rest; a point needs digits behind it. -/
def splitMagnitude? (text : List Char) : Option (Decimal × List Char) :=
  let whole := text.takeWhile Char.isDigit
  match text.dropWhile Char.isDigit with
  | '.' :: rest =>
    let fraction := rest.takeWhile Char.isDigit
    if fraction.isEmpty then none
    else some (Decimal.ofDigits whole fraction 0, rest.dropWhile Char.isDigit)
  | rest => if whole.isEmpty then none else some (Decimal.ofDigits whole [] 0, rest)

/-- The dimension that a text spells. -/
def ofText? (text : List Char) : Option Dimension :=
  let (negative, unsigned) := Binary64.splitSign text
  match splitMagnitude? unsigned with
  | none => none
  | some (magnitude, []) => some (points (Binary64.ofDecimal negative magnitude))
  | some (magnitude, suffix) =>
    (LengthUnit.ofSuffix? suffix).map (length (Binary64.ofDecimal negative magnitude))

/-- The dimension that a value stands for; `null` stands for none. -/
def ofValue : Value → Except CoercionError (Option Dimension)
  | .null => .ok none
  | .int value => .ok (some (points (Binary64.ofInt value.toInt)))
  | .float value => .ok (some (points value))
  | .string text =>
    match trimBlanks text.toList with
    | [] => .error (.empty .dimension)
    | chars =>
      match ofText? chars with
      | some dimension => .ok (some dimension)
      | none => .error (.invalid .dimension text)
  | other => .error (.wrongKind .dimension other.kind)

end Dimension

end ControlProps
