import ControlProps.Geometry.Coercion

/-!
# Transforms

Scales and skews are one number, a list of numbers, or a map of which only the axis keys are
coerced. A color matrix is the name of a preset or a list of twenty numbers.
-/

namespace ControlProps

/-- The two transforms along the axes. -/
inductive AxisTransform where
  | scale
  | skew
  deriving DecidableEq

/-- What messages call a transform. -/
def AxisTransform.quantity : AxisTransform → Quantity
  | scale => .scale
  | skew => .skew

/-- The keys whose values are coerced to numbers. -/
def AxisTransform.keys : AxisTransform → List String
  | scale => ["x", "y", "scale_x", "scale_y"]
  | skew => ["x", "y", "skew_x", "skew_y"]

/-- The amount of a scale or skew. -/
inductive AxisAmount where
  | uniform (all : Binary64)
  | list (numbers : List Binary64)
  | map (entries : PropertyBag)

namespace AxisAmount

/-- The value of an amount, in its own shape. -/
def toValue : AxisAmount → Value
  | uniform all => .float all
  | list numbers => .ofNumbers numbers
  | map entries => .object entries

/-- The entries with the values of axis keys coerced. -/
def coerceAxes (transform : AxisTransform) : PropertyBag → Except CoercionError PropertyBag
  | [] => .ok []
  | (key, value) :: rest => do
    let coerced ← if transform.keys.contains key
      then (value.toNumber transform.quantity).map .float
      else .ok value
    let others ← coerceAxes transform rest
    return (key, coerced) :: others

/-- The amount that a value stands for; `null` stands for none. -/
def ofValue (transform : AxisTransform) : Value → Except CoercionError (Option AxisAmount)
  | .null => .ok none
  | .int value => .ok (some (uniform (Binary64.ofInt value.toInt)))
  | .float value => .ok (some (uniform value))
  | .array items => (Value.toNumbers transform.quantity items).map (some ∘ list)
  | .object entries => (coerceAxes transform entries).map (some ∘ map)
  | other => .error (.wrongKind transform.quantity other.kind)

end AxisAmount

/-- How many numbers a color matrix has: four rows of five. -/
def colorMatrixLength : Nat := 20

/-- A transform of colors. -/
inductive ColorMatrix where
  | named (name : String)
  | matrix (entries : List Binary64) (full : entries.length = colorMatrixLength)
  deriving DecidableEq

namespace ColorMatrix

/-- The value of a color matrix. -/
def toValue : ColorMatrix → Value
  | named name => .string name
  | matrix entries _ => .ofNumbers entries

/-- The color matrix that a value stands for; `null` stands for none. -/
def ofValue : Value → Except CoercionError (Option ColorMatrix)
  | .null => .ok none
  | .string name => .ok (some (named name))
  | .array items => do
    let entries ← Value.toNumbers .colorMatrix items
    if full : entries.length = colorMatrixLength then return some (matrix entries full)
    else throw (.cardinality .colorMatrix .matrix items.length)
  | other => .error (.wrongKind .colorMatrix other.kind)

end ColorMatrix

end ControlProps
