import ControlProps.Geometry.Coercion

/-!
# Paddings

A padding keeps the shape in which it was given: one number, a list of one, two or four numbers,
or a map from edges to numbers.
-/

namespace ControlProps

/-- The room left free at the four edges of a box. -/
inductive Padding where
  | uniform (all : Binary64)
  | one (all : Binary64)
  | two (vertical horizontal : Binary64)
  | four (top right bottom left : Binary64)
  | edges (left top right bottom : Option Binary64)
  deriving DecidableEq

namespace Padding

/-- The room at top, right, bottom and left; an edge that is not given has none. -/
def toEdges : Padding → Binary64 × Binary64 × Binary64 × Binary64
  | uniform all | one all => (all, all, all, all)
  | two vertical horizontal => (vertical, horizontal, vertical, horizontal)
  | four top right bottom left => (top, right, bottom, left)
  | edges left top right bottom =>
    (top.getD .zero, right.getD .zero, bottom.getD .zero, left.getD .zero)

/-- The value of a padding, in its own shape. -/
def toValue : Padding → Value
  | uniform all => .float all
  | one all => .ofNumbers [all]
  | two vertical horizontal => .ofNumbers [vertical, horizontal]
  | four top right bottom left => .ofNumbers [top, right, bottom, left]
  | edges left top right bottom =>
    .ofNumberEntries [("left", left), ("top", top), ("right", right), ("bottom", bottom)]

/-- The padding that a list of numbers is shorthand for. -/
def ofNumbers? : List Binary64 → Option Padding
  | [all] => some (one all)
  | [vertical, horizontal] => some (two vertical horizontal)
  | [top, right, bottom, left] => some (four top right bottom left)
  | _ => none

/-- The padding that a value stands for; `null` stands for none. -/
def ofValue : Value → Except CoercionError (Option Padding)
  | .null => .ok none
  | .int value => .ok (some (uniform (Binary64.ofInt value.toInt)))
  | .float value => .ok (some (uniform value))
  | .array items =>
    if [1, 2, 4].contains items.length then (Value.toNumbers .padding items).map ofNumbers?
    else .error (.cardinality .padding .shorthand items.length)
  | .object entries => do
    let left ← Value.numberAt .padding "left" entries
    let top ← Value.numberAt .padding "top" entries
    let right ← Value.numberAt .padding "right" entries
    let bottom ← Value.numberAt .padding "bottom" entries
    if left.isNone ∧ top.isNone ∧ right.isNone ∧ bottom.isNone then
      throw (.missingKeys .padding .edge)
    return some (edges left top right bottom)
  | other => .error (.wrongKind .padding other.kind)

end Padding

end ControlProps
