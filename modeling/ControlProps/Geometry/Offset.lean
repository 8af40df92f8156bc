import ControlProps.Geometry.Coercion

/-!
# Offsets and alignments

An offset keeps the shape in which it was given: a list, of which the first two numbers count, or
a map with one axis or both. An alignment is an offset or the name of a place.
-/

namespace ControlProps

/-- A shift in two directions. -/
inductive Offset where
  | pair (x y : Binary64)
  | axes (x y : Option Binary64)
  deriving DecidableEq

namespace Offset

/-- The horizontal shift, if it is given. -/
def x? : Offset → Option Binary64
  | pair x _ => some x
  | axes x _ => x

/-- The vertical shift, if it is given. -/
def y? : Offset → Option Binary64
  | pair _ y => some y
  | axes _ y => y

/-- The value of an offset, in its own shape. -/
def toValue : Offset → Value
  | pair x y => .ofNumbers [x, y]
  | axes x y => .ofNumberEntries [("x", x), ("y", y)]

/-- The offset that a value stands for; `null` stands for none. -/
def ofValue : Value → Except CoercionError (Option Offset)
  | .null => .ok none
  | .array (first :: second :: _) => do
    let x ← first.toNumber .offset
    let y ← second.toNumber .offset
    return some (pair x y)
  | .array items => .error (.cardinality .offset .pair items.length)
  | .object entries => do
    let x ← Value.numberAt .offset "x" entries
    let y ← Value.numberAt .offset "y" entries
    if x.isNone ∧ y.isNone then throw (.missingKeys .offset .axis)
    return some (axes x y)
  | other => .error (.wrongKind .offset other.kind)

end Offset

/-- Where something is put in the room that it has. -/
inductive Alignment where
  | named (name : String)
  | offset (offset : Offset)
  deriving DecidableEq

namespace Alignment

/-- The value of an alignment. -/
def toValue : Alignment → Value
  | named name => .string name
  | offset shift => shift.toValue

/-- The alignment that a value stands for; names are taken as they are. -/
def ofValue : Value → Except CoercionError (Option Alignment)
  | .string name => .ok (some (named name))
  | other => (Offset.ofValue other).map (·.map offset)

end Alignment

end ControlProps
