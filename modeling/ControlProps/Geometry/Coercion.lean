import ControlProps.Value
import ControlProps.Text.Blank

/-!
# Coercion of numbers

Geometry may be given loosely: a number may come as a text. Coercion stops at the first value that
it cannot make sense of, and says what was wrong with it.
-/

namespace ControlProps

/-- What a coercion is about. -/
inductive Quantity where
  | dimension
  | offset
  | padding
  | scale
  | skew
  | colorMatrix
  | frame
  deriving DecidableEq

/-- The name of a quantity in messages. -/
def Quantity.name : Quantity → String
  | dimension => "dimension"
  | offset => "offset"
  | padding => "padding"
  | scale => "scale"
  | skew => "skew"
  | colorMatrix => "color_matrix"
  | frame => "frame"

/-- How many numbers a list must hold. -/
inductive Arity where
  | pair
  | shorthand
  | matrix
  deriving DecidableEq

/-- The words for a number of values. -/
def Arity.text : Arity → String
  | pair => "at least 2"
  | shorthand => "1, 2, or 4"
  | matrix => "20"

/-- Of which keys a map must have one. -/
inductive NeededKeys where
  | axis
  | edge
  deriving DecidableEq

/-- The words for needed keys. -/
def NeededKeys.text : NeededKeys → String
  | axis => "x or y"
  | edge => "at least one edge"

/-- Why a value could not be coerced. -/
inductive CoercionError where
  | empty (what : Quantity)
  | invalid (what : Quantity) (found : String)
  | wrongKind (what : Quantity) (found : Kind)
  | cardinality (what : Quantity) (expected : Arity) (found : Nat)
  | missingKeys (what : Quantity) (expected : NeededKeys)
  | unknownKeys (what : Quantity) (keys : List String)
  | atProperty (key : String) (cause : CoercionError)
  deriving DecidableEq

/-- The wording of a coercion error. -/
def CoercionError.message : CoercionError → String
  | empty what => s!"{what.name} cannot be empty"
  | invalid what found => s!"invalid {what.name}: {quoted found}"
  | wrongKind what found => s!"invalid {what.name} type: {found.name}"
  | cardinality what expected found => s!"{what.name} must have {expected.text} values, got {found}"
  | missingKeys what expected => s!"{what.name} must include {expected.text}"
  | unknownKeys what keys => s!"unknown {what.name} keys: " ++ ", ".intercalate keys
  | atProperty key cause => s!"prop `{key}`: " ++ cause.message

namespace Value

/-- The number that a number is or that a text, its outer white space aside, spells. -/
def toNumber (what : Quantity) : Value → Except CoercionError Binary64
  | int value => .ok (Binary64.ofInt value.toInt)
  | float value => .ok value
  | string text =>
    match Binary64.ofText? (trimmed text) with
    | some number => .ok number
    | none => .error (.invalid what text)
  | other => .error (.wrongKind what other.kind)

/-- The numbers of a list, or the error of the first item that is none. -/
def toNumbers (what : Quantity) : List Value → Except CoercionError (List Binary64)
  | [] => .ok []
  | item :: rest => do
    let number ← item.toNumber what
    let numbers ← toNumbers what rest
    return number :: numbers

/-- The number under a key, if the key is present. -/
def numberAt (what : Quantity) (key : String) (entries : PropertyBag) :
    Except CoercionError (Option Binary64) :=
  match entries.lookup key with
  | none => .ok none
  | some value => (value.toNumber what).map some

/-- An object of the numbers that are present. -/
def ofNumberEntries (entries : List (String × Option Binary64)) : Value :=
  object (entries.filterMap fun (key, number) => number.map fun number => (key, float number))

end Value

end ControlProps
