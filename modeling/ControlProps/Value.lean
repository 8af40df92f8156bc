import ControlProps.Json.Printer

/-!
# Property values

The values that the properties of a control take. An integer has 64 bits; it differs from a float
in kind, though both may denote the same number.
-/

namespace ControlProps

/-- The kinds that a value can be asked to have. -/
inductive Kind where
  | null
  | boolean
  | integer
  | number
  | string
  | array
  | object
  deriving DecidableEq

namespace Kind

/-- The name of a kind. -/
def name : Kind → String
  | null => "null"
  | boolean => "boolean"
  | integer => "integer"
  | number => "number"
  | string => "string"
  | array => "array"
  | object => "object"

/-- All kinds. -/
def all : List Kind := [null, boolean, integer, number, string, array, object]

/-- The kind of the given name. -/
def ofName? (name : String) : Option Kind := all.find? (fun kind => kind.name == name)

end Kind

/-- The value of a property. -/
inductive Value where
  | null
  | bool (value : Bool)
  | int (value : Int64)
  | float (value : Binary64)
  | string (value : String)
  | array (items : List Value)
  | object (entries : List (String × Value))
  deriving Inhabited

/-- The properties of one control, in the order in which they were given. -/
abbrev PropertyBag := List (String × Value)

namespace Value

/-- Whether this is `null`. -/
def isNull : Value → Bool
  | null => true
  | _ => false

/-- The kind under which a value is named in messages: a number is a float. -/
def kind : Value → Kind
  | null => .null
  | bool _ => .boolean
  | int _ => .integer
  | float _ => .number
  | string _ => .string
  | array _ => .array
  | object _ => .object

/-- The number nearest to an integer or equal to a float; booleans are not numbers. -/
def number? : Value → Option Binary64
  | int value => some (Binary64.ofInt value.toInt)
  | float value => some value
  | _ => none

/-- The text, if this is a string. -/
def string? : Value → Option String
  | string value => some value
  | _ => none

/-- The items, if this is an array. -/
def array? : Value → Option (List Value)
  | array items => some items
  | _ => none

/-- The entries, if this is an object. -/
def object? : Value → Option PropertyBag
  | object entries => some entries
  | _ => none

/-- An array of floats. -/
def ofNumbers (numbers : List Binary64) : Value := array (numbers.map float)

/-- An integer that fits 64 signed bits, and the nearest float otherwise. -/
def ofInt (value : Int) : Value :=
  if Int64.minValue.toInt ≤ value ∧ value ≤ Int64.maxValue.toInt then int (Int64.ofInt value)
  else float (Binary64.ofInt value)

mutual

/-- The value that a JSON value stands for. -/
def ofJson : Json → Value
  | .null => null
  | .bool value => bool value
  | .int value => ofInt value
  | .float value => float value
  | .string value => string value
  | .array items => array (ofItems items)
  | .object members => object (ofMembers members)

/-- The values of items. -/
def ofItems : List Json → List Value
  | [] => []
  | item :: rest => ofJson item :: ofItems rest

/-- The values of members. -/
def ofMembers : List (String × Json) → List (String × Value)
  | [] => []
  | (key, value) :: rest => (key, ofJson value) :: ofMembers rest

end

mutual

/-- The JSON form of a value; a float that is not finite has none and becomes `null`. -/
def toJson : Value → Json
  | null => .null
  | bool value => .bool value
  | int value => .int value.toInt
  | float value => if value.isFinite then .float value else .null
  | string value => .string value
  | array items => .array (itemsToJson items)
  | object entries => .object (entriesToJson entries)

/-- The JSON forms of items. -/
def itemsToJson : List Value → List Json
  | [] => []
  | item :: rest => item.toJson :: itemsToJson rest

/-- The JSON forms of entries. -/
def entriesToJson : List (String × Value) → List (String × Json)
  | [] => []
  | (key, value) :: rest => (key, value.toJson) :: entriesToJson rest

end

/-- The bag of a JSON object. -/
def bag? (json : Json) : Option PropertyBag := (ofJson json).object?

mutual

/--
Equality up to the order of keys, with numbers compared by the given test. A key of the first
object must be present in the second one, which must have as many keys.
-/
def equalBy (sameNumber : Value → Value → Bool) : Value → Value → Bool
  | null, null => true
  | bool a, bool b => a == b
  | string a, string b => a == b
  | array as, array bs => itemsEqualBy sameNumber as bs
  | object as, object bs => as.length == bs.length && entriesEqualBy sameNumber as bs
  | a, b => sameNumber a b

/-- Equality item by item. -/
def itemsEqualBy (sameNumber : Value → Value → Bool) : List Value → List Value → Bool
  | [], [] => true
  | a :: as, b :: bs => equalBy sameNumber a b && itemsEqualBy sameNumber as bs
  | _, _ => false

/-- Whether each entry has an equal one of its key among the others. -/
def entriesEqualBy (sameNumber : Value → Value → Bool) :
    List (String × Value) → List (String × Value) → Bool
  | [], _ => true
  | (key, a) :: rest, bs =>
    (match bs.lookup key with
      | some b => equalBy sameNumber a b
      | none => false) && entriesEqualBy sameNumber rest bs

end

/-- Numbers of one kind that are numerically equal. -/
def sameNumberAndKind : Value → Value → Bool
  | int a, int b => a == b
  | float a, float b => a.equals b
  | _, _ => false

/-- Numbers of either kind whose nearest floats are equal. -/
def sameNearestNumber (a b : Value) : Bool :=
  match a.number?, b.number? with
  | some x, some y => x.equals y
  | _, _ => false

/-- Equality that tells integers from floats; the order of keys does not matter. -/
def equals : Value → Value → Bool := equalBy sameNumberAndKind

/-- Equality of literals, for which `1` and `1.0` are equal but `true` and `1` are not. -/
def looselyEquals : Value → Value → Bool := equalBy sameNearestNumber

end Value

/-- Whether a value is of a kind; integers are numbers, and booleans are not. -/
def Kind.admits (kind : Kind) (value : Value) : Bool :=
  value.kind = kind || (kind = .number && value.kind = .integer)

end ControlProps
