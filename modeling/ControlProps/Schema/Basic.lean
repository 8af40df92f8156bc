import ControlProps.Pattern.Basic
import ControlProps.Value

/-!
# Schemas

A schema says which values a property may take. Properties and required keys keep their order, for
it is the order of the records that a validation gives.
-/

namespace ControlProps

/-- What an object schema says about keys that it does not declare. -/
inductive Additional where
  | allow
  | reject
  deriving DecidableEq

variable [PatternEngine]

/-- A description of values. -/
inductive Schema where
  /-- Every value. -/
  | any
  /-- The values of a kind. -/
  | primitive (kind : Kind)
  /-- The values that are loosely equal to a literal. -/
  | enumeration (values : List Value)
  /-- The strings that begin with a match. -/
  | pattern (pattern : Pattern)
  /-- The numbers, or only the integers, between bounds that are included. -/
  | range (min max : Option Binary64) (integer : Bool)
  /-- The arrays of a number of items that are each described. -/
  | array (items : Schema) (minItems maxItems : Option UInt64)
  /-- The objects with declared properties, some of them required. -/
  | object (properties : List (String × Schema)) (required : List String) (additional : Additional)
  /-- What at least one branch describes. -/
  | anyOf (branches : List Schema)
  /-- What exactly one branch describes. -/
  | oneOf (branches : List Schema)
  deriving Inhabited

namespace Schema

/-- The numbers. -/
def number : Schema := primitive .number

/-- The integers. -/
def integer : Schema := primitive .integer

/-- The strings. -/
def string : Schema := primitive .string

/-- The booleans. -/
def boolean : Schema := primitive .boolean

/-- An object schema that declares properties, requires none and allows others. -/
def openObject (properties : List (String × Schema)) : Schema := object properties [] .allow

/-- The declared properties, if this is an object schema. -/
def properties? : Schema → Option (List (String × Schema))
  | object properties _ _ => some properties
  | _ => none

/-- The required keys, if this is an object schema. -/
def required? : Schema → Option (List String)
  | object _ required _ => some required
  | _ => none

/-- What is said about undeclared keys, if this is an object schema. -/
def additional? : Schema → Option Additional
  | object _ _ additional => some additional
  | _ => none

/-- The schema that an object schema declares for a key. -/
def property? (schema : Schema) (key : String) : Option Schema :=
  schema.properties?.bind (·.lookup key)

/-- Numeric equality of bounds that may be absent. -/
def sameBound : Option Binary64 → Option Binary64 → Bool
  | none, none => true
  | some a, some b => a.equals b
  | _, _ => false

/-- The same names in any order, none of them repeated. -/
def sameNames (as bs : List String) : Bool := as.length == bs.length && as.all bs.contains

mutual

/--
Equality of schemas. Patterns are compared by their texts, bounds and literals numerically and by
kind; the order of properties and of required keys does not matter, that of branches does.
-/
def equals : Schema → Schema → Bool
  | any, any => true
  | primitive a, primitive b => a = b
  | enumeration as, enumeration bs => Value.itemsEqualBy Value.sameNumberAndKind as bs
  | pattern a, pattern b => a.source == b.source
  | range min max integer, range min' max' integer' =>
    sameBound min min' && sameBound max max' && integer == integer'
  | array items least most, array items' least' most' =>
    items.equals items' && least == least' && most == most'
  | object properties required additional, object properties' required' additional' =>
    properties.length == properties'.length && propertiesEqual properties properties' &&
      sameNames required required' && additional = additional'
  | anyOf as, anyOf bs => branchesEqual as bs
  | oneOf as, oneOf bs => branchesEqual as bs
  | _, _ => false

/-- Equality branch by branch. -/
def branchesEqual : List Schema → List Schema → Bool
  | [], [] => true
  | a :: as, b :: bs => a.equals b && branchesEqual as bs
  | _, _ => false

/-- Whether each property has an equal one of its key among the others. -/
def propertiesEqual : List (String × Schema) → List (String × Schema) → Bool
  | [], _ => true
  | (key, a) :: rest, bs =>
    (match bs.lookup key with
      | some b => a.equals b
      | none => false) && propertiesEqual rest bs

end

end Schema

end ControlProps
