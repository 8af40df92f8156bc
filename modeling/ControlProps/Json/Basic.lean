import ControlProps.Binary64.Text
import ControlProps.Entries

/-!
# JSON values

Numbers keep whether they were written as integers, and objects keep the order of their members.
-/

namespace ControlProps

/-- A JSON value. -/
inductive Json where
  | null
  | bool (value : Bool)
  | int (value : Int)
  | float (value : Binary64)
  | string (value : String)
  | array (items : List Json)
  | object (members : List (String × Json))
  deriving Inhabited

namespace Json

/-- The value of the first member with the given key, if this is an object that has one. -/
def field? (key : String) : Json → Option Json
  | object members => members.lookup key
  | _ => none

/-- The text, if this is a string. -/
def string? : Json → Option String
  | string value => some value
  | _ => none

/-- The members, if this is an object. -/
def object? : Json → Option (List (String × Json))
  | object members => some members
  | _ => none

/-- The nearest number, if this is a number. -/
def number? : Json → Option Binary64
  | int value => some (Binary64.ofInt value)
  | float value => some value
  | _ => none

/-- The count, if this is a non-negative integer of 64 bits. -/
def count? : Json → Option UInt64
  | int value => if 0 ≤ value ∧ value < UInt64.size then some (UInt64.ofNat value.toNat) else none
  | _ => none

/-- A list of strings. -/
def ofStrings (texts : List String) : Json := array (texts.map string)

mutual

/-- Whether a value has a JSON text that can be read with at most `levels` nested parts. -/
def isReadable (levels : Nat) : Json → Bool
  | float value => value.isFinite
  | array items =>
    match levels with
    | 0 => false
    | levels + 1 => areReadable levels items
  | object members =>
    match levels with
    | 0 => false
    | levels + 1 => areReadableMembers levels members
  | _ => true

/-- Whether each item can be read. -/
def areReadable (levels : Nat) : List Json → Bool
  | [] => true
  | item :: rest => item.isReadable levels && areReadable levels rest

/-- Whether the value of each member can be read. -/
def areReadableMembers (levels : Nat) : List (String × Json) → Bool
  | [] => true
  | (_, value) :: rest => value.isReadable levels && areReadableMembers levels rest

end

end Json

end ControlProps
