import ControlProps.Json.Printer
import ControlProps.Json.Reader

/-!
# What is wrong with decoded data

Data is decoded along the reading of a text, so an error knows both the way to the part that does
not fit and, if there is a text, its place there.
-/

namespace ControlProps

/-- What was found in place of something else. -/
inductive Found where
  | atom (value : Atom)
  | sequence
  | map
  deriving DecidableEq

/-- The words for what was found. -/
def Found.text : Found → String
  | atom .null => "null"
  | atom (.bool value) => s!"boolean `{value}`"
  | atom (.int value) => s!"integer `{value}`"
  | atom (.float value) => s!"floating point `{value.jsonText}`"
  | atom (.string value) => "string " ++ quoted value
  | sequence => "sequence"
  | map => "map"

/-- What a reading shows itself as. -/
def Reading.found : Reading → Found
  | atom value _ _ => .atom value
  | array .. => .sequence
  | object .. => .map
  | broken .. => .atom .null

/-- A number of elements. -/
def elementCount (count : Nat) : String := if count = 1 then "1 element" else s!"{count} elements"

/-- Names in backquotes: one of them, the one or the other, or one of many. -/
def alternativesText : List String → String
  | [name] => s!"`{name}`"
  | [first, second] => s!"`{first}` or `{second}`"
  | names => "one of " ++ ", ".intercalate (names.map fun name => s!"`{name}`")

/-- Why data does not fit. -/
inductive DecodeFault where
  | malformed (fault : Fault)
  | invalidType (found : Found) (expected : String)
  | invalidValue (found : Found) (expected : String)
  | invalidLength (length : Nat) (expected : String)
  | surplusElements (length : Nat)
  | missingField (name : String)
  | duplicateField (name : String)
  | unknownField (name : String) (known : List String)
  | unknownVariant (name : String) (known : List String)
  | invalidPattern
  deriving DecidableEq

/-- The wording of a fault; surplus elements are told otherwise where there is a text. -/
def DecodeFault.message (inText : Bool) : DecodeFault → String
  | malformed fault => fault.message
  | invalidType found expected => s!"invalid type: {found.text}, expected {expected}"
  | invalidValue found expected => s!"invalid value: {found.text}, expected {expected}"
  | invalidLength length expected => s!"invalid length {length}, expected {expected}"
  | surplusElements length =>
    if inText then Fault.trailingCharacters.message
    else s!"invalid length {length}, expected fewer elements in array"
  | missingField name => s!"missing field `{name}`"
  | duplicateField name => s!"duplicate field `{name}`"
  | unknownField name known => s!"unknown field `{name}`, expected {alternativesText known}"
  | unknownVariant name known => s!"unknown variant `{name}`, expected {alternativesText known}"
  | invalidPattern => "regex parse error"

/-- A fault, the way to it, and its place if there is a text. -/
structure DecodeError where
  path : DataPath
  fault : DecodeFault
  position : Option Position
  deriving DecidableEq

namespace DecodeError

/-- The wording of an error without the way to it. -/
def detail (error : DecodeError) : String :=
  error.fault.message error.position.isSome ++ (error.position.map Position.suffix).getD ""

/-- The wording of an error. -/
def message (error : DecodeError) : String :=
  s!"at JSON path {DataPath.toText error.path} → {error.detail}"

/-- The same error seen from one level further up. -/
def under (step : PathStep) (error : DecodeError) : DecodeError :=
  { error with path := step :: error.path }

/-- The error without a place: that of data that is not read from a text. -/
def withoutPlace (error : DecodeError) : DecodeError := { error with position := none }

/-- The error of a text that is not well-formed. -/
def ofFault (fault : FaultOnPath) : DecodeError :=
  ⟨fault.path, .malformed fault.found.fault, some fault.found.position⟩

end DecodeError

end ControlProps
