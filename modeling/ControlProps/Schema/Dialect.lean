import ControlProps.Json.Pointer
import ControlProps.Schema.Basic

/-!
# Reading JSON Schema documents

`Schema.ofJson` reads the familiar subset of JSON Schema. On each object `anyOf` decides before
`oneOf`, that before `enum`, and that before `type`; keywords that belong to none of what decides
are ignored. An error points at the first part that cannot be read.
-/

namespace ControlProps

/-- What is wrong with a part of a schema document. -/
inductive SchemaFault where
  | notASchema
  | branchesNotArray
  | enumNotArray
  | typeNotStringOrArray
  | typeNameNotString
  | unknownType (name : String)
  | patternNotString
  | patternInvalid
  | propertiesNotObject
  | requiredNotArray
  | requiredKeyNotString
  | additionalNotBoolean
  | notANumber (keyword : String)
  | notACount (keyword : String)
  deriving DecidableEq

/-- The wording of a fault. -/
def SchemaFault.message : SchemaFault → String
  | notASchema => "schema must be an object or `true`"
  | branchesNotArray => "union branches must be an array"
  | enumNotArray => "`enum` must be an array"
  | typeNotStringOrArray => "`type` must be a string or an array"
  | typeNameNotString => "type names must be strings"
  | unknownType name => s!"unknown type `{name}`"
  | patternNotString => "`pattern` must be a string"
  | patternInvalid => "regex parse error"
  | propertiesNotObject => "`properties` must be an object"
  | requiredNotArray => "`required` must be an array"
  | requiredKeyNotString => "required keys must be strings"
  | additionalNotBoolean => "`additionalProperties` must be a boolean"
  | notANumber keyword => s!"`{keyword}` must be a number"
  | notACount keyword => s!"`{keyword}` must be a non-negative integer"

/-- A fault together with the way to it from the whole document. -/
structure SchemaError where
  pointer : Pointer
  fault : SchemaFault
  deriving DecidableEq

namespace SchemaError

/-- The same error seen from one level further up. -/
def under (token : String) (error : SchemaError) : SchemaError :=
  { error with pointer := token :: error.pointer }

/-- The written pointer; a slash stands for the whole document. -/
def place (error : SchemaError) : String :=
  if error.pointer.isEmpty then "/" else error.pointer.toText

/-- The wording of an error. -/
def message (error : SchemaError) : String :=
  s!"schema error at {error.place}: {error.fault.message}"

end SchemaError

namespace Schema

variable [PatternEngine]

/-- A fault under the given keywords. -/
def faultAt {α : Type} (pointer : Pointer) (fault : SchemaFault) : Except SchemaError α :=
  .error ⟨pointer, fault⟩

/-- The number under a keyword, if there is one other than `null`. -/
def readBound (keyword : String) (members : List (String × Json)) :
    Except SchemaError (Option Binary64) :=
  match members.lookup keyword with
  | none | some .null => .ok none
  | some value =>
    match value.number? with
    | some bound => .ok (some bound)
    | none => faultAt [keyword] (.notANumber keyword)

/-- The count under a keyword, if there is one other than `null`. -/
def readCount (keyword : String) (members : List (String × Json)) :
    Except SchemaError (Option UInt64) :=
  match members.lookup keyword with
  | none | some .null => .ok none
  | some value =>
    match value.count? with
    | some count => .ok (some count)
    | none => faultAt [keyword] (.notACount keyword)

/-- The numbers of a kind, between bounds if there are any. -/
def readNumeric (integer : Bool) (members : List (String × Json)) : Except SchemaError Schema := do
  let min ← readBound "minimum" members
  let max ← readBound "maximum" members
  if min.isNone ∧ max.isNone then return primitive (if integer then .integer else .number)
  return range min max integer

/-- The strings, of a pattern if there is one. -/
def readString (members : List (String × Json)) : Except SchemaError Schema :=
  match members.lookup "pattern" with
  | none => .ok (primitive .string)
  | some (.string source) =>
    match Pattern.compile? source with
    | some compiled => .ok (pattern compiled)
    | none => faultAt ["pattern"] .patternInvalid
  | some _ => faultAt ["pattern"] .patternNotString

/-- The required keys of a list, the first of which stands at the given index. -/
def readRequiredKeys (index : Nat) : List Json → Except SchemaError (List String)
  | [] => .ok []
  | .string key :: rest => do
    let keys ← readRequiredKeys (index + 1) rest
    return key :: keys
  | _ :: _ => faultAt ["required", toString index] .requiredKeyNotString

/-- The required keys without repetition. -/
def readRequired (members : List (String × Json)) : Except SchemaError (List String) :=
  match members.lookup "required" with
  | none => .ok []
  | some (.array keys) => (readRequiredKeys 0 keys).map Entries.distinct
  | some _ => faultAt ["required"] .requiredNotArray

/-- What is said about undeclared keys; a schema for them is taken but not enforced. -/
def readAdditional (members : List (String × Json)) : Except SchemaError Additional :=
  match members.lookup "additionalProperties" with
  | none | some (.bool true) | some (.object _) => .ok .allow
  | some (.bool false) => .ok .reject
  | some _ => faultAt ["additionalProperties"] .additionalNotBoolean

/-- The kinds that a list of names allows; the first name stands at the given index. -/
def readKinds (index : Nat) : List Json → Except SchemaError (List Schema)
  | [] => .ok []
  | .string name :: rest =>
    match Kind.ofName? name with
    | some kind => do
      let others ← readKinds (index + 1) rest
      return primitive kind :: others
    | none => faultAt ["type", toString index] (.unknownType name)
  | _ :: _ => faultAt ["type", toString index] .typeNameNotString

mutual

/-- The schema that a document describes. -/
def ofJson : Json → Except SchemaError Schema
  | .bool true => .ok any
  | .object members =>
    match readBranchesAt "anyOf" members, readBranchesAt "oneOf" members,
        members.lookup "enum", members.lookup "type" with
    | some branches, _, _, _ => branches.map anyOf
    | _, some branches, _, _ => branches.map oneOf
    | _, _, some (.array values), _ => .ok (enumeration (Value.ofItems values))
    | _, _, some _, _ => faultAt ["enum"] .enumNotArray
    | _, _, _, none => .ok any
    | _, _, _, some (.array names) => (readKinds 0 names).map anyOf
    | _, _, _, some (.string name) =>
      match Kind.ofName? name with
      | none => faultAt ["type"] (.unknownType name)
      | some .number => readNumeric false members
      | some .integer => readNumeric true members
      | some .string => readString members
      | some .array => do
        let items ← readItems members
        let least ← readCount "minItems" members
        let most ← readCount "maxItems" members
        return array items least most
      | some .object => do
        let properties ← readProperties members
        let required ← readRequired members
        let additional ← readAdditional members
        return object properties required additional
      | some kind => .ok (primitive kind)
    | _, _, _, some _ => faultAt ["type"] .typeNotStringOrArray
  | _ => faultAt [] .notASchema

/-- The branches under a union keyword, if it is present. -/
def readBranchesAt (keyword : String) :
    List (String × Json) → Option (Except SchemaError (List Schema))
  | [] => none
  | (key, value) :: rest =>
    if key = keyword then some ((readBranches value).mapError (.under keyword))
    else readBranchesAt keyword rest

/-- The branches of a union. -/
def readBranches : Json → Except SchemaError (List Schema)
  | .array branches => readBranchList 0 branches
  | _ => faultAt [] .branchesNotArray

/-- The branches of a list, the first of which stands at the given index. -/
def readBranchList (index : Nat) : List Json → Except SchemaError (List Schema)
  | [] => .ok []
  | branch :: rest => do
    let schema ← (ofJson branch).mapError (.under (toString index))
    let others ← readBranchList (index + 1) rest
    return schema :: others

/-- What describes the items of an array; every value, if nothing does. -/
def readItems : List (String × Json) → Except SchemaError Schema
  | [] => .ok any
  | (key, value) :: rest =>
    if key = "items" then (ofJson value).mapError (.under "items") else readItems rest

/-- The declared properties; none, if the keyword is absent. -/
def readProperties : List (String × Json) → Except SchemaError (List (String × Schema))
  | [] => .ok []
  | (key, value) :: rest =>
    if key = "properties" then (readDeclared value).mapError (.under "properties")
    else readProperties rest

/-- The properties that an object declares. -/
def readDeclared : Json → Except SchemaError (List (String × Schema))
  | .object members => readDeclaredMembers members
  | _ => faultAt [] .propertiesNotObject

/-- The properties that members declare. -/
def readDeclaredMembers : List (String × Json) → Except SchemaError (List (String × Schema))
  | [] => .ok []
  | (key, value) :: rest => do
    let schema ← (ofJson value).mapError (.under key)
    let others ← readDeclaredMembers rest
    return (key, schema) :: others

end

end Schema

end ControlProps
