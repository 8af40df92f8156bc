import ControlProps.Decoding.Basic
import ControlProps.Schema.Emission

/-!
# Tagged form of schemas

In this form every schema says under `kind` what it is and gives its parts by name, or as a list
that begins with the kind. Absent optional parts are left out when it is written, and parts that do
not belong to the kind are ignored when it is read.
-/

namespace ControlProps

/-- The kinds of schemas. -/
inductive SchemaTag where
  | any
  | primitive
  | enumeration
  | pattern
  | range
  | array
  | object
  | anyOf
  | oneOf
  deriving DecidableEq

namespace SchemaTag

/-- All kinds, in the order of their numbers. -/
def all : List SchemaTag :=
  [any, primitive, enumeration, pattern, range, array, object, anyOf, oneOf]

/-- The name of a kind. -/
def name : SchemaTag → String
  | any => "any_value"
  | primitive => "primitive"
  | enumeration => "enum"
  | pattern => "string_pattern"
  | range => "numeric_range"
  | array => "array_of"
  | object => "object_of"
  | anyOf => "any_of"
  | oneOf => "one_of"

/-- The kind of the given name. -/
def ofName? (name : String) : Option SchemaTag := all.find? (fun tag => tag.name == name)

/-- The names of the parts, in the order in which a list gives them. -/
def parts : SchemaTag → List String
  | any => []
  | primitive => ["of"]
  | enumeration => ["values"]
  | pattern => ["pattern"]
  | range => ["min", "max", "integer"]
  | array => ["items", "min_items", "max_items"]
  | object => ["properties", "required", "additional"]
  | anyOf | oneOf => ["branches"]

/-- What a message calls the parts of a kind. -/
def partsName : SchemaTag → String
  | any => "unit variant SchemaNode::AnyValue"
  | primitive => "struct variant SchemaNode::Primitive"
  | enumeration => "struct variant SchemaNode::Enum"
  | pattern => "struct variant SchemaNode::StringPattern"
  | range => "struct variant SchemaNode::NumericRange"
  | array => "struct variant SchemaNode::ArrayOf"
  | object => "struct ObjectSchema"
  | anyOf => "struct variant SchemaNode::AnyOf"
  | oneOf => "struct variant SchemaNode::OneOf"

end SchemaTag

/-- The names of the policies on undeclared keys. -/
def Additional.name : Additional → String
  | allow => "allow"
  | reject => "reject"

/-- The policy of the given name. -/
def Additional.ofName? (name : String) : Option Additional :=
  [allow, reject].find? (fun policy => policy.name == name)

namespace Schema

variable [PatternEngine]

/-- A bound in tagged form, where it is always a float. -/
def floatJson (bound : Binary64) : Json := if bound.isFinite then .float bound else .null

/-- A schema of the given kind with its parts. -/
def tagged (tag : SchemaTag) (parts : List (String × Json)) : Json :=
  .object (("kind", .string tag.name) :: parts)

mutual

/-- The tagged form of a schema. -/
def toTagged : Schema → Json
  | any => tagged .any []
  | primitive kind => tagged .primitive [("of", .string kind.name)]
  | enumeration values => tagged .enumeration [("values", .array (Value.itemsToJson values))]
  | pattern form => tagged .pattern [("pattern", .string form.source)]
  | range min max integer =>
    tagged .range (memberIf "min" floatJson min ++ memberIf "max" floatJson max ++
      [("integer", .bool integer)])
  | array items least most =>
    tagged .array (("items", items.toTagged) ::
      memberIf "min_items" countJson least ++ memberIf "max_items" countJson most)
  | object properties required additional =>
    tagged .object [("properties", .object (propertiesToTagged properties)),
      ("required", Json.ofStrings required), ("additional", .string additional.name)]
  | anyOf branches => tagged .anyOf [("branches", .array (branchesToTagged branches))]
  | oneOf branches => tagged .oneOf [("branches", .array (branchesToTagged branches))]

/-- The tagged forms of branches. -/
def branchesToTagged : List Schema → List Json
  | [] => []
  | branch :: rest => branch.toTagged :: branchesToTagged rest

/-- The tagged forms of properties. -/
def propertiesToTagged : List (String × Schema) → List (String × Json)
  | [] => []
  | (key, schema) :: rest => (key, schema.toTagged) :: propertiesToTagged rest

end

/-- The parts of a schema that are read so far, and their names. -/
structure Parts where
  seen : List String := []
  kind : Option Kind := none
  values : Option (List Value) := none
  pattern : Option Pattern := none
  min : Option Binary64 := none
  max : Option Binary64 := none
  integer : Bool := false
  items : Option Schema := none
  minItems : Option UInt64 := none
  maxItems : Option UInt64 := none
  properties : List (String × Schema) := []
  required : List String := []
  additional : Additional := .allow
  branches : Option (List Schema) := none

/-- The fault of a reading that has not the expected type. -/
def typeFault {α : Type} (reading : Reading) (expected : String) : Except DecodeFault α :=
  .error (.invalidType reading.found expected)

/-- A name out of a list, alone or as the only key of a map to `null` or to an empty map. -/
def decodeName {α : Type} (ofName? : String → Option α) (known : List String) (reading : Reading) :
    Except DecodeFault α :=
  let named (name : String) : Except DecodeFault α :=
    match ofName? name with
    | some value => .ok value
    | none => .error (.unknownVariant name known)
  match reading with
  | .atom (.string name) _ _ => named name
  | .object _ [(key, member)] _ => do
    let value ← named key.text
    match member with
    | .atom .null _ _ | .object _ [] _ => return value
    | other => typeFault other "unit"
  | .object .. => .error (.invalidValue .map "map with a single key")
  | other => typeFault other "string or map"

/-- A kind of schemas, by name or by number. -/
def decodeTag : Reading → Except DecodeFault SchemaTag
  | .atom (.string name) _ _ =>
    match SchemaTag.ofName? name with
    | some tag => .ok tag
    | none => .error (.unknownVariant name (SchemaTag.all.map SchemaTag.name))
  | .atom (.int number) _ _ =>
    if number < 0 then .error (.invalidType (.atom (.int number)) "variant identifier")
    else
      match SchemaTag.all[number.toNat]? with
      | some tag => .ok tag
      | none => .error (.invalidValue (.atom (.int number)) "variant index 0 <= i < 9")
  | other => typeFault other "variant identifier"

/-- A number. -/
def decodeBound : Reading → Except DecodeFault (Option Binary64)
  | .atom .null _ _ => .ok none
  | .atom (.int value) _ _ => .ok (some (Binary64.ofInt value))
  | .atom (.float value) _ _ => .ok (some value)
  | other => typeFault other "f64"

/-- A number of items. -/
def decodeCount : Reading → Except DecodeFault (Option UInt64)
  | .atom .null _ _ => .ok none
  | .atom (.int value) _ _ =>
    if 0 ≤ value ∧ value < UInt64.size then .ok (some (UInt64.ofNat value.toNat))
    else .error (.invalidValue (.atom (.int value)) "usize")
  | other => typeFault other "usize"

/-- A truth value. -/
def decodeFlag : Reading → Except DecodeFault Bool
  | .atom (.bool value) _ _ => .ok value
  | other => typeFault other "a boolean"

/-- The texts of a list. -/
def decodeTexts : List Reading → Except DecodeFault (List String)
  | [] => .ok []
  | .atom (.string text) _ _ :: rest => do
    let texts ← decodeTexts rest
    return text :: texts
  | other :: _ => typeFault other "a string"

/-- A set of names. -/
def decodeNames : Reading → Except DecodeFault (List String)
  | .array _ items _ => (decodeTexts items).map Entries.distinct
  | other => typeFault other "a set"

/-- The values of a list of literals. -/
def decodeLiterals : Reading → Except DecodeFault (List Value)
  | .array _ items _ =>
    match Reading.itemsToJson 0 items with
    | .ok values => .ok (Value.ofItems values)
    | .error fault => .error (.malformed fault.found.fault)
  | other => typeFault other "a sequence"

/-- A pattern. -/
def decodePattern : Reading → Except DecodeFault Pattern
  | .atom (.string source) _ _ =>
    match Pattern.compile? source with
    | some compiled => .ok compiled
    | none => .error .invalidPattern
  | other => typeFault other "a string"

/-- The schema of a kind with the given parts; `missing` is the fault of a part that is needed. -/
def ofParts (tag : SchemaTag) (parts : Parts) (missing : String → DecodeFault) :
    Except DecodeFault Schema :=
  let needed {α : Type} (name : String) (part : Option α) (make : α → Schema) :
      Except DecodeFault Schema :=
    match part with
    | some part => .ok (make part)
    | none => .error (missing name)
  match tag with
  | .any => .ok any
  | .primitive => needed "of" parts.kind primitive
  | .enumeration => needed "values" parts.values enumeration
  | .pattern => needed "pattern" parts.pattern pattern
  | .range => .ok (range parts.min parts.max parts.integer)
  | .array => needed "items" parts.items fun items => array items parts.minItems parts.maxItems
  | .object => .ok (object parts.properties parts.required parts.additional)
  | .anyOf => needed "branches" parts.branches anyOf
  | .oneOf => needed "branches" parts.branches oneOf

/-- The kind among the members of a schema, which must be given once. -/
def decodeTagOf (known : Option SchemaTag) : List (Key × Reading) → Except DecodeFault SchemaTag
  | [] =>
    match known with
    | some tag => .ok tag
    | none => .error (.missingField "kind")
  | (key, member) :: rest =>
    if key.text = "kind" then
      match known with
      | some _ => .error (.duplicateField "kind")
      | none => do
        let tag ← decodeTag member
        decodeTagOf (some tag) rest
    else decodeTagOf known rest

/-- What one reading is as a schema, as branches and as properties; a part asks for one of them. -/
structure Nested where
  schema : Unit → Except DecodeFault Schema
  branches : Unit → Except DecodeFault (List Schema)
  properties : Unit → Except DecodeFault (List (String × Schema))

/-- The parts with the one of the given name added. -/
def decodePart (name : String) (parts : Parts) (reading : Reading) (nested : Nested) :
    Except DecodeFault Parts :=
  let parts := { parts with seen := name :: parts.seen }
  match name with
  | "of" =>
    (decodeName Kind.ofName? (Kind.all.map Kind.name) reading).map ({ parts with kind := some · })
  | "values" => (decodeLiterals reading).map ({ parts with values := some · })
  | "pattern" => (decodePattern reading).map ({ parts with pattern := some · })
  | "min" => (decodeBound reading).map ({ parts with min := · })
  | "max" => (decodeBound reading).map ({ parts with max := · })
  | "integer" => (decodeFlag reading).map ({ parts with integer := · })
  | "items" => (nested.schema ()).map ({ parts with items := some · })
  | "min_items" => (decodeCount reading).map ({ parts with minItems := · })
  | "max_items" => (decodeCount reading).map ({ parts with maxItems := · })
  | "properties" =>
    (nested.properties ()).map fun found => { parts with properties := Entries.ofList found }
  | "required" => (decodeNames reading).map ({ parts with required := · })
  | "additional" =>
    (decodeName Additional.ofName? [Additional.allow.name, Additional.reject.name] reading).map
      ({ parts with additional := · })
  | _ => (nested.branches ()).map ({ parts with branches := some · })

mutual

/-- The schema of a reading that is known to be well-formed. -/
def decodeBuffered : Reading → Except DecodeFault Schema
  | .object _ members _ => do
    let tag ← decodeTagOf none members
    let parts ← decodeParts tag {} members
    ofParts tag parts .missingField
  | .array _ (first :: items) _ => do
    let tag ← decodeTag first
    let parts ← decodeListed tag tag.parts {} items
    let read := min items.length tag.parts.length
    let schema ← ofParts tag parts fun _ =>
      .invalidLength read s!"{tag.partsName} with {elementCount tag.parts.length}"
    if read < items.length then
      throw (.invalidLength items.length s!"{elementCount read} in sequence")
    return schema
  | .array _ [] _ => .error (.missingField "kind")
  | other => typeFault other "internally tagged enum SchemaNode"

/-- The parts that members give; those read so far are in `parts`. -/
def decodeParts (tag : SchemaTag) (parts : Parts) : List (Key × Reading) → Except DecodeFault Parts
  | [] => .ok parts
  | (key, member) :: rest =>
    if tag.parts.contains key.text then
      if parts.seen.contains key.text then .error (.duplicateField key.text)
      else do
        let parts ← decodePart key.text parts member
          ⟨fun _ => decodeBuffered member, fun _ => decodeBranchesOf member,
            fun _ => decodePropertiesOf member⟩
        decodeParts tag parts rest
    else decodeParts tag parts rest

/-- The parts that a list gives in order; those read so far are in `parts`. -/
def decodeListed (tag : SchemaTag) (names : List String) (parts : Parts) :
    List Reading → Except DecodeFault Parts
  | [] => .ok parts
  | item :: rest =>
    match names with
    | [] => .ok parts
    | name :: names => do
      let parts ← decodePart name parts item
        ⟨fun _ => decodeBuffered item, fun _ => decodeBranchesOf item,
          fun _ => decodePropertiesOf item⟩
      decodeListed tag names parts rest

/-- The schemas of a list of branches. -/
def decodeBranchesOf : Reading → Except DecodeFault (List Schema)
  | .array _ items _ => decodeBranches items
  | other => typeFault other "a sequence"

/-- The schemas of a map of properties. -/
def decodePropertiesOf : Reading → Except DecodeFault (List (String × Schema))
  | .object _ members _ => decodeProperties members
  | other => typeFault other "a map"

/-- The schemas of branches. -/
def decodeBranches : List Reading → Except DecodeFault (List Schema)
  | [] => .ok []
  | branch :: rest => do
    let schema ← decodeBuffered branch
    let others ← decodeBranches rest
    return schema :: others

/-- The schemas of properties. -/
def decodeProperties : List (Key × Reading) → Except DecodeFault (List (String × Schema))
  | [] => .ok []
  | (key, member) :: rest => do
    let schema ← decodeBuffered member
    let others ← decodeProperties rest
    return (key.text, schema) :: others

end

/-- Decodes a kind at its place; at the outermost level, kinds have no numbers. -/
def decodePlacedTag : Reading → Except DecodeError SchemaTag
  | .atom (.string name) start stop =>
    (decodeTag (.atom (.string name) start stop)).mapError fun fault => ⟨[], fault, some stop⟩
  | other => .error (other.misfit "variant identifier")

/-- The members up to the end, of which one must be the kind; all must be well-formed. -/
def checkMembers (known : Bool) (ending : Ending) :
    List (Key × Reading) → Except DecodeError Unit
  | [] => do
    let stop ← Reading.checkObjectEnd ending
    if known then return () else throw ⟨[], .missingField "kind", some stop⟩
  | (key, member) :: rest => do
    if key.text = "kind" then
      if known then throw ⟨[], .duplicateField "kind", some key.after⟩
      let _ ← (decodePlacedTag member).mapError (.under (.key key.text))
      checkMembers true ending rest
    else
      let _ ← member.decodeJson.mapError (.under (.key key.text))
      checkMembers known ending rest

/-- The elements up to the end, the first of which must be the kind; all must be well-formed. -/
def checkElements (ending : Ending) : List Reading → Except DecodeError Unit
  | [] => do
    let stop ← Reading.checkListEnd ending
    throw ⟨[], .missingField "kind", some stop⟩
  | first :: rest => do
    let _ ← (decodePlacedTag first).mapError (.under (.index 0))
    let _ ← Reading.decodeElements Reading.decodeJson 1 rest
    let _ ← Reading.checkListEnd ending
    return ()

/--
The schema in tagged form. The parts of a schema are looked at only after all of it is read, so
their errors have neither way nor place.
-/
def ofTagged (reading : Reading) : Except DecodeError Schema := do
  match reading with
  | .object _ members ending => checkMembers false ending members
  | .array _ items ending => checkElements ending items
  | other => throw (other.misfit "internally tagged enum SchemaNode")
  (decodeBuffered reading).mapError fun fault => ⟨[], fault, none⟩

end Schema

end ControlProps
