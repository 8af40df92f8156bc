import ControlProps.Schema.Basic

/-!
# Schemas as JSON Schema documents

`Schema.toJson` writes a schema in the dialect that `Schema.ofJson` reads. Bounds are written as
integers where they are integers of 64 bits.
-/

namespace ControlProps

/-- A bound: an integer if it is one of 64 bits or the next one above, cut to what 64 bits hold. -/
def Binary64.boundJson (bound : Binary64) : Json :=
  match bound.integer? with
  | some value =>
    let least := Int64.minValue.toInt
    let greatest := Int64.maxValue.toInt
    if least ≤ value ∧ value ≤ greatest + 1 then .int (min value greatest) else .float bound
  | none => if bound.isFinite then .float bound else .null

namespace Schema

variable [PatternEngine]

/-- A member that is present only if there is something to write. -/
def memberIf {α : Type} (key : String) (write : α → Json) (value : Option α) :
    List (String × Json) :=
  value.toList.map fun value => (key, write value)

/-- A number of items. -/
def countJson (count : UInt64) : Json := .int count.toNat

mutual

/-- The document that describes a schema. -/
def toJson : Schema → Json
  | any => .object []
  | primitive kind => .object [("type", .string kind.name)]
  | enumeration values => .object [("enum", .array (Value.itemsToJson values))]
  | pattern form => .object [("type", .string "string"), ("pattern", .string form.source)]
  | range min max integer =>
    .object (("type", .string (if integer then "integer" else "number")) ::
      memberIf "minimum" Binary64.boundJson min ++ memberIf "maximum" Binary64.boundJson max)
  | array items least most =>
    .object (("type", .string "array") :: ("items", items.toJson) ::
      memberIf "minItems" countJson least ++ memberIf "maxItems" countJson most)
  | object properties required additional =>
    .object ([("type", .string "object"), ("properties", .object (propertiesToJson properties)),
      ("additionalProperties", .bool (additional = .allow))] ++
      if required.isEmpty then [] else [("required", Json.ofStrings required)])
  | anyOf branches => .object [("anyOf", .array (branchesToJson branches))]
  | oneOf branches => .object [("oneOf", .array (branchesToJson branches))]

/-- The documents of branches. -/
def branchesToJson : List Schema → List Json
  | [] => []
  | branch :: rest => branch.toJson :: branchesToJson rest

/-- The documents of properties. -/
def propertiesToJson : List (String × Schema) → List (String × Json)
  | [] => []
  | (key, schema) :: rest => (key, schema.toJson) :: propertiesToJson rest

end

end Schema

end ControlProps
