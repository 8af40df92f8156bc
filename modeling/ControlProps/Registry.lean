import ControlProps.Catalog.Basic
import ControlProps.Geometry.Normalizer
import ControlProps.Schema.Composition
import ControlProps.SharedSchemas
import ControlProps.Validation.Check

/-!
# Registries

A registry composes the schemas of the controls of a catalog on first use and keeps them. Its
operations are steps of a state; the answer of each depends on the catalog alone.
-/

namespace ControlProps

variable [SharedPatterns]

/-- A catalog, the depth limit of validations, and the schemas composed so far. -/
structure Registry where
  catalog : Catalog
  maxDepth : Nat
  cache : List (String × Schema)

namespace Registry

/-- A registry that has composed nothing yet. -/
def ofCatalog (catalog : Catalog) (maxDepth : Nat) : Registry := ⟨catalog, maxDepth, []⟩

/-- How this registry validates. -/
def options (registry : Registry) (strict : Bool) : ValidationOptions := ⟨strict, registry.maxDepth⟩

/-- The schema of a control: its own one over the shared layers and its hints. -/
def composed (control : Control) : Schema :=
  control.schema.compose
    [SharedSchemas.layout, SharedSchemas.universal, SharedSchemas.catchAll control.hints]

/-- The path of the properties of a control. -/
def propsPath (type : String) : String := type ++ ".props"

/-- The schema of a control, if the catalog has it. -/
def schemaFor (type : String) : StateM Registry (Option Schema) := do
  let registry ← get
  match registry.cache.lookup type with
  | some schema => return some schema
  | none =>
    match registry.catalog.control? type with
    | none => return none
    | some control =>
      let schema := composed control
      set { registry with cache := registry.cache ++ [(type, schema)] }
      return some schema

/-- The number of schemas that are kept. -/
def cachedCount : StateM Registry Nat := return (← get).cache.length

/-- Composes the schemas of all controls and says how many are kept. -/
def warm : StateM Registry Nat := do
  for type in (← get).catalog.types do
    let _ ← schemaFor type
  cachedCount

/-- The walk of a bag as the properties of a control; an unknown control has none. -/
def walkProps (type : String) (strict : Bool) (bag : PropertyBag) :
    StateM Registry (Option Walk) := do
  let schema ← schemaFor type
  let limit := (← get).maxDepth
  return schema.map fun schema => schema.walkBag strict limit bag

/-- The records of the properties of a control; an unknown control has none. -/
def validateProps (type : String) (strict : Bool) (bag : PropertyBag) :
    StateM Registry (List Record) := do
  let walk ← walkProps type strict bag
  let limit := (← get).maxDepth
  return match walk with
    | some walk => walk.collect (propsPath type) limit
    | none => []

/-- Fails if the properties of a control have records; an unknown control accepts all. -/
def ensureValidProps (type : String) (strict : Bool) (bag : PropertyBag) :
    StateM Registry (Except ContractError Unit) := do
  let walk ← walkProps type strict bag
  let limit := (← get).maxDepth
  return match walk with
    | some walk => walk.ensure (propsPath type) limit
    | none => .ok ()

/-- The path of the geometry of a child inside a frame. -/
def framePath : String := "frame"

/-- The records of the geometry of a child inside a frame. -/
def validateFrameChild (registry : Registry) (strict : Bool) (frame : PropertyBag) : List Record :=
  (SharedSchemas.frameChild.walkBag strict registry.maxDepth frame).collect framePath
    registry.maxDepth

/-- Fails if the geometry of a child inside a frame has records. -/
def ensureValidFrameChild (registry : Registry) (strict : Bool) (frame : PropertyBag) :
    Except ContractError Unit :=
  (SharedSchemas.frameChild.walkBag strict registry.maxDepth frame).ensure framePath
    registry.maxDepth

/-- The bag in canonical shape, if that is accepted as the properties of a control. -/
def prepareProps (type : String) (strict : Bool) (bag : PropertyBag) :
    StateM Registry (Except ContractError PropertyBag) := do
  match PropertyBag.coerce bag with
  | .error cause => return .error (.coercion cause)
  | .ok coerced => return (← ensureValidProps type strict coerced).map fun _ => coerced

/-- A description for those who look into a running program. -/
def description (registry : Registry) : String :=
  "SchemaRegistry \x7b controls: [" ++ ", ".intercalate (registry.catalog.types.map quoted) ++
    s!"], cached: {registry.cache.length}, max_depth: {registry.maxDepth} " ++ "\x7d"

end Registry

end ControlProps
