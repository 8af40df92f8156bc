import ControlProps.Catalog.Basic
import ControlProps.Decoding.Basic
import ControlProps.Schema.Dialect

/-!
# Catalog documents

A catalog document holds under `controls` a map from types to controls, each of them with an
optional `schema` and optional `hints`. Other fields are refused. A document, or a control in it,
may also be given as the list of its fields. All schemas are read when the document is.
-/

namespace ControlProps

/-- A control as a document gives it, its schema not read yet. -/
structure ControlDocument where
  schema : Json
  hints : List String

/-- The controls of a document by type. -/
abbrev CatalogDocument := List (String × ControlDocument)

namespace Reading

/-- The schema of a control that gives none. -/
def defaultSchema : Json := .object [("type", .string "object")]

/--
The end of a list that should hold nothing more. What follows the last field is told as trailing,
whether it is a further element or no comma.
-/
def checkNoMore (length : Nat) (rest : List Reading) (ending : Ending) : Except DecodeError Unit :=
  match rest, ending with
  | extra :: _, _ =>
    let start := extra.start
    .error ⟨[], .surplusElements length, some ⟨start.line, start.column + 1⟩⟩
  | [], .closed _ => .ok ()
  | [], .broken ⟨.listCommaOrEndExpected, position⟩ =>
    .error (.ofFault ⟨[], ⟨.trailingCharacters, position⟩⟩)
  | [], .broken found => .error (.ofFault ⟨[], found⟩)

/-- The hints of a control. -/
def decodeHints (reading : Reading) : Except DecodeError (List String) :=
  reading.decodeList decodeText

/-- The fields of a control from here to the end of its members. -/
def decodeControlMembers (schema : Option Json) (hints : Option (List String)) (ending : Ending) :
    List (Key × Reading) → Except DecodeError ControlDocument
  | [] => do
    let _ ← checkObjectEnd ending
    return ⟨schema.getD defaultSchema, hints.getD []⟩
  | (key, member) :: rest =>
    match key.text with
    | "schema" =>
      if schema.isSome then .error ⟨[], .duplicateField "schema", some key.after⟩
      else do
        let value ← member.decodeJson.mapError (.under (.key "schema"))
        decodeControlMembers (some value) hints ending rest
    | "hints" =>
      if hints.isSome then .error ⟨[], .duplicateField "hints", some key.after⟩
      else do
        let names ← member.decodeHints.mapError (.under (.key "hints"))
        decodeControlMembers schema (some names) ending rest
    | name => .error ⟨[.key name], .unknownField name ["schema", "hints"], some key.after⟩

/-- A control. -/
def decodeControl : Reading → Except DecodeError ControlDocument
  | object _ members ending => decodeControlMembers none none ending members
  | array _ [] ending => do
    let _ ← checkListEnd ending
    return ⟨defaultSchema, []⟩
  | array _ [schema] ending => do
    let value ← schema.decodeJson.mapError (.under (.index 0))
    let _ ← checkListEnd ending
    return ⟨value, []⟩
  | array _ (schema :: hints :: rest) ending => do
    let value ← schema.decodeJson.mapError (.under (.index 0))
    let names ← hints.decodeHints.mapError (.under (.index 1))
    checkNoMore (rest.length + 2) rest ending
    return ⟨value, names⟩
  | other => .error (other.misfit "struct ControlDocument")

/-- The controls of a document from here to the end of its members. -/
def decodeCatalogMembers (controls : Option CatalogDocument) (ending : Ending) :
    List (Key × Reading) → Except DecodeError CatalogDocument
  | [] => do
    let stop ← checkObjectEnd ending
    match controls with
    | some controls => return controls
    | none => throw ⟨[], .missingField "controls", some stop⟩
  | (key, member) :: rest =>
    match key.text with
    | "controls" =>
      if controls.isSome then .error ⟨[], .duplicateField "controls", some key.after⟩
      else do
        let found ← (member.decodeMap decodeControl).mapError (.under (.key "controls"))
        decodeCatalogMembers (some found) ending rest
    | name => .error ⟨[.key name], .unknownField name ["controls"], some key.after⟩

/-- A catalog document. -/
def decodeCatalog : Reading → Except DecodeError CatalogDocument
  | object _ members ending => decodeCatalogMembers none ending members
  | array _ [] ending => do
    let stop ← checkListEnd ending
    throw ⟨[], .invalidLength 0 "struct CatalogDocument with 1 element", some stop⟩
  | array _ (controls :: rest) ending => do
    let found ← (controls.decodeMap decodeControl).mapError (.under (.index 0))
    checkNoMore (rest.length + 1) rest ending
    return found
  | other => .error (other.misfit "struct CatalogDocument")

end Reading

/-- Why a document gives no catalog. -/
inductive CatalogError where
  | decode (cause : DecodeError)
  | schema (control : String) (cause : SchemaError)
  deriving DecidableEq

/-- The wording of a catalog error. -/
def CatalogError.message : CatalogError → String
  | decode cause => s!"catalog document error {cause.message}"
  | schema control cause => s!"control `{control}`: {cause.message}"

namespace Catalog

variable [PatternEngine]

/-- The catalog with the controls of a document added, their schemas read. -/
def addDocument (catalog : Catalog) : CatalogDocument → Except CatalogError Catalog
  | [] => .ok catalog
  | (type, control) :: rest => do
    let schema ← (Schema.ofJson control.schema).mapError (.schema type)
    addDocument (catalog.insert type ⟨schema, control.hints⟩) rest

/-- The catalog of a document. -/
def ofDocument (document : CatalogDocument) : Except CatalogError Catalog :=
  addDocument empty document

/-- The catalog of the document that begins a text; what follows it is left alone. -/
def ofText (text : String) : Except CatalogError Catalog := do
  let document ← (decodeFirst Reading.decodeCatalog text).mapError .decode
  ofDocument document

/-- The catalog of a document that is not read from a text. -/
def ofJson (json : Json) : Except CatalogError Catalog := do
  let document ← (decodeValue Reading.decodeCatalog json).mapError .decode
  ofDocument document

end Catalog

end ControlProps
