import ControlProps.Geometry.Coercion
import ControlProps.Validation.Walk

/-!
# Validation

`Schema.check` gives the records of a value or says that it nests too deep; `Schema.validate` always
gives records, the last one for the stop if there is one; `Schema.ensureValid` fails if there are
any.
-/

namespace ControlProps

/-- How a validation is done. -/
structure ValidationOptions where
  /-- Whether undeclared keys are refused where a schema rejects them. -/
  strict : Bool
  /-- How many levels of schemas may lie between the root and a value. -/
  maxDepth : Nat
  deriving DecidableEq

/-- The depth limit where none is asked for. -/
def ValidationOptions.defaultDepth : Nat := 128

/-- Why a bag is not accepted. -/
inductive ContractError where
  | invalid (subject : String) (records : List Record)
  | depthExceeded (stop : DepthExceeded)
  | coercion (cause : CoercionError)

namespace ContractError

/-- The wording of an error, with a line for each record. -/
def message : ContractError → String
  | invalid subject records =>
    s!"{subject} failed validation with {records.length} error(s):\n" ++
      "\n".intercalate (records.map fun record => "  " ++ record.line)
  | depthExceeded stop => stop.message
  | coercion cause => cause.message

/-- The records of an invalid bag; other errors have none. -/
def records : ContractError → List Record
  | invalid _ records => records
  | _ => []

end ContractError

namespace Walk

/-- The records below a root, unless the walk stopped. -/
def check (walk : Walk) (root : String) (limit : Nat) : Except DepthExceeded (List Record) :=
  match walk.stop with
  | some place => .error ⟨renderPath root place, limit⟩
  | none => .ok (walk.findings.map (Finding.record root))

/-- The records below a root, the last of them for the stop, if there is one. -/
def collect (walk : Walk) (root : String) (limit : Nat) : List Record :=
  walk.findings.map (Finding.record root) ++
    walk.stop.toList.map fun place => (DepthExceeded.mk (renderPath root place) limit).record

/-- Fails with what is wrong below a root, if anything is. -/
def ensure (walk : Walk) (root : String) (limit : Nat) : Except ContractError Unit :=
  match walk.check root limit with
  | .error stop => .error (.depthExceeded stop)
  | .ok [] => .ok ()
  | .ok records => .error (.invalid root records)

end Walk

namespace Schema

variable [PatternEngine]

/-- The walk of a value from the root. -/
def walkValue (schema : Schema) (options : ValidationOptions) (value : Value) : Walk :=
  schema.walk options.strict (options.maxDepth + 1) value

/-- The records of a value, or the stop at the depth limit. -/
def check (schema : Schema) (options : ValidationOptions) (root : String) (value : Value) :
    Except DepthExceeded (List Record) :=
  (schema.walkValue options value).check root options.maxDepth

/-- The records of a value. -/
def validate (schema : Schema) (options : ValidationOptions) (root : String) (value : Value) :
    List Record :=
  (schema.walkValue options value).collect root options.maxDepth

/-- Fails if a value has records. -/
def ensureValid (schema : Schema) (options : ValidationOptions) (root : String) (value : Value) :
    Except ContractError Unit :=
  (schema.walkValue options value).ensure root options.maxDepth

end Schema

end ControlProps
