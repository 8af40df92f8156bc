import ControlProps.Schema.Basic

/-!
# Records of a validation

A record says what is wrong at one place of a value. Places are lists of steps; only their written
form depends on the name of the root.
-/

namespace ControlProps

/-- One step into a value. -/
inductive Step where
  | key (key : String)
  | index (index : Nat)
  deriving DecidableEq

/-- The written form of a place one step further in; no dot begins a path. -/
def Step.extend (path : String) : Step → String
  | key name => if path.isEmpty then name else path ++ "." ++ name
  | index place => s!"{path}[{place}]"

/-- The written form of a place below a root. -/
def renderPath (root : String) (steps : List Step) : String := steps.foldl Step.extend root

/-- What can be wrong with a value. -/
inductive Problem where
  | wrongKind (expected found : Kind)
  | notALiteral (values : List Value)
  | noMatch (source : String)
  | belowMinimum (number min : Binary64)
  | aboveMaximum (number max : Binary64)
  | notAnArray (found : Kind)
  | notAnObject (found : Kind)
  | tooFewItems (least found : Nat)
  | tooManyItems (most found : Nat)
  | required
  | notAllowed
  | noBranch (branches : Nat)
  | noSingleBranch (branches : Nat)
  | ambiguous (matched branches : Nat)
  | tooDeep (limit : Nat)

/-- The wording of a problem. -/
def Problem.message : Problem → String
  | wrongKind expected found => s!"expected {expected.name}, got {found.name}"
  | notALiteral values =>
    "must be one of [" ++ ", ".intercalate (values.map fun value => value.toJson.compress) ++ "]"
  | noMatch source => s!"does not match pattern {quoted source}"
  | belowMinimum number min => s!"{number.toText} is below the minimum of {min.toText}"
  | aboveMaximum number max => s!"{number.toText} is above the maximum of {max.toText}"
  | notAnArray found => s!"must be an array, got {found.name}"
  | notAnObject found => s!"must be an object, got {found.name}"
  | tooFewItems least found => s!"must have at least {least} items, got {found}"
  | tooManyItems most found => s!"must have at most {most} items, got {found}"
  | required => "is required"
  | notAllowed => "is not allowed"
  | noBranch branches => s!"does not match any of the {branches} allowed schemas"
  | noSingleBranch branches =>
    s!"does not match any of the {branches} schemas (expected exactly one)"
  | ambiguous matched branches =>
    s!"is ambiguous: matches {matched} of the {branches} schemas (expected exactly one)"
  | tooDeep limit => s!"nests deeper than the maximum depth of {limit}"

/-- A problem and its place below the value that is being checked. -/
structure Finding where
  steps : List Step
  problem : Problem

/-- The same finding seen from one level further up. -/
def Finding.under (step : Step) (finding : Finding) : Finding :=
  { finding with steps := step :: finding.steps }

/-- A problem and the written form of its place. -/
structure Record where
  path : String
  problem : Problem

namespace Record

/-- The wording of what is wrong. -/
def message (record : Record) : String := record.problem.message

/-- The place and what is wrong there. -/
def line (record : Record) : String := s!"{record.path} {record.message}"

end Record

/-- The record of a finding below a root. -/
def Finding.record (root : String) (finding : Finding) : Record :=
  ⟨renderPath root finding.steps, finding.problem⟩

/-- A check that was given up because a value nests too deep. -/
structure DepthExceeded where
  path : String
  limit : Nat
  deriving DecidableEq

namespace DepthExceeded

/-- The record that takes the place of what was not checked. -/
def record (stop : DepthExceeded) : Record := ⟨stop.path, .tooDeep stop.limit⟩

/-- The wording of the stop. -/
def message (stop : DepthExceeded) : String := stop.record.line

end DepthExceeded

end ControlProps
