import ControlProps.Validation.Record

/-!
# Walking a value along a schema

The walk gathers every problem of a value in one pass. It gives up only where the levels that it may
descend are used up; what it found before stands. A schema is turned into a checker, which is a
function of the levels left and of the value.
-/

namespace ControlProps

/-- What a walk gathers: the findings in order, and the place at which it stopped, if it did. -/
structure Walk where
  findings : List Finding
  stop : Option (List Step)

namespace Walk

/-- Nothing is wrong. -/
def clean : Walk := ⟨[], none⟩

/-- One problem, at the value itself. -/
def problem (problem : Problem) : Walk := ⟨[⟨[], problem⟩], none⟩

/-- One problem if a condition holds. -/
def problemIf (condition : Bool) (problem : Problem) : Walk :=
  if condition then .problem problem else clean

/-- The levels are used up at the value itself. -/
def halted : Walk := ⟨[], some []⟩

/-- Both walks one after the other; after a stop there is no second one. -/
def followedBy (first second : Walk) : Walk :=
  match first.stop with
  | some _ => first
  | none => ⟨first.findings ++ second.findings, second.stop⟩

/-- The walk of a part, seen from one level further up. -/
def under (step : Step) (walk : Walk) : Walk :=
  ⟨walk.findings.map (.under step), walk.stop.map (step :: ·)⟩

/-- Several walks one after the other. -/
def sequence (walks : List Walk) : Walk := walks.foldr followedBy clean

end Walk

/-- A check with a number of levels left, of which the value itself takes one. -/
abbrev Checker := Nat → Value → Walk

namespace Checker

/-- Bounds are checked on the nearest float; not a number is outside no bounds. -/
def range (min max : Option Binary64) (number : Binary64) : Walk :=
  match min.filter number.isBelow, max.filter (·.isBelow number) with
  | some min, _ => .problem (.belowMinimum number min)
  | none, some max => .problem (.aboveMaximum number max)
  | none, none => .clean

/-- The items from an index on. -/
def items (check : Checker) (levels : Nat) (index : Nat) : List Value → Walk
  | [] => .clean
  | item :: rest =>
    ((check levels item).under (.index index)).followedBy (items check levels (index + 1) rest)

/-- The number of items, then each of them. -/
def array (check : Checker) (least most : Option UInt64) (levels : Nat) (values : List Value) :
    Walk :=
  let found := values.length
  let few := match least with
    | some least => Walk.problemIf (found < least.toNat) (.tooFewItems least.toNat found)
    | none => .clean
  let many := match most with
    | some most => Walk.problemIf (most.toNat < found) (.tooManyItems most.toNat found)
    | none => .clean
  few.followedBy (many.followedBy (items check levels 0 values))

/-- The required keys that are missing. -/
def missing (required : List String) (entries : PropertyBag) : Walk :=
  .sequence (required.map fun key =>
    (Walk.problemIf (!Entries.hasKey key entries) .required).under (.key key))

/-- Each entry by the checker of its key; a key without one may be refused. -/
def entries (properties : List (String × Checker)) (refuse : Bool) (levels : Nat) :
    PropertyBag → Walk
  | [] => .clean
  | (key, value) :: rest =>
    let walk := match properties.lookup key with
      | some check => check levels value
      | none => Walk.problemIf refuse .notAllowed
    (walk.under (.key key)).followedBy (entries properties refuse levels rest)

/-- The missing keys, then each entry. -/
def object (properties : List (String × Checker)) (required : List String) (refuse : Bool)
    (levels : Nat) (bag : PropertyBag) : Walk :=
  (missing required bag).followedBy (entries properties refuse levels bag)

/-- The first branch without findings decides; the findings of the others do not count. -/
def anyOf (count : Nat) (levels : Nat) (value : Value) : List Checker → Walk
  | [] => .problem (.noBranch count)
  | check :: rest =>
    let walk := check levels value
    match walk.stop with
    | some place => ⟨[], some place⟩
    | none => if walk.findings.isEmpty then .clean else anyOf count levels value rest

/-- All branches are tried, and those without findings counted. -/
def oneOf (count : Nat) (matched : Nat) (levels : Nat) (value : Value) : List Checker → Walk
  | [] =>
    match matched with
    | 0 => .problem (.noSingleBranch count)
    | 1 => .clean
    | matched => .problem (.ambiguous matched count)
  | check :: rest =>
    let walk := check levels value
    match walk.stop with
    | some place => ⟨[], some place⟩
    | none =>
      oneOf count (if walk.findings.isEmpty then matched + 1 else matched) levels value rest

/-- No check of `null`, and none without a level left. -/
def guarded (check : Checker) (levels : Nat) (value : Value) : Walk :=
  if value.isNull then .clean
  else
    match levels with
    | 0 => .halted
    | levels + 1 => check levels value

end Checker

namespace Schema

variable [PatternEngine]

/-- The integer rule: floats are refused even if they are whole. -/
def walkRange (min max : Option Binary64) (integer : Bool) : Value → Walk
  | .int number => Checker.range min max (Binary64.ofInt number.toInt)
  | .float number =>
    if integer then .problem (.wrongKind .integer .number) else Checker.range min max number
  | other => .problem (.wrongKind (if integer then .integer else .number) other.kind)

/-- The rule for strings with a pattern. -/
def walkPattern (form : Pattern) : Value → Walk
  | .string text => Walk.problemIf (!form.matchesStart text) (.noMatch form.source)
  | other => .problem (.wrongKind .string other.kind)

mutual

/-- The walk of a value along a schema; `null` is in order wherever a value may stand. -/
def walk (strict : Bool) : Schema → Checker
  | any => Checker.guarded fun _ _ => .clean
  | primitive kind => Checker.guarded fun _ value =>
    Walk.problemIf (!kind.admits value) (.wrongKind kind value.kind)
  | enumeration values => Checker.guarded fun _ value =>
    Walk.problemIf (!values.any (·.looselyEquals value)) (.notALiteral values)
  | pattern form => Checker.guarded fun _ value => walkPattern form value
  | range min max integer => Checker.guarded fun _ value => walkRange min max integer value
  | array items least most => Checker.guarded fun levels value =>
    match value with
    | .array values => Checker.array (walk strict items) least most levels values
    | other => .problem (.notAnArray other.kind)
  | object properties required additional => Checker.guarded fun levels value =>
    match value with
    | .object entries =>
      Checker.object (walkProperties strict properties) required
        (strict && additional = .reject) levels entries
    | other => .problem (.notAnObject other.kind)
  | anyOf branches => Checker.guarded fun levels value =>
    Checker.anyOf branches.length levels value (walkBranches strict branches)
  | oneOf branches => Checker.guarded fun levels value =>
    Checker.oneOf branches.length 0 levels value (walkBranches strict branches)

/-- The checkers of branches. -/
def walkBranches (strict : Bool) : List Schema → List Checker
  | [] => []
  | branch :: rest => walk strict branch :: walkBranches strict rest

/-- The checkers of properties. -/
def walkProperties (strict : Bool) : List (String × Schema) → List (String × Checker)
  | [] => []
  | (key, schema) :: rest => (key, walk strict schema) :: walkProperties strict rest

end

/-- The walk of a bag, which an object schema takes as it is; `depth` levels lie below it. -/
def walkBag (strict : Bool) (schema : Schema) (depth : Nat) (bag : PropertyBag) : Walk :=
  match schema with
  | object properties required additional =>
    Checker.object (walkProperties strict properties) required (strict && additional = .reject)
      depth bag
  | other => walk strict other (depth + 1) (.object bag)

end Schema

end ControlProps
