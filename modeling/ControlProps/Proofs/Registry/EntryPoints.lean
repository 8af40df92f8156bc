import ControlProps.Proofs.Registry.Calls
import ControlProps.Proofs.Validation.Bags

/-!
# Entry points

A value may be asked for its records or made to fail with them, directly or as the bag of a control
or of a child inside a frame. All these ways take the same walk, so they give one verdict.
-/

namespace ControlProps

/-- The records of a walk and the outcome of failing with them are one verdict. -/
structure OneVerdict (walk : Walk) (root : String) (limit : Nat) (records : List Record)
    (outcome : Except ContractError Unit) : Prop where
  /-- There is no failure exactly if there are no records. -/
  ok_iff : outcome = .ok () ↔ records = []
  /-- A walk that ends fails with all its records, in the name of the root. -/
  invalid_iff (subject : String) (found : List Record) :
    outcome = .error (.invalid subject found) ↔
      walk.stop = none ∧ subject = root ∧ found = records ∧ records ≠ []
  /-- A walk that hits the limit fails at the place where it does. -/
  depthExceeded_iff (stop : DepthExceeded) :
    outcome = .error (.depthExceeded stop) ↔
      ∃ place, walk.stop = some place ∧ stop = ⟨renderPath root place, limit⟩
  /-- The stop at the limit is the last record. -/
  exists_eq_append (stop : DepthExceeded) (hstop : outcome = .error (.depthExceeded stop)) :
    ∃ earlier, records = earlier ++ [stop.record]
  /-- There is no other failure. -/
  ne_coercion (cause : CoercionError) : outcome ≠ .error (.coercion cause)

namespace Walk

/-- What a walk is given up with. -/
theorem ensure_of_stop {walk : Walk} {place : List Step} (hstop : walk.stop = some place)
    (root : String) (limit : Nat) :
    walk.ensure root limit = .error (.depthExceeded ⟨renderPath root place, limit⟩) := by
  rw [ensure, check, hstop]

/-- What a walk that ends fails with, if it has found anything. -/
theorem ensure_of_findings {walk : Walk} {finding : Finding} {rest : List Finding}
    (hstop : walk.stop = none) (hfindings : walk.findings = finding :: rest) (root : String)
    (limit : Nat) :
    walk.ensure root limit = .error (.invalid root (walk.collect root limit)) := by
  simp [ensure, check, collect, hstop, hfindings]

/-- Records and failure of a walk are one verdict. -/
theorem oneVerdict (walk : Walk) (root : String) (limit : Nat) :
    OneVerdict walk root limit (walk.collect root limit) (walk.ensure root limit) := by
  cases hstop : walk.stop with
  | some place =>
    have hensure := ensure_of_stop hstop root limit
    have hcollect : walk.collect root limit = walk.findings.map (Finding.record root) ++
        [(DepthExceeded.mk (renderPath root place) limit).record] := by
      rw [collect, hstop]
      rfl
    constructor
    case ok_iff => simp [hensure, hcollect]
    case invalid_iff => simp [hensure, hstop]
    case depthExceeded_iff => simp [hensure, hstop, eq_comm]
    case exists_eq_append =>
      intro stop hfailed
      rw [hensure] at hfailed
      obtain rfl := ContractError.depthExceeded.inj (Except.error.inj hfailed)
      exact ⟨_, hcollect⟩
    case ne_coercion => simp [hensure]
  | none =>
    cases hfindings : walk.findings with
    | nil =>
      have hclean : walk = .clean := eq_clean_iff.mpr ⟨hstop, hfindings⟩
      have hensure : walk.ensure root limit = .ok () := ensure_eq_ok_iff.mpr hclean
      have hcollect : walk.collect root limit = [] := collect_eq_nil_iff.mpr hclean
      constructor <;> simp [hensure, hcollect, hstop]
    | cons finding rest =>
      have hensure := ensure_of_findings hstop hfindings root limit
      have hcollect : walk.collect root limit ≠ [] := by simp [collect, hfindings]
      constructor <;> simp [hensure, hcollect, hstop, eq_comm]

end Walk

namespace Registry

variable [SharedPatterns] {registry : Registry} {type : String} {strict : Bool} {bag : PropertyBag}

/-- A bag has no records for a control that a registry answers for if its walk is clean. -/
theorem validateProps_eq_nil_iff {schema : Schema} (hschema : registry.schema? type = some schema) :
    ((validateProps type strict bag).run registry).1 = [] ↔
      schema.walkBag strict registry.maxDepth bag = .clean := by
  rw [validateProps_run, walk?, hschema]
  exact Walk.collect_eq_nil_iff

/-- A bag is accepted for a control that a registry answers for if its walk is clean. -/
theorem ensureValidProps_eq_ok_iff {schema : Schema}
    (hschema : registry.schema? type = some schema) :
    ((ensureValidProps type strict bag).run registry).1 = .ok () ↔
      schema.walkBag strict registry.maxDepth bag = .clean := by
  rw [ensureValidProps_run, walk?, hschema]
  exact Walk.ensure_eq_ok_iff

/-- **One verdict.** For every schema, value and depth limit, the records of the value and the
failure with them agree. As the properties of a control or as the child of a frame, a bag has the
records, and fails as, the object that it is; nothing is wrong with a bag for an unknown control. -/
theorem entry_points_agree (registry : Registry) (type : String) (strict : Bool)
    (bag : PropertyBag) :
    let options := registry.options strict
    let schema? := ((schemaFor type).run registry).1
    (∀ (schema : Schema) (how : ValidationOptions) (root : String) (value : Value),
      OneVerdict (schema.walkValue how value) root how.maxDepth
        (schema.validate how root value) (schema.ensureValid how root value)) ∧
    ((validateProps type strict bag).run registry).1 =
      schema?.elim [] (·.validate options (type ++ ".props") (.object bag)) ∧
    ((ensureValidProps type strict bag).run registry).1 =
      schema?.elim (.ok ()) (·.ensureValid options (type ++ ".props") (.object bag)) ∧
    registry.validateFrameChild strict bag =
      SharedSchemas.frameChild.validate options "frame" (.object bag) ∧
    registry.ensureValidFrameChild strict bag =
      SharedSchemas.frameChild.ensureValid options "frame" (.object bag) := by
  intro options schema?
  have hschema : schema? = registry.schema? type := by
    simp only [schema?, schemaFor_run]
  have hwalk (schema : Schema) : schema.walkBag strict registry.maxDepth bag =
      schema.walkValue options (.object bag) := schema.walkBag_eq_walk strict _ bag
  refine ⟨fun schema how root value => Walk.oneVerdict _ root _, ?_, ?_, ?_, ?_⟩
  · rw [validateProps_run, walk?, hschema]
    cases registry.schema? type with
    | none => rfl
    | some schema =>
      simp only [Option.map_some, hwalk]
      rfl
  · rw [ensureValidProps_run, walk?, hschema]
    cases registry.schema? type with
    | none => rfl
    | some schema =>
      simp only [Option.map_some, hwalk]
      rfl
  · rw [validateFrameChild, hwalk]
    rfl
  · rw [ensureValidFrameChild, hwalk]
    rfl

end Registry

end ControlProps
