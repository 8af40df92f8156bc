import ControlProps.Registry
import ControlProps.Proofs.Entries

/-!
# Calls of a registry

Every operation asks for one schema or several, and is else a function of what it is given. A
registry remembers the schemas that it is asked for, and what it remembers is what it would answer
anyway. So after any calls a registry answers as before them.
-/

namespace ControlProps

namespace Registry

variable [SharedPatterns]

/-- The schema that a registry answers with: a cached one, else the one of the control. -/
def schema? (registry : Registry) (type : String) : Option Schema :=
  (registry.cache.lookup type).or ((registry.catalog.control? type).map composed)

/-- The registry with the schema of a control in its cache, if there is such a control. -/
def remember (registry : Registry) (type : String) : Registry :=
  match registry.cache.lookup type, registry.catalog.control? type with
  | none, some control =>
    { registry with cache := registry.cache ++ [(type, composed control)] }
  | _, _ => registry

/-- Asking for a schema gives and remembers it. -/
theorem schemaFor_run (registry : Registry) (type : String) :
    (schemaFor type).run registry = (registry.schema? type, registry.remember type) := by
  unfold schemaFor schema? remember
  cases hcached : registry.cache.lookup type <;>
    cases hcontrol : registry.catalog.control? type <;>
      simp [hcached, hcontrol] <;> rfl

@[simp] theorem remember_catalog (registry : Registry) (type : String) :
    (registry.remember type).catalog = registry.catalog := by
  unfold remember
  split <;> rfl

@[simp] theorem remember_maxDepth (registry : Registry) (type : String) :
    (registry.remember type).maxDepth = registry.maxDepth := by
  unfold remember
  split <;> rfl

/-- Remembering one schema changes no answer. -/
@[simp] theorem remember_schema? (registry : Registry) (type other : String) :
    (registry.remember type).schema? other = registry.schema? other := by
  unfold remember
  split
  · rename_i control hcached hcontrol
    -- only where the two types are one is the new entry of the cache found at all
    by_cases hsame : other = type
    · subst hsame
      simp [schema?, List.lookup_append, hcached, hcontrol]
    · have hnew : List.lookup other [(type, composed control)] = none := by
        simp [List.lookup_cons, beq_eq_false_iff_ne.mpr hsame]
      simp [schema?, List.lookup_append, hnew]
  · rfl

/-- The walk of a bag by the schema that a registry answers with. -/
def walk? (registry : Registry) (type : String) (strict : Bool) (bag : PropertyBag) :
    Option Walk :=
  (registry.schema? type).map fun schema => schema.walkBag strict registry.maxDepth bag

/-- The walk of a bag asks for one schema. -/
theorem walkProps_run (registry : Registry) (type : String) (strict : Bool) (bag : PropertyBag) :
    (walkProps type strict bag).run registry =
      (registry.walk? type strict bag, registry.remember type) := by
  have hrun : (walkProps type strict bag).run registry =
      (((schemaFor type).run registry).1.map fun schema =>
          schema.walkBag strict ((schemaFor type).run registry).2.maxDepth bag,
        ((schemaFor type).run registry).2) := rfl
  rw [hrun, schemaFor_run, remember_maxDepth]
  rfl

/-- The records of a bag are those of its walk. -/
theorem validateProps_run (registry : Registry) (type : String) (strict : Bool)
    (bag : PropertyBag) :
    (validateProps type strict bag).run registry =
      (match registry.walk? type strict bag with
        | some walk => walk.collect (propsPath type) registry.maxDepth
        | none => [],
        registry.remember type) := by
  have hrun : (validateProps type strict bag).run registry =
      (match ((walkProps type strict bag).run registry).1 with
        | some walk =>
          walk.collect (propsPath type) ((walkProps type strict bag).run registry).2.maxDepth
        | none => [],
        ((walkProps type strict bag).run registry).2) := rfl
  rw [hrun, walkProps_run, remember_maxDepth]

/-- What is wrong with a bag is what is wrong with its walk. -/
theorem ensureValidProps_run (registry : Registry) (type : String) (strict : Bool)
    (bag : PropertyBag) :
    (ensureValidProps type strict bag).run registry =
      (match registry.walk? type strict bag with
        | some walk => walk.ensure (propsPath type) registry.maxDepth
        | none => .ok (),
        registry.remember type) := by
  have hrun : (ensureValidProps type strict bag).run registry =
      (match ((walkProps type strict bag).run registry).1 with
        | some walk =>
          walk.ensure (propsPath type) ((walkProps type strict bag).run registry).2.maxDepth
        | none => .ok (),
        ((walkProps type strict bag).run registry).2) := rfl
  rw [hrun, walkProps_run, remember_maxDepth]

/-- A bag that cannot be coerced is not looked at any further. -/
theorem prepareProps_run_of_error {bag : PropertyBag} {cause : CoercionError}
    (hcoerced : PropertyBag.coerce bag = .error cause) (registry : Registry) (type : String)
    (strict : Bool) :
    (prepareProps type strict bag).run registry = (.error (.coercion cause), registry) := by
  rw [prepareProps, hcoerced]
  rfl

/-- A bag that can be coerced is accepted if its coerced form is. -/
theorem prepareProps_run_of_ok {bag coerced : PropertyBag}
    (hcoerced : PropertyBag.coerce bag = .ok coerced) (registry : Registry) (type : String)
    (strict : Bool) :
    (prepareProps type strict bag).run registry =
      (((ensureValidProps type strict coerced).run registry).1.map fun _ => coerced,
        ((ensureValidProps type strict coerced).run registry).2) := by
  rw [prepareProps, hcoerced]
  rfl

/-- Asking for several schemas remembers them one after the other. -/
theorem forIn_schemaFor_run (types : List String) (registry : Registry) :
    (forIn types PUnit.unit fun type _ => do
      let _ ← schemaFor type
      return ForInStep.yield PUnit.unit : StateM Registry PUnit).run registry =
      (PUnit.unit, types.foldl remember registry) := by
  induction types generalizing registry with
  | nil => rfl
  | cons type rest ih =>
    rw [List.forIn_cons, List.foldl_cons, ← ih, StateT.run_bind, StateT.run_bind, schemaFor_run]
    rfl

/-- Warming up asks for the schemas of all controls. -/
theorem warm_run (registry : Registry) :
    warm.run registry =
      ((registry.catalog.types.foldl remember registry).cache.length,
        registry.catalog.types.foldl remember registry) := by
  have hrun : warm.run registry =
      ((forIn registry.catalog.types PUnit.unit fun type _ => do
          let _ ← schemaFor type
          return ForInStep.yield PUnit.unit : StateM Registry PUnit) >>= fun _ =>
        cachedCount).run registry := rfl
  rw [hrun, StateT.run_bind, forIn_schemaFor_run]
  rfl

/-- The operations of a registry, each with what it is given. -/
inductive Call where
  | schemaFor (type : String)
  | cachedCount
  | warm
  | validateProps (type : String) (strict : Bool) (bag : PropertyBag)
  | ensureValidProps (type : String) (strict : Bool) (bag : PropertyBag)
  | prepareProps (type : String) (strict : Bool) (bag : PropertyBag)
  | validateFrameChild (strict : Bool) (frame : PropertyBag)
  | ensureValidFrameChild (strict : Bool) (frame : PropertyBag)

/-- What the operations of a registry give. -/
inductive Answer where
  | schema (schema : Option Schema)
  | count (count : Nat)
  | records (records : List Record)
  | verdict (verdict : Except ContractError Unit)
  | prepared (bag : Except ContractError PropertyBag)

/-- The operation that a call stands for. -/
def Call.answer : Call → StateM Registry Answer
  | schemaFor type => Answer.schema <$> Registry.schemaFor type
  | cachedCount => Answer.count <$> Registry.cachedCount
  | warm => Answer.count <$> Registry.warm
  | validateProps type strict bag => Answer.records <$> Registry.validateProps type strict bag
  | ensureValidProps type strict bag =>
    Answer.verdict <$> Registry.ensureValidProps type strict bag
  | prepareProps type strict bag => Answer.prepared <$> Registry.prepareProps type strict bag
  | validateFrameChild strict frame => do
    return .records ((← get).validateFrameChild strict frame)
  | ensureValidFrameChild strict frame => do
    return .verdict ((← get).ensureValidFrameChild strict frame)

/-- The schemas that a call asks for, by type and in order. -/
def Call.lookups (catalog : Catalog) : Call → List String
  | schemaFor type | validateProps type _ _ | ensureValidProps type _ _ => [type]
  | prepareProps type _ bag =>
    match PropertyBag.coerce bag with
    | .error _ => []
    | .ok _ => [type]
  | warm => catalog.types
  | cachedCount | validateFrameChild _ _ | ensureValidFrameChild _ _ => []

/-- A call leaves a registry that remembers what the call has asked for, and is else the same. -/
theorem Call.answer_run_snd (registry : Registry) (call : Call) :
    (call.answer.run registry).2 = (call.lookups registry.catalog).foldl remember registry := by
  cases call with
  | schemaFor type => exact congrArg Prod.snd (schemaFor_run registry type)
  | cachedCount => rfl
  | warm => exact congrArg Prod.snd (warm_run registry)
  | validateProps type strict bag =>
    exact congrArg Prod.snd (validateProps_run registry type strict bag)
  | ensureValidProps type strict bag =>
    exact congrArg Prod.snd (ensureValidProps_run registry type strict bag)
  | prepareProps type strict bag =>
    have hafter : ((prepareProps type strict bag).answer.run registry).2 =
        ((Registry.prepareProps type strict bag).run registry).2 := rfl
    rw [hafter, lookups]
    cases hcoerced : PropertyBag.coerce bag with
    | error cause => rw [prepareProps_run_of_error hcoerced, List.foldl_nil]
    | ok coerced =>
      rw [prepareProps_run_of_ok hcoerced, ensureValidProps_run, List.foldl_cons, List.foldl_nil]
  | validateFrameChild strict frame => rfl
  | ensureValidFrameChild strict frame => rfl

/-- The registry after several calls. -/
def after (registry : Registry) (calls : List Call) : Registry :=
  calls.foldl (fun registry call => (call.answer.run registry).2) registry

/-- Whether two registries give the same answers: their caches need not be the same. -/
structure AnswersAlike (a b : Registry) : Prop where
  catalog : b.catalog = a.catalog
  maxDepth : b.maxDepth = a.maxDepth
  schema? : ∀ type, b.schema? type = a.schema? type

namespace AnswersAlike

/-- A registry answers as it does itself. -/
protected theorem refl (registry : Registry) : registry.AnswersAlike registry :=
  ⟨rfl, rfl, fun _ => rfl⟩

/-- What answers alike to a third registry does so to the first one. -/
protected theorem trans {a b c : Registry} (hab : a.AnswersAlike b) (hbc : b.AnswersAlike c) :
    a.AnswersAlike c where
  catalog := hbc.catalog.trans hab.catalog
  maxDepth := hbc.maxDepth.trans hab.maxDepth
  schema? := fun type => (hbc.schema? type).trans (hab.schema? type)

/-- Remembering a schema makes no difference to the answers. -/
theorem remember (registry : Registry) (type : String) :
    registry.AnswersAlike (registry.remember type) :=
  ⟨remember_catalog registry type, remember_maxDepth registry type,
    remember_schema? registry type⟩

/-- Remembering many schemas makes no difference to the answers. -/
theorem foldl_remember (registry : Registry) (types : List String) :
    registry.AnswersAlike (types.foldl Registry.remember registry) := by
  induction types generalizing registry with
  | nil => exact .refl registry
  | cons type rest ih => exact (remember registry type).trans (ih _)

/-- A call makes no difference to the answers. -/
theorem call (registry : Registry) (call : Call) :
    registry.AnswersAlike (call.answer.run registry).2 := by
  rw [Call.answer_run_snd]
  exact foldl_remember registry _

/-- Registries that answer alike find the same wrong with a bag. -/
theorem validateProps {a b : Registry} (halike : a.AnswersAlike b) (type : String)
    (strict : Bool) (bag : PropertyBag) :
    ((Registry.validateProps type strict bag).run b).1 =
      ((Registry.validateProps type strict bag).run a).1 := by
  rw [validateProps_run, validateProps_run, walk?, walk?, halike.schema?, halike.maxDepth]

/-- Registries that answer alike accept the same bags. -/
theorem ensureValidProps {a b : Registry} (halike : a.AnswersAlike b) (type : String)
    (strict : Bool) (bag : PropertyBag) :
    ((Registry.ensureValidProps type strict bag).run b).1 =
      ((Registry.ensureValidProps type strict bag).run a).1 := by
  rw [ensureValidProps_run, ensureValidProps_run, walk?, walk?, halike.schema?, halike.maxDepth]

/-- Registries that answer alike prepare a bag alike. -/
theorem prepareProps {a b : Registry} (halike : a.AnswersAlike b) (type : String)
    (strict : Bool) (bag : PropertyBag) :
    ((Registry.prepareProps type strict bag).run b).1 =
      ((Registry.prepareProps type strict bag).run a).1 := by
  cases hcoerced : PropertyBag.coerce bag with
  | error cause => rw [prepareProps_run_of_error hcoerced, prepareProps_run_of_error hcoerced]
  | ok coerced =>
    rw [prepareProps_run_of_ok hcoerced, prepareProps_run_of_ok hcoerced, halike.ensureValidProps]

/-- No calls make a difference to the answers. -/
theorem after (registry : Registry) (calls : List Call) :
    registry.AnswersAlike (registry.after calls) := by
  induction calls generalizing registry with
  | nil => exact .refl registry
  | cons first rest ih => exact (call registry first).trans (ih _)

end AnswersAlike

/-- After any calls, a registry that began with nothing composes each schema from its catalog. -/
theorem schema?_after_ofCatalog (catalog : Catalog) (maxDepth : Nat) (calls : List Call)
    (type : String) :
    ((ofCatalog catalog maxDepth).after calls).schema? type =
      (catalog.control? type).map composed := by
  rw [(AnswersAlike.after _ calls).schema? type]
  rfl

/-- No calls make a difference to the depth limit. -/
theorem maxDepth_after_ofCatalog (catalog : Catalog) (maxDepth : Nat) (calls : List Call) :
    ((ofCatalog catalog maxDepth).after calls).maxDepth = maxDepth :=
  (AnswersAlike.after _ calls).maxDepth

end Registry

end ControlProps
