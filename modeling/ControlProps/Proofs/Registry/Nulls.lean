import ControlProps.Engine.Patterns
import ControlProps.Proofs.Registry.EntryPoints
import ControlProps.Proofs.Schema.Composition
import ControlProps.Proofs.Validation.Nulls

/-!
# Properties that are `null`

Coercion drops properties that are `null`. For most bags that makes no difference to what is wrong
with them, but a key under which `null` stands is there: it satisfies a control that requires it,
and offends a closed one that does not declare it.
-/

namespace ControlProps.Registry

section

variable [SharedPatterns] {registry : Registry} {type : String} {strict : Bool} {bag : PropertyBag}

/-- Nothing is wrong with a bag for an unknown control. -/
theorem validateProps_of_unknown (hunknown : registry.schema? type = none) :
    ((validateProps type strict bag).run registry).1 = [] := by
  rw [validateProps_run, walk?, hunknown]
  rfl

/-- A property that is `null` makes no difference to the verdict if the schema of the control
ignores it. -/
theorem validateProps_present_iff
    (hnulls : ∀ schema ∈ registry.schema? type, ∀ key, (key, .null) ∈ bag →
      schema.IgnoresNullAt strict key) :
    ((validateProps type strict bag).run registry).1 = [] ↔
      ((validateProps type strict bag.present).run registry).1 = [] := by
  cases hschema : registry.schema? type with
  | none => rw [validateProps_of_unknown hschema, validateProps_of_unknown hschema]
  | some schema =>
    rw [validateProps_eq_nil_iff hschema, validateProps_eq_nil_iff hschema,
      Schema.walkBag_eq_walk, Schema.walkBag_eq_walk, Walk.eq_clean_iff_verdict,
      Walk.eq_clean_iff_verdict, Schema.walk_verdict_present (hnulls schema hschema)]

/-- **Nulls count where keys do.** Let a registry be given a bag and the same bag without its `null`
entries. If the composed schema of the control ignores `null` under the keys of those entries, both
are accepted or neither. If the control describes objects, then a bag is accepted without any
required key being `null`, exactly if what is present in it is accepted without any refused key
being `null`. -/
theorem nulls_count_where_keys_do (catalog : Catalog) (maxDepth : Nat) (calls : List Call)
    (type : String) (strict : Bool) (bag : PropertyBag) :
    let registry := (ofCatalog catalog maxDepth).after calls
    ((∀ control, catalog.control? type = some control → ∀ key, (key, .null) ∈ bag →
        (composed control).IgnoresNullAt strict key) →
      (((validateProps type strict bag).run registry).1 = [] ↔
        ((validateProps type strict bag.present).run registry).1 = [])) ∧
    ∀ control properties required additional, catalog.control? type = some control →
      control.schema = .object properties required additional → (Entries.keys bag).Nodup →
      (((validateProps type strict bag).run registry).1 = [] ∧
          (∀ key ∈ required, (key, .null) ∉ bag) ↔
        ((validateProps type strict bag.present).run registry).1 = [] ∧
          ∀ key, (key, .null) ∈ bag → strict = true → additional = .reject →
            (composed control).property? key ≠ none) := by
  intro registry
  have hschema : registry.schema? type = (catalog.control? type).map composed :=
    schema?_after_ofCatalog catalog maxDepth calls type
  constructor
  · intro hnulls
    refine validateProps_present_iff fun schema hsome => ?_
    rw [hschema, Option.mem_def, Option.map_eq_some_iff] at hsome
    obtain ⟨control, hcontrol, rfl⟩ := hsome
    exact hnulls control hcontrol
  · intro control properties required additional hcontrol hobject hkeys
    obtain ⟨declared, hcomposed⟩ :
        ∃ declared, composed control = .object declared required additional := by
      rw [composed, hobject]
      exact ⟨_, rfl⟩
    have hdeclared (key : String) :
        (composed control).property? key ≠ none ↔ key ∈ Entries.keys declared := by
      rw [hcomposed]
      exact not_iff_comm.mp Entries.lookup_eq_none_iff_notMem.symm
    rw [hcontrol, Option.map_some, hcomposed] at hschema
    rw [validateProps_eq_nil_iff hschema, validateProps_eq_nil_iff hschema]
    simp only [hdeclared]
    exact Schema.walkBag_eq_clean_iff_present hkeys

end

/-- A property that is `null` and one that is absent are different things to a control that requires
the property, to a closed one that does not declare it, and to one that lists objects. -/
theorem null_is_not_absence :
    let catalog : Catalog := ⟨[("field", ⟨.object [("label", .string)] ["label"] .allow, []⟩),
      ("rule", ⟨.object [] [] .reject, []⟩), ("preset", ⟨.enumeration [.object []], []⟩)]⟩
    let registry := ofCatalog catalog ValidationOptions.defaultDepth
    let accepts (type : String) (bag : PropertyBag) :=
      ((validateProps type true bag).run registry).1 = []
    let bag : PropertyBag := [("label", .null)]
    ¬(accepts "field" bag ↔ accepts "field" bag.present) ∧
      ¬(accepts "rule" bag ↔ accepts "rule" bag.present) ∧
      ¬(accepts "preset" bag ↔ accepts "preset" bag.present) := by
  decide +kernel

/-- `null` under a hint or a shared key is as good as absence, for a closed control that requires
another key and for a union with a branch that does. -/
theorem null_hint_is_absence :
    let button : Control := ⟨.object [("label", .string)] ["label"] .reject, ["icon"]⟩
    let either : Control := ⟨.anyOf [.object [("size", .number)] ["size"] .allow, .string], []⟩
    let catalog : Catalog := ⟨[("button", button), ("either", either)]⟩
    let registry := (ofCatalog catalog 3).after [.warm]
    let bag : PropertyBag := [("label", .string "OK"), ("icon", .null), ("width", .null)]
    (((validateProps "button" true bag).run registry).1 = [] ∧
        ∀ key ∈ ["label"], (key, .null) ∉ bag) ∧
      ((validateProps "button" true bag.present).run registry).1 = [] ∧
      ((validateProps "either" true bag).run registry).1 ≠ [] ∧
      ((validateProps "either" true bag.present).run registry).1 ≠ [] := by
  intro button either catalog registry bag
  have hkeys : (Entries.keys bag).Nodup := by decide +kernel
  have hvalid : ((validateProps "button" true bag.present).run registry).1 = [] := by
    decide +kernel
  have hinvalid : ((validateProps "either" true bag).run registry).1 ≠ [] := by decide +kernel
  have hnull {key : String} (hkey : (key, .null) ∈ bag) : key = "icon" ∨ key = "width" := by
    simpa [bag] using hkey
  have hdeclared : ∀ key, (key, .null) ∈ bag → true = true → Additional.reject = .reject →
      (composed button).property? key ≠ none := by
    intro key hkey _ _
    rcases hnull hkey with rfl | rfl <;> decide +kernel
  have hignored : ∀ control, catalog.control? "either" = some control → ∀ key,
      (key, .null) ∈ bag → (composed control).IgnoresNullAt true key := by
    intro control hcontrol key hkey
    obtain rfl := Option.some.inj hcontrol
    have hcomposed : composed either = either.schema := rfl
    have hother : key ≠ "size" := by rcases hnull hkey with rfl | rfl <;> decide
    rw [hcomposed]
    simp [either, Schema.string, Schema.IgnoresNullAt, hother]
  have hbutton := (nulls_count_where_keys_do catalog 3 [.warm] "button" true bag).2 button _ _ _
    rfl rfl hkeys
  have heither := (nulls_count_where_keys_do catalog 3 [.warm] "either" true bag).1 hignored
  exact ⟨hbutton.mpr ⟨hvalid, hdeclared⟩, hvalid, hinvalid, heither.not.mp hinvalid⟩

end ControlProps.Registry
