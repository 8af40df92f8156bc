import ControlProps.Engine.Patterns
import ControlProps.Proofs.Schema.Composition
import ControlProps.Proofs.Validation.Composition

/-!
# Layers and validation

A layer below a schema adds properties and nothing else. So a value that has no key of a layer, but
for those that the schema itself declares, is validated as if there were no layers.
-/

namespace ControlProps

/-- Entries are walked alike if their keys have the same checkers. -/
theorem Checker.entries_congr {properties properties' : List (String × Checker)} {refuse : Bool}
    {levels : Nat} {bag : PropertyBag}
    (hlookup : ∀ key ∈ Entries.keys bag, properties.lookup key = properties'.lookup key) :
    entries properties refuse levels bag = entries properties' refuse levels bag := by
  rw [entries_eq_sequence, entries_eq_sequence]
  refine congrArg Walk.sequence (List.map_congr_left fun child hchild => ?_)
  have hkey : child.1 ∈ Entries.keys bag := List.mem_map_of_mem hchild
  rw [entry, entry, entryValue, entryValue, hlookup child.1 hkey]

namespace Schema

section

variable [PatternEngine] {strict : Bool} {levels : Nat} {value : Value}

/-- Two object schemas that require and refuse the same find the same in a value if they declare the
same for each of its keys. -/
theorem walk_object_congr {properties properties' : List (String × Schema)}
    {required : List String} {additional : Additional}
    (hlookup : ∀ bag ∈ value.object?, ∀ key ∈ Entries.keys bag,
      properties.lookup key = properties'.lookup key) :
    (object properties required additional).walk strict levels value =
      (object properties' required additional).walk strict levels value := by
  refine Checker.guarded_rel (· = ·) rfl rfl rfl fun below => ?_
  cases value with
  | object bag =>
    refine congrArg (Walk.followedBy _) (Checker.entries_congr fun key hkey => ?_)
    rw [lookup_walkProperties, lookup_walkProperties, hlookup bag rfl key hkey]
  | _ => rfl

/-- Layers declare nothing else for a key that the schema above them declares, and nothing for one
that none of them declares. -/
theorem lookup_foldl_addMissing_eq_lookup {properties : List (String × Schema)}
    {layers : List Schema} {key : String}
    (hkey : properties.lookup key ≠ none ∨ ∀ layer ∈ layers, layer.property? key = none) :
    ((layers.filterMap properties?).foldl addMissing properties).lookup key =
      properties.lookup key := by
  rw [lookup_foldl_addMissing]
  cases hdeclared : properties.lookup key with
  | some declared => rfl
  | none =>
    have hnone : ∀ layer ∈ layers, layer.property? key = none :=
      hkey.resolve_left fun hne => hne hdeclared
    rw [Option.none_or, List.findSome?_eq_none_iff]
    exact hnone

/-- A value is walked alike with and without layers if each of its keys is declared by the schema
above them or by none of them. -/
theorem walk_compose {base : Schema} {layers : List Schema}
    (hkeys : ∀ bag ∈ value.object?, ∀ key ∈ Entries.keys bag,
      base.property? key ≠ none ∨ ∀ layer ∈ layers, layer.property? key = none) :
    (base.compose layers).walk strict levels value = base.walk strict levels value := by
  cases base with
  | object properties required additional =>
    exact walk_object_congr fun bag hbag key hkey =>
      lookup_foldl_addMissing_eq_lookup (hkeys bag hbag key hkey)
  | _ => rfl

/-- **Layers affect only the keys that they add.** A value, each key of which is
declared by a schema or by none of the layers below it, is checked with the layers as without them:
it has the same records in the same order, or stops at the depth limit at the same place. -/
theorem layers_affect_only_added_keys {base : Schema} {layers : List Schema}
    (hkeys : ∀ bag ∈ value.object?, ∀ key ∈ Entries.keys bag,
      base.property? key ≠ none ∨ ∀ layer ∈ layers, layer.property? key = none)
    (options : ValidationOptions) (root : String) :
    (base.compose layers).check options root value = base.check options root value ∧
      (base.compose layers).validate options root value = base.validate options root value ∧
      (base.compose layers).ensureValid options root value =
        base.ensureValid options root value := by
  have hwalk : (base.compose layers).walkValue options value = base.walkValue options value :=
    walk_compose hkeys
  rw [check, check, validate, validate, ensureValid, ensureValid, hwalk]
  exact ⟨rfl, rfl, rfl⟩

end

/-- Layers that require a key, that refuse others, and that declare a key of the value otherwise
than the schema above them does. -/
theorem closed_object_ignores_layers :
    let base := object [("id", integer), ("tags", .array string none none)] ["name"] .reject
    let layers := [.object [("id", string), ("note", .any)] ["note"] .allow, .array .any none none,
      .object [("note", string)] ["id", "note"] .reject]
    let value := Value.object [("tags", .array [.int 1, .string "a"]), ("id", .string "a"),
      ("more", .null)]
    (base.compose layers).check ⟨true, 2⟩ "item" value = base.check ⟨true, 2⟩ "item" value ∧
      (base.compose layers).check ⟨true, 1⟩ "item" value = .error ⟨"item.tags[0]", 1⟩ := by
  intro base layers value
  have hkeys : ∀ bag ∈ value.object?, ∀ key ∈ Entries.keys bag,
      base.property? key ≠ none ∨ ∀ layer ∈ layers, layer.property? key = none := by
    intro bag hbag key hkey
    obtain rfl := Option.some.inj hbag
    have hcases : key = "tags" ∨ key = "id" ∨ key = "more" := by simpa [Entries.keys] using hkey
    rcases hcases with rfl | rfl | rfl
    · exact .inl (Option.some_ne_none _)
    · exact .inl (Option.some_ne_none _)
    · exact .inr (by decide)
  have hdeep := (layers_affect_only_added_keys hkeys ⟨true, 1⟩ "item").1
  refine ⟨(layers_affect_only_added_keys hkeys ⟨true, 2⟩ "item").1, hdeep.trans ?_⟩
  rfl

end Schema

end ControlProps
