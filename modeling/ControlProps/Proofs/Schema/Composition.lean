import ControlProps.Engine.Patterns
import ControlProps.Proofs.Entries
import ControlProps.Schema.Composition

/-!
# What layers declare

Of several layers, the first one that declares a property decides on it. The properties of a
composed schema come in the order in which the layers declare them first; it requires and refuses
what its uppermost layer does. Layers may be added in one step or in several.
-/

namespace ControlProps.Schema

section

variable [PatternEngine]

/-- A key is looked up among the declared properties first and then in the lower layer. -/
theorem lookup_addMissing (declared lower : List (String × Schema)) (key : String) :
    (addMissing declared lower).lookup key = (declared.lookup key).or (lower.lookup key) := by
  induction lower generalizing declared with
  | nil => simp [addMissing]
  | cons entry rest ih =>
    obtain ⟨other, schema⟩ := entry
    have hstep : addMissing declared ((other, schema) :: rest) =
        addMissing (if Entries.hasKey other declared then declared
          else declared ++ [(other, schema)]) rest := rfl
    rw [hstep]
    by_cases hsame : key = other
    · subst hsame
      split
      · rename_i hdeclared
        have hkey : key ∈ Entries.keys declared := by simpa [Entries.hasKey] using hdeclared
        obtain ⟨found, hfound⟩ := Entries.exists_lookup_of_mem_keys hkey
        rw [ih, hfound]
        rfl
      · simp [ih, List.lookup_append]
    · have hnew : List.lookup key [(other, schema)] = none := by
        simp [List.lookup_cons, beq_eq_false_iff_ne.mpr hsame]
      have hrest : List.lookup key ((other, schema) :: rest) = rest.lookup key := by
        simp [List.lookup_cons, beq_eq_false_iff_ne.mpr hsame]
      rw [hrest]
      split
      · exact ih declared
      · rw [ih, List.lookup_append, hnew, Option.or_none]

/-- A key is looked up in one layer after the other. -/
theorem lookup_foldl_addMissing (properties : List (String × Schema)) (layers : List Schema)
    (key : String) :
    ((layers.filterMap properties?).foldl addMissing properties).lookup key =
      (properties.lookup key).or (layers.findSome? (·.property? key)) := by
  induction layers generalizing properties with
  | nil => simp
  | cons layer rest ih =>
    cases hlayer : layer.properties? with
    | none =>
      have hnone : layer.property? key = none := by simp [property?, hlayer]
      rw [List.filterMap_cons_none hlayer, ih, List.findSome?_cons_of_isNone (by simp [hnone])]
    | some declared =>
      have hproperty : layer.property? key = declared.lookup key := by simp [property?, hlayer]
      rw [List.filterMap_cons_some hlayer, List.foldl_cons, ih, lookup_addMissing,
        Option.or_assoc]
      congr 1
      cases hfound : declared.lookup key with
      | none => simp [List.findSome?, hproperty, hfound]
      | some found => simp [List.findSome?, hproperty, hfound]

/-- The first layer that declares a property decides on it. -/
theorem property?_compose (properties : List (String × Schema)) (required : List String)
    (additional : Additional) (layers : List Schema) (key : String) :
    ((object properties required additional).compose layers).property? key =
      (properties.lookup key).or (layers.findSome? (·.property? key)) :=
  lookup_foldl_addMissing properties layers key

section

variable {base : Schema} {properties : List (String × Schema)}

/-- The first of an object schema and its lower layers that declares a property decides on it. -/
theorem property?_compose_eq_findSome? (hobject : base.properties? = some properties)
    (layers : List Schema) (key : String) :
    (base.compose layers).property? key = (base :: layers).findSome? (·.property? key) := by
  cases base with
  | object declared required additional =>
    have hbase : (object declared required additional).property? key = declared.lookup key := rfl
    rw [property?_compose, List.findSome?_cons, hbase]
    cases declared.lookup key <;> rfl
  | _ => contradiction

/-- An object schema keeps its properties on top of those of the lower layers. -/
theorem properties?_compose (hobject : base.properties? = some properties)
    (layers : List Schema) :
    (base.compose layers).properties? =
      some ((layers.filterMap properties?).foldl addMissing properties) := by
  cases base with
  | object =>
    obtain rfl := Option.some.inj hobject
    rfl
  | _ => contradiction

/-- What is no object has no lower layers. -/
theorem compose_of_properties?_eq_none (hother : base.properties? = none) (layers : List Schema) :
    base.compose layers = base := by
  cases base with
  | object => contradiction
  | _ => rfl

end

/-- Lower layers may be added in two steps. -/
theorem compose_append (base : Schema) (layers lower : List Schema) :
    (base.compose layers).compose lower = base.compose (layers ++ lower) := by
  cases base with
  | object properties required additional =>
    rw [compose, compose, compose, List.filterMap_append, List.foldl_append]
  | _ => rfl

/-- The keys that layers declare, one layer after the other; only objects declare any. -/
def declaredKeys (layers : List Schema) : List String :=
  (layers.filterMap properties?).flatMap Entries.keys

/-- The keys of a lower layer are added to the declared ones. -/
theorem keys_addMissing (declared lower : List (String × Schema)) :
    Entries.keys (addMissing declared lower) =
      (Entries.keys lower).foldl Entries.insertName (Entries.keys declared) := by
  induction lower generalizing declared with
  | nil => rfl
  | cons entry rest ih =>
    have hstep : Entries.keys (if Entries.hasKey entry.1 declared then declared
        else declared ++ [entry]) = Entries.insertName (Entries.keys declared) entry.1 := by
      unfold Entries.hasKey Entries.insertName
      split
      · rfl
      · simp [Entries.keys]
    calc Entries.keys (addMissing declared (entry :: rest))
      _ = (Entries.keys rest).foldl Entries.insertName (Entries.keys
            (if Entries.hasKey entry.1 declared then declared else declared ++ [entry])) := ih _
      _ = (Entries.keys (entry :: rest)).foldl Entries.insertName (Entries.keys declared) := by
        rw [hstep]
        rfl

/-- The keys of several lower layers are added to the declared ones. -/
theorem keys_foldl_addMissing (properties : List (String × Schema))
    (lower : List (List (String × Schema))) :
    Entries.keys (lower.foldl addMissing properties) =
      (lower.flatMap Entries.keys).foldl Entries.insertName (Entries.keys properties) := by
  induction lower generalizing properties with
  | nil => rfl
  | cons layer rest ih =>
    rw [List.foldl_cons, ih, keys_addMissing, List.flatMap_cons, List.foldl_append]

/--
**Composition of layers.** The first one of an object schema and the layers below it that declares
a property decides on it, and no property is declared that none of them declares. The properties
are those of the uppermost layer in their order and then each new one in order of its first
appearance, none of them twice. What is required and what is said about other keys are left as they
are, as is a schema that is no object. Adding layers in two steps is adding them all in one.
-/
theorem first_layer_decides (base : Schema) (layers : List Schema) :
    (∀ properties, base.properties? = some properties →
      (∀ key schema, (base.compose layers).property? key = some schema ↔
        ∃ before layer after, base :: layers = before ++ layer :: after ∧
          layer.property? key = some schema ∧
            ∀ earlier ∈ before, earlier.property? key = none) ∧
      (∀ key, (base.compose layers).property? key = none ↔
        ∀ layer ∈ base :: layers, layer.property? key = none) ∧
      ∃ merged, (base.compose layers).properties? = some merged ∧
        Entries.keys merged = Entries.keys properties ++
          ((declaredKeys layers).filter (· ∉ Entries.keys properties)).eraseDups ∧
        ((Entries.keys properties).Nodup → (Entries.keys merged).Nodup)) ∧
    (base.compose layers).required? = base.required? ∧
    (base.compose layers).additional? = base.additional? ∧
    (base.properties? = none → base.compose layers = base) ∧
    ∀ lower, (base.compose layers).compose lower = base.compose (layers ++ lower) := by
  refine ⟨fun properties hobject => ⟨fun key schema => ?_, fun key => ?_, ?_⟩, ?_, ?_,
    fun hother => compose_of_properties?_eq_none hother layers, compose_append base layers⟩
  · rw [property?_compose_eq_findSome? hobject, List.findSome?_eq_some_iff]
  · rw [property?_compose_eq_findSome? hobject, List.findSome?_eq_none_iff]
  · have hkeys := keys_foldl_addMissing properties (layers.filterMap properties?)
    refine ⟨_, properties?_compose hobject layers, ?_, fun hdistinct => ?_⟩
    · rw [hkeys, Entries.foldl_insertName, declaredKeys]
    · rw [hkeys]
      exact Entries.nodup_foldl_insertName hdistinct _
  · cases base <;> rfl
  · cases base <;> rfl

end

/-- Over two objects and a schema that declares nothing, a label keeps its place and an opacity is
what the upper one of the objects says. -/
theorem first_layer_decides_on_opacity :
    let base := object [("label", string)] ["label"] .reject
    let dimmed := openObject [("opacity", range (some 0) (some 1) false), ("label", any)]
    let shown := openObject [("visible", boolean), ("opacity", number)]
    let composed := base.compose [dimmed, boolean, shown]
    composed.property? "opacity" = some (range (some 0) (some 1) false) ∧
      composed.property? "size" = none ∧
      (∃ merged, composed.properties? = some merged ∧
        Entries.keys merged = ["label", "opacity", "visible"] ∧ (Entries.keys merged).Nodup) ∧
      boolean.compose [shown] = boolean := by
  intro base dimmed shown composed
  obtain ⟨hobject, -⟩ := first_layer_decides base [dimmed, boolean, shown]
  obtain ⟨hsome, hnone, merged, hmerged, hkeys, hdistinct⟩ := hobject [("label", string)] rfl
  obtain ⟨-, -, -, hother, -⟩ := first_layer_decides boolean [shown]
  have habove : ∀ earlier ∈ [base], earlier.property? "opacity" = none :=
    List.forall_mem_singleton.mpr rfl
  have hnowhere : ∀ layer ∈ [base, dimmed, boolean, shown], layer.property? "size" = none := by
    simp only [List.forall_mem_cons]
    exact ⟨rfl, rfl, rfl, rfl, nofun⟩
  refine ⟨(hsome _ _).mpr ⟨[base], dimmed, [boolean, shown], rfl, rfl, habove⟩,
    (hnone _).mpr hnowhere, ⟨merged, hmerged, ?_, hdistinct (by decide)⟩, hother rfl⟩
  rw [hkeys]
  decide

end ControlProps.Schema
