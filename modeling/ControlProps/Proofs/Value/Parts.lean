import ControlProps.Proofs.Entries
import ControlProps.Validation.Record

/-!
# Parts of values

A list of steps leads from a value to the parts that lie within it. What is said of a value "at any
depth" is said of all its parts.
-/

namespace ControlProps

namespace Value

/-- Structural induction, in which a claim is assumed for each item and each entry. -/
@[elab_as_elim, induction_eliminator]
theorem partsInduction {motive : Value → Prop} (null : motive .null)
    (bool : ∀ value, motive (.bool value)) (int : ∀ value, motive (.int value))
    (float : ∀ value, motive (.float value)) (string : ∀ value, motive (.string value))
    (array : ∀ items, (∀ item ∈ items, motive item) → motive (.array items))
    (object : ∀ entries, (∀ entry ∈ entries, motive entry.2) → motive (.object entries)) :
    ∀ value, motive value :=
  -- the second and third claims range over items and entries, the fourth over one entry
  @Value.rec motive (fun items => ∀ item ∈ items, motive item)
    (fun entries => ∀ entry ∈ entries, motive entry.2) (fun entry => motive entry.2)
    null bool int float string array object
    (fun _ h => absurd h List.not_mem_nil)
    (fun _ _ hhead htail => List.forall_mem_cons.mpr ⟨hhead, htail⟩)
    (fun _ h => absurd h List.not_mem_nil)
    (fun _ _ hhead htail => List.forall_mem_cons.mpr ⟨hhead, htail⟩)
    (fun _ _ h => h)

/-- The steps lead from the first value to the second. -/
inductive HasPartAt : Value → List Step → Value → Prop
  | here {value : Value} : HasPartAt value [] value
  | item {items : List Value} {index : Nat} {child part : Value} {place : List Step}
      (hitem : items[index]? = some child) (hpart : HasPartAt child place part) :
      HasPartAt (.array items) (.index index :: place) part
  | entry {entries : List (String × Value)} {key : String} {child part : Value} {place : List Step}
      (hentry : (key, child) ∈ entries) (hpart : HasPartAt child place part) :
      HasPartAt (.object entries) (.key key :: place) part

/-- All parts of a value, itself among them, have a property. -/
def Everywhere (holds : Value → Prop) (value : Value) : Prop :=
  ∀ place part, value.HasPartAt place part → holds part

namespace Everywhere

variable {holds : Value → Prop}

/-- What holds everywhere holds of the value itself. -/
theorem self {value : Value} (h : value.Everywhere holds) : holds value := h [] value .here

/-- What holds everywhere in an array holds everywhere in its items. -/
theorem item {items : List Value} {child : Value} (h : (array items).Everywhere holds)
    (hitem : child ∈ items) : child.Everywhere holds := by
  obtain ⟨index, hindex⟩ := List.getElem?_of_mem hitem
  exact fun place part hpart => h (.index index :: place) part (.item hindex hpart)

/-- What holds everywhere in an object holds everywhere in its entries. -/
theorem entry {entries : List (String × Value)} {key : String} {child : Value}
    (h : (object entries).Everywhere holds) (hentry : (key, child) ∈ entries) :
    child.Everywhere holds :=
  fun place part hpart => h (.key key :: place) part (.entry hentry hpart)

end Everywhere

variable {holds : Value → Prop}

/-- A property of all parts of an array is one of itself and of all parts of its items. -/
@[simp] theorem everywhere_array {items : List Value} :
    (array items).Everywhere holds ↔
      holds (array items) ∧ ∀ item ∈ items, item.Everywhere holds := by
  constructor
  · exact fun h => ⟨h.self, fun _ => h.item⟩
  · rintro ⟨hself, hitems⟩ place part hpart
    cases hpart with
    | here => exact hself
    | item hitem hpart => exact hitems _ (List.mem_of_getElem? hitem) _ _ hpart

/-- A property of all parts of an object is one of itself and of all parts of its entries. -/
@[simp] theorem everywhere_object {entries : List (String × Value)} :
    (object entries).Everywhere holds ↔
      holds (object entries) ∧ ∀ entry ∈ entries, entry.2.Everywhere holds := by
  constructor
  · exact fun h => ⟨h.self, fun _ => h.entry⟩
  · rintro ⟨hself, hentries⟩ place part hpart
    cases hpart with
    | here => exact hself
    | entry hentry hpart => exact hentries _ hentry _ _ hpart

/-- A value without items or entries is its only part. -/
theorem everywhere_leaf {value : Value} (harray : value.array? = none)
    (hobject : value.object? = none) : value.Everywhere holds ↔ holds value := by
  refine ⟨Everywhere.self, fun h place part hpart => ?_⟩
  cases hpart with
  | here => exact h
  | item => simp [array?] at harray
  | entry => simp [object?] at hobject

@[simp] theorem everywhere_null : null.Everywhere holds ↔ holds null := everywhere_leaf rfl rfl

@[simp] theorem everywhere_bool {b : Bool} : (bool b).Everywhere holds ↔ holds (bool b) :=
  everywhere_leaf rfl rfl

@[simp] theorem everywhere_int {i : Int64} : (int i).Everywhere holds ↔ holds (int i) :=
  everywhere_leaf rfl rfl

@[simp] theorem everywhere_float {x : Binary64} : (float x).Everywhere holds ↔ holds (float x) :=
  everywhere_leaf rfl rfl

@[simp] theorem everywhere_string {text : String} :
    (string text).Everywhere holds ↔ holds (string text) :=
  everywhere_leaf rfl rfl

/-- The keys of an object differ from each other; other values have none. -/
def HasDistinctKeys : Value → Prop
  | object entries => (Entries.keys entries).Nodup
  | _ => True

/-- No object in a value repeats a key, as no table does. -/
def DistinctKeys (value : Value) : Prop := value.Everywhere HasDistinctKeys

end Value

end ControlProps
