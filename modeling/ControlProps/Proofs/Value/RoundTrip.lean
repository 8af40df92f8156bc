import ControlProps.Proofs.Binary64.Integers
import ControlProps.Proofs.Pairing
import ControlProps.Proofs.Value.Parts
import Mathlib.Data.List.Forall2

/-!
# Values written and read back

Only a float that is not finite is lost on the way through JSON: it comes back as `null`. Every
other value comes back equal to what it was.
-/

namespace ControlProps.Value

-- writing and reading follow the shape of what they are given
attribute [simp] toJson itemsToJson entriesToJson ofJson ofItems ofMembers

variable {sameNumber : Value → Value → Bool}

/-- Items are equal one by one. -/
theorem itemsEqualBy_iff {as bs : List Value} :
    itemsEqualBy sameNumber as bs = true ↔
      List.Forall₂ (fun a b => equalBy sameNumber a b = true) as bs := by
  induction as generalizing bs with
  | nil => cases bs <;> simp [itemsEqualBy]
  | cons a as ih => cases bs <;> simp [itemsEqualBy, ih]

/-- Entries are equal if a look-up of each key finds an equal value. -/
theorem entriesEqualBy_iff {as bs : List (String × Value)} :
    entriesEqualBy sameNumber as bs = true ↔
      ∀ entry ∈ as, ∃ b, bs.lookup entry.1 = some b ∧ equalBy sameNumber entry.2 b = true := by
  induction as with
  | nil => simp [entriesEqualBy]
  | cons entry as ih =>
    obtain ⟨key, a⟩ := entry
    cases hfound : bs.lookup key <;> simp [entriesEqualBy, hfound, ih]

/-- Only `null` stands for `null`. -/
theorem isNull_ofJson_iff {json : Json} : (ofJson json).isNull = true ↔ json = .null := by
  cases json with
  | int value =>
    rw [ofJson, ofInt]
    split <;> simp [isNull]
  | _ => simp [isNull]

/-- A bag comes from JSON if that stands for an object with its entries. -/
theorem bag?_eq_some_iff {json : Json} {bag : PropertyBag} :
    bag? json = some bag ↔ ofJson json = .object bag := by
  rw [bag?]
  cases ofJson json <;> simp [object?]

/-- Items are written one by one. -/
theorem itemsToJson_eq_map {items : List Value} : itemsToJson items = items.map toJson := by
  induction items with
  | nil => rfl
  | cons item rest ih => rw [itemsToJson, ih, List.map_cons]

/-- Entries are written one by one, each under its key. -/
theorem entriesToJson_eq_map {entries : List (String × Value)} :
    entriesToJson entries = entries.map fun entry => (entry.1, entry.2.toJson) := by
  induction entries with
  | nil => rfl
  | cons entry rest ih => rw [entriesToJson, ih, List.map_cons]

/-- Items are read one by one. -/
theorem ofItems_eq_map {items : List Json} : ofItems items = items.map ofJson := by
  induction items with
  | nil => rfl
  | cons item rest ih => rw [ofItems, ih, List.map_cons]

/-- Members are read one by one, each under its key. -/
theorem ofMembers_eq_map {members : List (String × Json)} :
    ofMembers members = members.map fun member => (member.1, ofJson member.2) := by
  induction members with
  | nil => rfl
  | cons member rest ih => rw [ofMembers, ih, List.map_cons]

/-- What is read back after a value is written. -/
def reread (value : Value) : Value := ofJson value.toJson

/-- Literals that are written and read back come back one by one. -/
theorem ofItems_itemsToJson {items : List Value} :
    ofItems (itemsToJson items) = items.map reread := by
  rw [ofItems_eq_map, itemsToJson_eq_map, List.map_map]
  rfl

/-- An integer comes back: it is within its own range. -/
theorem reread_int {value : Int64} : (int value).reread = int value := by
  rw [reread, toJson, ofJson, ofInt, if_pos ⟨value.minValue_le_toInt, value.toInt_le⟩,
    Int64.ofInt_toInt]

/-- The items of an array come back one by one. -/
theorem reread_array {items : List Value} : (array items).reread = array (items.map reread) := by
  rw [reread, toJson, ofJson, ofItems_itemsToJson]

/-- The entries of an object come back one by one. -/
theorem reread_object {entries : List (String × Value)} :
    (object entries).reread = object (entries.map fun entry => (entry.1, entry.2.reread)) := by
  rw [reread, toJson, ofJson, ofMembers_eq_map, entriesToJson_eq_map, List.map_map]
  rfl

/-- No float, or a finite one. -/
def IsFinite : Value → Prop
  | float value => value.isFinite = true
  | _ => True

@[simp] theorem isFinite_float_iff {x : Binary64} : (float x).IsFinite ↔ x.isFinite = true :=
  Iff.rfl

/-- All floats in an array are finite if those in its items are. -/
theorem everywhere_isFinite_array {items : List Value} :
    (array items).Everywhere IsFinite ↔ ∀ item ∈ items, item.Everywhere IsFinite := by
  rw [everywhere_array, and_iff_right (by trivial)]

/-- All floats in an object are finite if those in its entries are. -/
theorem everywhere_isFinite_object {entries : List (String × Value)} :
    (object entries).Everywhere IsFinite ↔ ∀ entry ∈ entries, entry.2.Everywhere IsFinite := by
  rw [everywhere_object, and_iff_right (by trivial)]

/-- A value comes back exactly as it was if and only if all floats in it are finite. -/
theorem reread_eq_self_iff {value : Value} :
    value.reread = value ↔ value.Everywhere IsFinite := by
  induction value with
  | null => exact iff_of_true rfl (everywhere_null.mpr trivial)
  | bool b => exact iff_of_true rfl (everywhere_bool.mpr trivial)
  | int i => exact iff_of_true reread_int (everywhere_int.mpr trivial)
  | float x => by_cases hx : x.isFinite = true <;> simp [reread, hx, IsFinite]
  | string text => exact iff_of_true rfl (everywhere_string.mpr trivial)
  | array items ih =>
    rw [reread_array, array.injEq, map_eq_self_iff, everywhere_isFinite_array]
    exact forall₂_congr ih
  | object entries ih =>
    rw [reread_object, object.injEq, map_values_eq_self_iff, everywhere_isFinite_object]
    exact forall₂_congr ih

/-- A value with finite floats comes back exactly as it was. -/
theorem reread_eq_self {value : Value} (hfinite : value.Everywhere IsFinite) :
    value.reread = value :=
  reread_eq_self_iff.mpr hfinite

/-- A value comes back equal to what it was exactly if all floats in it are finite. -/
theorem reread_equals_iff {value : Value} (hkeys : value.DistinctKeys) :
    value.reread.equals value = true ↔ value.Everywhere IsFinite := by
  induction value with
  | null => simp [reread, equals, equalBy, IsFinite]
  | bool b => simp [reread, equals, equalBy, IsFinite]
  | int i => simp [reread_int, equals, equalBy, sameNumberAndKind, IsFinite]
  | float x =>
    by_cases hx : x.isFinite = true
    · simp [reread, hx, equals, equalBy, sameNumberAndKind, IsFinite,
        Binary64.equals_self_of_isFinite hx]
    · simp [reread, hx, equals, equalBy, sameNumberAndKind, IsFinite]
  | string text => simp [reread, equals, equalBy, IsFinite]
  | array items ih =>
    simp only [DistinctKeys, everywhere_array] at hkeys
    rw [reread_array, equals, equalBy, itemsEqualBy_iff, List.forall₂_map_left_iff,
      List.forall₂_same, everywhere_isFinite_array]
    exact forall₂_congr fun item hitem => ih item hitem (hkeys.2 item hitem)
  | object entries ih =>
    simp only [DistinctKeys, everywhere_object] at hkeys
    rw [reread_object, equals, equalBy, List.length_map, beq_self_eq_true, Bool.true_and,
      entriesEqualBy_iff, List.forall_mem_map, everywhere_isFinite_object]
    refine forall₂_congr fun entry hentry => ?_
    rw [← ih entry hentry (hkeys.2 entry hentry)]
    simp [Entries.lookup_of_mem hkeys.1 hentry, equals]

end ControlProps.Value
