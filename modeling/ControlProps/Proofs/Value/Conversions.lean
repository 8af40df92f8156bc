import ControlProps.Proofs.Json.Numbers
import ControlProps.Proofs.Json.Parts

/-!
# Conversions between values and JSON

JSON has integers that are greater than any integer of a value, and a value may have floats that are
not finite, for which JSON has no form. All else comes back from the other side as it was, with its
kind of number and at its place.
-/

namespace ControlProps

namespace Json

/-- No integer, or one of 64 bits with a sign. -/
def FitsSigned : Json → Prop
  | int value => Int64.minValue.toInt ≤ value ∧ value ≤ Int64.maxValue.toInt
  | _ => True

/-- What is written after JSON is read as a value. -/
def throughValue (json : Json) : Json := (Value.ofJson json).toJson

/-- An integer comes through exactly if it is read as an integer. -/
theorem throughValue_int_iff {value : Int} :
    (int value).throughValue = int value ↔ (int value).FitsSigned := by
  rw [throughValue, Value.ofJson, Value.ofInt, FitsSigned]
  by_cases hrange : Int64.minValue.toInt ≤ value ∧ value ≤ Int64.maxValue.toInt
  · refine iff_of_true ?_ hrange
    have hleast : Int64.minValue.toInt = -2 ^ 63 := by decide
    have hmost : Int64.maxValue.toInt = 2 ^ 63 - 1 := by decide
    rw [if_pos hrange, Value.toJson, Int64.toInt_ofInt_of_le (by omega) (by omega)]
  · -- a float was read, and no float is written as an integer
    refine iff_of_false ?_ hrange
    rw [if_neg hrange, Value.toJson]
    split <;> simp

/-- A finite float comes through. -/
theorem throughValue_float {value : Binary64} (hfinite : value.isFinite = true) :
    (float value).throughValue = float value := by
  rw [throughValue, Value.ofJson, Value.toJson, if_pos hfinite]

/-- The items of an array come through one by one. -/
theorem throughValue_array {items : List Json} :
    (array items).throughValue = array (items.map throughValue) := by
  rw [throughValue, Value.ofJson, Value.toJson, Value.ofItems_eq_map, Value.itemsToJson_eq_map,
    List.map_map]
  rfl

/-- The members of an object come through one by one, each under its key. -/
theorem throughValue_object {members : List (String × Json)} :
    (object members).throughValue =
      object (members.map fun member => (member.1, member.2.throughValue)) := by
  rw [throughValue, Value.ofJson, Value.toJson, Value.ofMembers_eq_map, Value.entriesToJson_eq_map,
    List.map_map]
  rfl

/-- JSON comes through as it was exactly if a value can hold each integer in it. -/
theorem throughValue_eq_self_iff {json : Json} (hjson : json.hasNumbersInRange = true) :
    json.throughValue = json ↔ json.Everywhere FitsSigned := by
  induction json using childrenInduction with
  | step json ih =>
    cases json with
    | null => exact iff_of_true rfl (everywhere_null.mpr trivial)
    | bool value => exact iff_of_true rfl (everywhere_bool.mpr trivial)
    | int value => rw [everywhere_int, throughValue_int_iff]
    | float value => exact iff_of_true (throughValue_float hjson) (everywhere_float.mpr trivial)
    | string value => exact iff_of_true rfl (everywhere_string.mpr trivial)
    | array items =>
      have hitems := haveNumbersInRange_iff.mp hjson
      rw [throughValue_array, array.injEq, map_eq_self_iff, everywhere_array,
        and_iff_right (by trivial)]
      exact forall₂_congr fun item hitem => ih item hitem (hitems item hitem)
    | object members =>
      have hmembers := membersHaveNumbersInRange_iff.mp hjson
      rw [throughValue_object, object.injEq, map_values_eq_self_iff, everywhere_object,
        and_iff_right (by trivial)]
      exact forall₂_congr fun member hmember =>
        ih member.2 (List.mem_map_of_mem hmember) (hmembers member hmember)

end Json

namespace Value

/--
**Conversions between values and JSON.** A value that is written as JSON and read again is exactly
what it was, with its kinds of numbers and the order of its keys, if and only if all floats in it
are finite. JSON, whose floats always are finite and whose integers always have 64 bits, with or
without a sign, is exactly what it was when it is read as a value and written again, if and only if
all integers in it have 64 bits with a sign.
-/
theorem conversions_lose_nothing_iff :
    (∀ value : Value, ofJson value.toJson = value ↔ value.Everywhere IsFinite) ∧
      ∀ json : Json, json.hasNumbersInRange = true →
        ((ofJson json).toJson = json ↔ json.Everywhere Json.FitsSigned) :=
  ⟨fun _ => reread_eq_self_iff, fun _ => Json.throughValue_eq_self_iff⟩

/-- The extreme integers, an integer beside the equal float, and negative zero come back, under keys
that are not sorted. -/
theorem extreme_numbers_come_back :
    let value : Value := .object [
      ("range", .array [.int Int64.minValue, .int Int64.maxValue]),
      ("last", .object [("same", .array [.int 3, .float 3]), ("empty", .null)]),
      ("first", .float (.signed true 0))]
    let json : Json := .object [
      ("range", .array [.int (-9223372036854775808), .int 9223372036854775807]),
      ("last", .object [("same", .array [.int 3, .float 3]), ("empty", .null)]),
      ("first", .float (.signed true 0))]
    value.Everywhere IsFinite ∧ json.hasNumbersInRange = true ∧ json.Everywhere Json.FitsSigned ∧
      ofJson value.toJson = value ∧ (ofJson json).toJson = json := by
  intro value json
  have hthree : Binary64.isFinite 3 = true := by decide +kernel
  have hzero : (Binary64.signed true 0).isFinite = true := by decide
  have hfinite : value.Everywhere IsFinite := by simp [value, IsFinite, hthree, hzero]
  have hjson : json.hasNumbersInRange = true := by decide +kernel
  have hleast : Int64.minValue.toInt = -9223372036854775808 := by decide
  have hmost : Int64.maxValue.toInt = 9223372036854775807 := by decide
  have hsigned : json.Everywhere Json.FitsSigned := by
    simp [json, Json.FitsSigned, hleast, hmost]
  exact ⟨hfinite, hjson, hsigned, (conversions_lose_nothing_iff.1 value).mpr hfinite,
    (conversions_lose_nothing_iff.2 json hjson).mpr hsigned⟩

end Value

end ControlProps
