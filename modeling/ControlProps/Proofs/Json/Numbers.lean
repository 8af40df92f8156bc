import ControlProps.Json.Reading
import ControlProps.Proofs.Json.Parts
import ControlProps.Proofs.Value.RoundTrip

/-!
# Numbers in JSON

The numbers that can stand in JSON are the integers of 64 bits, with or without a sign, and the
finite floats. Every value that such JSON stands for has finite floats only.
-/

namespace ControlProps

/-- Whether an atom can stand in JSON, which is only a question for numbers. -/
def Atom.isInRange : Atom → Bool
  | int value => Int64.minValue.toInt ≤ value ∧ value < UInt64.size
  | float value => value.isFinite
  | _ => true

/-- An integer can stand in JSON if it fits 64 bits, with or without a sign. -/
theorem Atom.isInRange_int_iff {value : Int} :
    (int value).isInRange = true ↔ Int64.minValue.toInt ≤ value ∧ value < UInt64.size :=
  decide_eq_true_iff

namespace Json

mutual

/-- Whether all numbers in a value can stand in JSON. -/
def hasNumbersInRange : Json → Bool
  | int value => Atom.isInRange (.int value)
  | float value => Atom.isInRange (.float value)
  | array items => haveNumbersInRange items
  | object members => membersHaveNumbersInRange members
  | _ => true

/-- Whether all numbers in items can stand in JSON. -/
def haveNumbersInRange : List Json → Bool
  | [] => true
  | item :: rest => item.hasNumbersInRange && haveNumbersInRange rest

/-- Whether all numbers in members can stand in JSON. -/
def membersHaveNumbersInRange : List (String × Json) → Bool
  | [] => true
  | (_, value) :: rest => value.hasNumbersInRange && membersHaveNumbersInRange rest

end

/-- Items are checked one by one. -/
theorem haveNumbersInRange_iff {items : List Json} :
    haveNumbersInRange items = true ↔ ∀ item ∈ items, item.hasNumbersInRange = true := by
  induction items with
  | nil => simp [haveNumbersInRange]
  | cons item rest ih => simp [haveNumbersInRange, ih]

/-- Members are checked one by one. -/
theorem membersHaveNumbersInRange_iff {members : List (String × Json)} :
    membersHaveNumbersInRange members = true ↔
      ∀ member ∈ members, member.2.hasNumbersInRange = true := by
  induction members with
  | nil => simp [membersHaveNumbersInRange]
  | cons member rest ih => simp [membersHaveNumbersInRange, ih]

end Json

namespace Value

/-- An integer or the float nearest to it is finite if it fits 64 bits. -/
theorem isFinite_ofInt {value : Int} (hvalue : (Atom.int value).isInRange = true) :
    (ofInt value).Everywhere IsFinite := by
  have hbounds := Atom.isInRange_int_iff.mp hvalue
  have hleast : Int64.minValue.toInt = -2 ^ 63 := by decide
  have hmost : (UInt64.size : Int) = 2 ^ 64 := by decide
  unfold ofInt
  split
  · exact everywhere_int.mpr trivial
  · exact everywhere_float.mpr (Binary64.isFinite_ofInt (by omega))

/-- All floats in the value of JSON are finite. -/
theorem isFinite_ofJson {json : Json} (hjson : json.hasNumbersInRange = true) :
    (ofJson json).Everywhere IsFinite := by
  induction json using Json.childrenInduction with
  | step json ih =>
    cases json with
    | null => exact everywhere_null.mpr trivial
    | bool value => exact everywhere_bool.mpr trivial
    | int value => exact isFinite_ofInt hjson
    | float value => exact everywhere_float.mpr hjson
    | string value => exact everywhere_string.mpr trivial
    | array items =>
      have hitems := Json.haveNumbersInRange_iff.mp hjson
      rw [ofJson, ofItems_eq_map, everywhere_isFinite_array, List.forall_mem_map]
      exact fun item hitem => ih item hitem (hitems item hitem)
    | object members =>
      have hmembers := Json.membersHaveNumbersInRange_iff.mp hjson
      rw [ofJson, ofMembers_eq_map, everywhere_isFinite_object, List.forall_mem_map]
      exact fun member hmember =>
        ih member.2 (List.mem_map_of_mem hmember) (hmembers member hmember)

end Value

end ControlProps
