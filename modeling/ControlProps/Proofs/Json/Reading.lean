import ControlProps.Json.Reader
import ControlProps.Proofs.Value.RoundTrip

/-!
# Readings of plain values

A value that is not read from a text has a reading without faults. What is taken from this reading
is the value again, except that of members with one key only the last is left.
-/

namespace ControlProps

namespace Json

mutual

/-- The value with each of its objects made a table. -/
def tabled : Json → Json
  | null => null
  | bool value => bool value
  | int value => int value
  | float value => float value
  | string value => string value
  | array items => array (tabledItems items)
  | object members => object (Entries.ofList (tabledMembers members))

/-- The items with each of their objects made a table. -/
def tabledItems : List Json → List Json
  | [] => []
  | item :: rest => item.tabled :: tabledItems rest

/-- The members with each of their objects made a table. -/
def tabledMembers : List (String × Json) → List (String × Json)
  | [] => []
  | (key, value) :: rest => (key, value.tabled) :: tabledMembers rest

end

/-- Items are made tables one by one. -/
theorem tabledItems_eq_map {items : List Json} : tabledItems items = items.map tabled := by
  induction items with
  | nil => rfl
  | cons item rest ih => rw [tabledItems, ih, List.map_cons]

/-- Members are made tables one by one, each under its key. -/
theorem tabledMembers_eq_map {members : List (String × Json)} :
    tabledMembers members = members.map fun member => (member.1, member.2.tabled) := by
  induction members with
  | nil => rfl
  | cons member rest ih => rw [tabledMembers, ih, List.map_cons]

end Json

namespace Reading

mutual

/-- A value is taken from its own reading, with each of its objects made a table. -/
theorem toJson_ofJson : ∀ json : Json, (ofJson json).toJson = .ok json.tabled
  | .null | .bool _ | .int _ | .float _ | .string _ => rfl
  | .array items => by
    rw [ofJson, toJson, itemsToJson_ofItems 0 items]
    rfl
  | .object members => by
    rw [ofJson, toJson, membersToJson_ofMembers members]
    rfl

/-- Items are taken from their own readings. -/
theorem itemsToJson_ofItems :
    ∀ (index : Nat) (items : List Json),
      itemsToJson index (ofItems items) = .ok (Json.tabledItems items)
  | _, [] => rfl
  | index, item :: rest => by
    rw [ofItems, itemsToJson, toJson_ofJson item, itemsToJson_ofItems (index + 1) rest]
    rfl

/-- Members are taken from their own readings. -/
theorem membersToJson_ofMembers :
    ∀ members : List (String × Json),
      membersToJson (ofMembers members) = .ok (Json.tabledMembers members)
  | [] => rfl
  | (_, value) :: rest => by
    rw [ofMembers, membersToJson, toJson_ofJson value, membersToJson_ofMembers rest]
    rfl

end

end Reading

/-- Items whose objects are tables already are left as they are. -/
theorem Value.tabledItems_itemsToJson {items : List Value}
    (hitems : ∀ item ∈ items, item.toJson.tabled = item.toJson) :
    Json.tabledItems (itemsToJson items) = itemsToJson items := by
  rw [itemsToJson_eq_map, Json.tabledItems_eq_map, List.map_map]
  exact List.map_congr_left hitems

/-- The objects of a property value are tables already. -/
theorem Value.tabled_toJson {value : Value} (hkeys : value.DistinctKeys) :
    value.toJson.tabled = value.toJson := by
  induction value with
  | null => rfl
  | bool b => rfl
  | int i => rfl
  | float x =>
    rw [toJson]
    split
    · rfl
    · rfl
  | string text => rfl
  | array items ih =>
    rw [DistinctKeys, everywhere_array] at hkeys
    have hitems := tabledItems_itemsToJson fun item hitem => ih item hitem (hkeys.2 item hitem)
    rw [toJson, Json.tabled, hitems]
  | object entries ih =>
    rw [DistinctKeys, everywhere_object] at hkeys
    have hentries : Json.tabledMembers (entriesToJson entries) = entriesToJson entries := by
      rw [entriesToJson_eq_map, Json.tabledMembers_eq_map, List.map_map]
      refine List.map_congr_left fun entry hentry => ?_
      rw [Function.comp_apply, ih entry hentry (hkeys.2 entry hentry)]
    have hnodup : (Entries.keys (entriesToJson entries)).Nodup := by
      rw [entriesToJson_eq_map, Entries.keys, List.map_map]
      exact hkeys.1
    rw [toJson, Json.tabled, hentries, Entries.ofList_of_nodup hnodup]

end ControlProps
