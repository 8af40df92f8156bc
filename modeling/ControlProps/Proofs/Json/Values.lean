import ControlProps.Json.Reader
import ControlProps.Proofs.Except

/-!
# Values of readings

A reading has a value exactly if no fault is in it. The parts of its value are then the values of
its own parts.
-/

namespace ControlProps

namespace Reading

variable {start : Position} {index : Nat} {item : Reading} {items : List Reading} {key : Key}
  {members : List (Key × Reading)} {ending : Ending} {json : Json} {values : List Json}
  {entries : List (String × Json)}

/-- Structural induction, in which a claim is assumed for each item and each member. -/
@[elab_as_elim]
theorem partsInduction {motive : Reading → Prop}
    (atom : ∀ value start stop, motive (.atom value start stop))
    (array : ∀ start items ending, (∀ item ∈ items, motive item) →
      motive (.array start items ending))
    (object : ∀ start members ending, (∀ member ∈ members, motive member.2) →
      motive (.object start members ending))
    (broken : ∀ start found, motive (.broken start found)) : ∀ reading, motive reading :=
  -- the second and third claims range over items and members, the fourth over one member
  @Reading.rec motive (fun items => ∀ item ∈ items, motive item)
    (fun members => ∀ member ∈ members, motive member.2) (fun member => motive member.2)
    atom array object broken
    (fun _ h => absurd h List.not_mem_nil)
    (fun _ _ hhead htail => List.forall_mem_cons.mpr ⟨hhead, htail⟩)
    (fun _ h => absurd h List.not_mem_nil)
    (fun _ _ hhead htail => List.forall_mem_cons.mpr ⟨hhead, htail⟩)
    (fun _ _ h => h)

/-- Items have values if the first one has and the others have. -/
theorem itemsToJson_cons_eq_ok_iff :
    itemsToJson index (item :: items) = .ok values ↔
      ∃ value others, item.toJson = .ok value ∧ itemsToJson (index + 1) items = .ok others ∧
        values = value :: others := by
  rw [itemsToJson, bind_eq_ok_iff]
  constructor
  · rintro ⟨value, hvalue, hrest⟩
    obtain ⟨others, hothers, hlast⟩ := bind_pure_eq_ok_iff.mp hrest
    exact ⟨value, others, mapError_eq_ok_iff.mp hvalue, hothers, hlast.symm⟩
  · rintro ⟨value, others, hvalue, hothers, rfl⟩
    exact ⟨value, mapError_eq_ok_iff.mpr hvalue, bind_eq_ok_iff.mpr ⟨others, hothers, rfl⟩⟩

/-- Members have values if the first one has and the others have. -/
theorem membersToJson_cons_eq_ok_iff :
    membersToJson ((key, item) :: members) = .ok entries ↔
      ∃ value others, item.toJson = .ok value ∧ membersToJson members = .ok others ∧
        entries = (key.text, value) :: others := by
  rw [membersToJson, bind_eq_ok_iff]
  constructor
  · rintro ⟨value, hvalue, hrest⟩
    obtain ⟨others, hothers, hlast⟩ := bind_pure_eq_ok_iff.mp hrest
    exact ⟨value, others, mapError_eq_ok_iff.mp hvalue, hothers, hlast.symm⟩
  · rintro ⟨value, others, hvalue, hothers, rfl⟩
    exact ⟨value, mapError_eq_ok_iff.mpr hvalue, bind_eq_ok_iff.mpr ⟨others, hothers, rfl⟩⟩

/-- An array has a value if its items have and it is closed. -/
theorem toJson_array_eq_ok_iff :
    (array start items ending).toJson = .ok json ↔
      ∃ values stop, itemsToJson 0 items = .ok values ∧ ending = .closed stop ∧
        json = .array values := by
  rw [toJson, bind_eq_ok_iff]
  constructor
  · rintro ⟨values, hvalues, hlast⟩
    cases ending with
    | closed stop => exact ⟨values, stop, hvalues, rfl, (pure_eq_ok_iff.mp hlast).symm⟩
    | broken found => contradiction
  · rintro ⟨values, stop, hvalues, rfl, rfl⟩
    exact ⟨values, hvalues, rfl⟩

/-- An object has a value if its members have and it is closed; of a repeated key, the last value
counts. -/
theorem toJson_object_eq_ok_iff :
    (object start members ending).toJson = .ok json ↔
      ∃ entries stop, membersToJson members = .ok entries ∧ ending = .closed stop ∧
        json = .object (Entries.ofList entries) := by
  rw [toJson, bind_eq_ok_iff]
  constructor
  · rintro ⟨entries, hentries, hlast⟩
    cases ending with
    | closed stop => exact ⟨entries, stop, hentries, rfl, (pure_eq_ok_iff.mp hlast).symm⟩
    | broken found => contradiction
  · rintro ⟨entries, stop, hentries, rfl, rfl⟩
    exact ⟨entries, hentries, rfl⟩

section Properties

variable {p : Json → Prop}

/-- What holds of the value of each item holds of each of the values. -/
theorem forall_mem_of_itemsToJson (hitems : ∀ item ∈ items, ∀ json, item.toJson = .ok json → p json)
    (hvalues : itemsToJson index items = .ok values) : ∀ value ∈ values, p value := by
  induction items generalizing index values with
  | nil =>
    rw [itemsToJson] at hvalues
    obtain rfl := Except.ok.inj hvalues
    exact List.forall_mem_nil _
  | cons item rest ih =>
    obtain ⟨value, others, hvalue, hothers, rfl⟩ := itemsToJson_cons_eq_ok_iff.mp hvalues
    obtain ⟨hitem, hitems⟩ := List.forall_mem_cons.mp hitems
    exact List.forall_mem_cons.mpr ⟨hitem value hvalue, ih hitems hothers⟩

/-- What holds of the value of each member holds of each of the values. -/
theorem forall_mem_of_membersToJson
    (hmembers : ∀ member ∈ members, ∀ json, member.2.toJson = .ok json → p json)
    (hentries : membersToJson members = .ok entries) : ∀ entry ∈ entries, p entry.2 := by
  induction members generalizing entries with
  | nil =>
    rw [membersToJson] at hentries
    obtain rfl := Except.ok.inj hentries
    exact List.forall_mem_nil _
  | cons member rest ih =>
    obtain ⟨value, others, hvalue, hothers, rfl⟩ := membersToJson_cons_eq_ok_iff.mp hentries
    obtain ⟨hmember, hmembers⟩ := List.forall_mem_cons.mp hmembers
    exact List.forall_mem_cons.mpr ⟨hmember value hvalue, ih hmembers hothers⟩

end Properties

/-- Whether a value ends with a closing bracket. -/
def IsContainer : Reading → Prop
  | array .. | object .. => True
  | _ => False

/-- Whether no fault is in a reading: it has a value. -/
def IsWhole (reading : Reading) : Prop := ∃ json, reading.toJson = .ok json

/-- Whether no fault is in the value of a member. -/
def IsMemberWhole (member : Key × Reading) : Prop := member.2.IsWhole

/-- Whether no fault is in or between parts. -/
def ArePartsWhole {β : Type} (whole : β → Prop) (parts : List β) (ending : Ending) : Prop :=
  (∀ part ∈ parts, whole part) ∧ ∃ stop, ending = .closed stop

/-- A fault is not whole. -/
theorem not_isWhole_broken (start : Position) (found : FaultAt) :
    ¬(broken start found).IsWhole := by
  rintro ⟨json, hjson⟩
  rw [toJson] at hjson
  contradiction

/-- An atom is whole. -/
theorem isWhole_atom (value : Atom) (start stop : Position) : (atom value start stop).IsWhole :=
  ⟨value.toJson, by rw [toJson]⟩

/-- Items have values if each of them is whole. -/
theorem exists_itemsToJson_iff :
    (∃ values, itemsToJson index items = .ok values) ↔ ∀ item ∈ items, item.IsWhole := by
  induction items generalizing index with
  | nil => simp [itemsToJson]
  | cons item rest ih =>
    rw [List.forall_mem_cons, ← @ih (index + 1)]
    simp only [itemsToJson_cons_eq_ok_iff]
    constructor
    · rintro ⟨_, value, others, hvalue, hothers, _⟩
      exact ⟨⟨value, hvalue⟩, others, hothers⟩
    · rintro ⟨⟨value, hvalue⟩, others, hothers⟩
      exact ⟨_, value, others, hvalue, hothers, rfl⟩

/-- Members have values if each of them is whole. -/
theorem exists_membersToJson_iff :
    (∃ entries, membersToJson members = .ok entries) ↔
      ∀ member ∈ members, IsMemberWhole member := by
  induction members with
  | nil => simp [membersToJson]
  | cons member rest ih =>
    obtain ⟨key, member⟩ := member
    rw [List.forall_mem_cons, ← ih]
    simp only [membersToJson_cons_eq_ok_iff]
    constructor
    · rintro ⟨_, value, others, hvalue, hothers, _⟩
      exact ⟨⟨value, hvalue⟩, others, hothers⟩
    · rintro ⟨⟨value, hvalue⟩, others, hothers⟩
      exact ⟨_, value, others, hvalue, hothers, rfl⟩

/-- An array is whole if its items are. -/
theorem isWhole_array_iff :
    (array start items ending).IsWhole ↔ ArePartsWhole IsWhole items ending := by
  rw [ArePartsWhole, ← @exists_itemsToJson_iff 0, IsWhole]
  simp only [toJson_array_eq_ok_iff]
  constructor
  · rintro ⟨_, values, stop, hvalues, hstop, _⟩
    exact ⟨⟨values, hvalues⟩, stop, hstop⟩
  · rintro ⟨⟨values, hvalues⟩, stop, hstop⟩
    exact ⟨_, values, stop, hvalues, hstop, rfl⟩

/-- An object is whole if its members are. -/
theorem isWhole_object_iff :
    (object start members ending).IsWhole ↔ ArePartsWhole IsMemberWhole members ending := by
  rw [ArePartsWhole, ← exists_membersToJson_iff, IsWhole]
  simp only [toJson_object_eq_ok_iff]
  constructor
  · rintro ⟨_, entries, stop, hentries, hstop, _⟩
    exact ⟨⟨entries, hentries⟩, stop, hstop⟩
  · rintro ⟨⟨entries, hentries⟩, stop, hstop⟩
    exact ⟨_, entries, stop, hentries, hstop, rfl⟩

end Reading

end ControlProps
