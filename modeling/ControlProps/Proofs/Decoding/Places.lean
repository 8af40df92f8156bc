import ControlProps.Catalog.Document
import ControlProps.Proofs.Entries
import ControlProps.Proofs.Json.Values

/-!
# Decoding without places

The places of a reading only show in errors. A reading without faults, and without repeated keys,
is but for its places the reading of its own value.
-/

namespace ControlProps

namespace Reading

mutual

/-- Whether no key is repeated in an object. -/
def hasDistinctKeys : Reading → Bool
  | atom .. | broken .. => true
  | array _ items _ => haveDistinctKeys items
  | object _ members _ =>
    decide (members.map fun member => member.1.text).Nodup && membersHaveDistinctKeys members

/-- Whether no key is repeated in an object of these items. -/
def haveDistinctKeys : List Reading → Bool
  | [] => true
  | item :: rest => item.hasDistinctKeys && haveDistinctKeys rest

/-- Whether no key is repeated in an object of the values of these members. -/
def membersHaveDistinctKeys : List (Key × Reading) → Bool
  | [] => true
  | (_, member) :: rest => member.hasDistinctKeys && membersHaveDistinctKeys rest

end

end Reading

/-- An ending without its place. -/
def Ending.unplaced : Ending → Ending
  | closed _ => .closed default
  | broken found => .broken ⟨found.fault, default⟩

namespace Reading

mutual

/-- A reading without its places. -/
def unplaced : Reading → Reading
  | atom value _ _ => atom value default default
  | array _ items ending => array default (unplacedItems items) ending.unplaced
  | object _ members ending => object default (unplacedMembers members) ending.unplaced
  | broken _ found => broken default ⟨found.fault, default⟩

/-- Items without their places. -/
def unplacedItems : List Reading → List Reading
  | [] => []
  | item :: rest => item.unplaced :: unplacedItems rest

/-- Members without their places. -/
def unplacedMembers : List (Key × Reading) → List (Key × Reading)
  | [] => []
  | (key, member) :: rest => (⟨key.text, default⟩, member.unplaced) :: unplacedMembers rest

end

/-- Items are readings of their values if each of them is. -/
theorem unplacedItems_eq_ofItems {items : List Reading} {index : Nat} {values : List Json}
    (hitems : ∀ item ∈ items, ∀ {json}, item.toJson = .ok json → item.hasDistinctKeys = true →
      item.unplaced = ofJson json)
    (hvalues : itemsToJson index items = .ok values) (hkeys : haveDistinctKeys items = true) :
    unplacedItems items = ofItems values := by
  induction items generalizing index values with
  | nil =>
    obtain rfl := Except.ok.inj hvalues
    rfl
  | cons item rest ih =>
    obtain ⟨value, others, hvalue, hothers, rfl⟩ := itemsToJson_cons_eq_ok_iff.mp hvalues
    rw [haveDistinctKeys, Bool.and_eq_true] at hkeys
    obtain ⟨hitem, hitems⟩ := List.forall_mem_cons.mp hitems
    rw [unplacedItems, hitem hvalue hkeys.1, ih hitems hothers hkeys.2, ofItems]

/-- Members are readings of their values if each of them is, and their keys are the same. -/
theorem unplacedMembers_eq_ofMembers {members : List (Key × Reading)}
    {entries : List (String × Json)}
    (hmembers : ∀ member ∈ members, ∀ {json}, member.2.toJson = .ok json →
      member.2.hasDistinctKeys = true → member.2.unplaced = ofJson json)
    (hentries : membersToJson members = .ok entries)
    (hkeys : membersHaveDistinctKeys members = true) :
    unplacedMembers members = ofMembers entries ∧
      members.map (fun member => member.1.text) = Entries.keys entries := by
  induction members generalizing entries with
  | nil =>
    obtain rfl := Except.ok.inj hentries
    exact ⟨rfl, rfl⟩
  | cons member rest ih =>
    obtain ⟨key, member⟩ := member
    obtain ⟨value, others, hvalue, hothers, rfl⟩ := membersToJson_cons_eq_ok_iff.mp hentries
    rw [membersHaveDistinctKeys, Bool.and_eq_true] at hkeys
    obtain ⟨hmember, hmembers⟩ := List.forall_mem_cons.mp hmembers
    obtain ⟨hrest, hnames⟩ := ih hmembers hothers hkeys.2
    refine ⟨?_, congrArg (key.text :: ·) hnames⟩
    rw [unplacedMembers, hmember hvalue hkeys.1, hrest, ofMembers]

/-- Without its places, a reading without faults and repeated keys is that of its value. -/
theorem unplaced_eq_ofJson {reading : Reading} {json : Json} (hjson : reading.toJson = .ok json)
    (hkeys : reading.hasDistinctKeys = true) : reading.unplaced = ofJson json := by
  induction reading using partsInduction generalizing json with
  | atom value start stop =>
    obtain rfl := Except.ok.inj hjson
    cases value <;> rfl
  | array start items ending ih =>
    obtain ⟨values, stop, hvalues, rfl, rfl⟩ := toJson_array_eq_ok_iff.mp hjson
    rw [unplaced, unplacedItems_eq_ofItems ih hvalues hkeys, ofJson]
    rfl
  | object start members ending ih =>
    obtain ⟨entries, stop, hentries, rfl, rfl⟩ := toJson_object_eq_ok_iff.mp hjson
    rw [hasDistinctKeys, Bool.and_eq_true, decide_eq_true_eq] at hkeys
    obtain ⟨hmembers, hnames⟩ := unplacedMembers_eq_ofMembers ih hentries hkeys.2
    rw [unplaced, hmembers, Entries.ofList_of_nodup (hnames ▸ hkeys.1), ofJson]
    rfl
  | broken start found =>
    rw [toJson] at hjson
    contradiction

end Reading

section Results

variable {α β : Type} {first second : Except DecodeError α}

/-- Two results that agree but for the place of an error. -/
def AgreeOffPlaces (first second : Except DecodeError α) : Prop :=
  first.mapError DecodeError.withoutPlace = second.mapError DecodeError.withoutPlace

namespace AgreeOffPlaces

/-- Steps that agree one after the other. -/
theorem bind {next later : α → Except DecodeError β} (hfirst : AgreeOffPlaces first second)
    (hnext : ∀ a, AgreeOffPlaces (next a) (later a)) :
    AgreeOffPlaces (first >>= next) (second >>= later) := by
  unfold AgreeOffPlaces at hfirst
  cases first with
  | error one =>
    cases second with
    | error other => exact congrArg Except.error (Except.error.inj hfirst)
    | ok b => contradiction
  | ok a =>
    cases second with
    | error other => contradiction
    | ok b =>
      obtain rfl := Except.ok.inj hfirst
      exact hnext a

/-- Seen from further up, errors still agree. -/
theorem under (step : PathStep) (h : AgreeOffPlaces first second) :
    AgreeOffPlaces (first.mapError (DecodeError.under step))
      (second.mapError (DecodeError.under step)) := by
  have hcomm (result : Except DecodeError α) :
      (result.mapError (DecodeError.under step)).mapError DecodeError.withoutPlace =
        (result.mapError DecodeError.withoutPlace).mapError (DecodeError.under step) := by
    cases result <;> rfl
  unfold AgreeOffPlaces at h ⊢
  rw [hcomm, hcomm, h]

end AgreeOffPlaces

end Results

namespace Reading

variable {α : Type} {decode : Reading → Except DecodeError α}

/-- What is decoded does not depend on places. -/
def IsPlaceless (decode : Reading → Except DecodeError α) : Prop :=
  ∀ reading, AgreeOffPlaces (decode reading.unplaced) (decode reading)

/-- Of a misfit, only the place is lost. -/
theorem agree_misfit (reading : Reading) (expected : String) :
    AgreeOffPlaces (.error (reading.unplaced.misfit expected) : Except DecodeError α)
      (.error (reading.misfit expected)) := by
  cases reading <;> rfl

/-- Where an ending is looked for, it is a closing bracket with or without places. -/
theorem agree_bind_checkListEnd {next later : Position → Except DecodeError α} (ending : Ending)
    (hnext : ∀ here there, AgreeOffPlaces (next here) (later there)) :
    AgreeOffPlaces (checkListEnd ending.unplaced >>= next) (checkListEnd ending >>= later) := by
  cases ending with
  | closed stop => exact hnext _ _
  | broken found => rfl

/-- Where the ending of an object is looked for, it is one with or without places. -/
theorem agree_bind_checkObjectEnd {next later : Position → Except DecodeError α} (ending : Ending)
    (hnext : ∀ here there, AgreeOffPlaces (next here) (later there)) :
    AgreeOffPlaces (checkObjectEnd ending.unplaced >>= next) (checkObjectEnd ending >>= later) := by
  cases ending with
  | closed stop => exact hnext _ _
  | broken found => rfl

/-- What stands behind the last field of a list. -/
theorem agree_checkNoMore (length : Nat) (rest : List Reading) (ending : Ending) :
    AgreeOffPlaces (checkNoMore length (unplacedItems rest) ending.unplaced)
      (checkNoMore length rest ending) := by
  cases rest with
  | cons extra rest => rfl
  | nil =>
    cases ending with
    | closed stop => rfl
    | broken found =>
      obtain ⟨fault, position⟩ := found
      cases fault <;> rfl

/-- The number of items does not depend on places. -/
@[simp] theorem length_unplacedItems (items : List Reading) :
    (unplacedItems items).length = items.length := by
  induction items with
  | nil => rfl
  | cons item rest ih => simp [unplacedItems, ih]

/-- A fault further down is one error, whether it is first told as such or first seen from here. -/
theorem mapError_under_ofFault (step : PathStep) (result : Except FaultOnPath Json) :
    (result.mapError (FaultOnPath.under step)).mapError DecodeError.ofFault =
      (result.mapError DecodeError.ofFault).mapError (DecodeError.under step) := by
  cases result <;> rfl

mutual

/-- The first fault of a value is the same with or without places. -/
theorem agree_decodeJson : ∀ reading : Reading,
    AgreeOffPlaces (decodeJson reading.unplaced) (decodeJson reading)
  | atom .. => rfl
  | array start items ending => by
    rw [unplaced, decodeJson, decodeJson, toJson, toJson, mapError_bind, mapError_bind]
    refine (agree_itemsToJson 0 items).bind fun values => ?_
    cases ending <;> rfl
  | object start members ending => by
    rw [unplaced, decodeJson, decodeJson, toJson, toJson, mapError_bind, mapError_bind]
    refine (agree_membersToJson members).bind fun values => ?_
    cases ending <;> rfl
  | broken start found => rfl

/-- So is the first fault of items. -/
theorem agree_itemsToJson : ∀ (index : Nat) (items : List Reading),
    AgreeOffPlaces ((itemsToJson index (unplacedItems items)).mapError .ofFault)
      ((itemsToJson index items).mapError .ofFault)
  | _, [] => rfl
  | index, item :: rest => by
    rw [unplacedItems, itemsToJson, itemsToJson]
    simp only [mapError_bind, mapError_under_ofFault]
    exact ((agree_decodeJson item).under _).bind fun value =>
      (agree_itemsToJson (index + 1) rest).bind fun values => rfl

/-- So is the first fault of members. -/
theorem agree_membersToJson : ∀ members : List (Key × Reading),
    AgreeOffPlaces ((membersToJson (unplacedMembers members)).mapError .ofFault)
      ((membersToJson members).mapError .ofFault)
  | [] => rfl
  | (key, member) :: rest => by
    rw [unplacedMembers, membersToJson, membersToJson]
    simp only [mapError_bind, mapError_under_ofFault]
    exact ((agree_decodeJson member).under _).bind fun value =>
      (agree_membersToJson rest).bind fun values => rfl

end

/-- Any value is decoded as it is, wherever it stands. -/
theorem isPlaceless_decodeJson : IsPlaceless decodeJson := agree_decodeJson

/-- A text is decoded alike wherever it stands. -/
theorem isPlaceless_decodeText : IsPlaceless decodeText := by
  intro reading
  cases reading with
  | atom value start stop => cases value <;> rfl
  | _ => rfl

/-- The first element that is refused is so with or without places. -/
theorem agree_decodeElements (hdecode : IsPlaceless decode) (index : Nat) (items : List Reading) :
    AgreeOffPlaces (decodeElements decode index (unplacedItems items))
      (decodeElements decode index items) := by
  induction items generalizing index with
  | nil => rfl
  | cons item rest ih =>
    exact ((hdecode item).under _).bind fun value => (ih _).bind fun values => rfl

/-- A list does not depend on places if its elements do not. -/
theorem isPlaceless_decodeList (hdecode : IsPlaceless decode) :
    IsPlaceless (decodeList decode) := by
  intro reading
  cases reading with
  | array start items ending =>
    exact (agree_decodeElements hdecode 0 items).bind fun values =>
      agree_bind_checkListEnd ending fun _ _ => rfl
  | _ => exact agree_misfit _ _

/-- The first member that is refused is so with or without places. -/
theorem agree_decodeMembers (hdecode : IsPlaceless decode) (members : List (Key × Reading)) :
    AgreeOffPlaces (decodeMembers decode (unplacedMembers members))
      (decodeMembers decode members) := by
  induction members with
  | nil => rfl
  | cons member rest ih =>
    obtain ⟨key, member⟩ := member
    exact ((hdecode member).under _).bind fun value => ih.bind fun values => rfl

/-- A map does not depend on places if its values do not. -/
theorem isPlaceless_decodeMap (hdecode : IsPlaceless decode) :
    IsPlaceless (decodeMap decode) := by
  intro reading
  cases reading with
  | object start members ending =>
    exact (agree_decodeMembers hdecode members).bind fun values =>
      agree_bind_checkObjectEnd ending fun _ _ => rfl
  | _ => exact agree_misfit _ _

/-- The fields of a control, of which each may be given once. -/
theorem agree_decodeControlMembers (schema : Option Json) (hints : Option (List String))
    (ending : Ending) (members : List (Key × Reading)) :
    AgreeOffPlaces (decodeControlMembers schema hints ending.unplaced (unplacedMembers members))
      (decodeControlMembers schema hints ending members) := by
  induction members generalizing schema hints with
  | nil => exact agree_bind_checkObjectEnd ending fun _ _ => rfl
  | cons member rest ih =>
    obtain ⟨key, member⟩ := member
    unfold decodeControlMembers
    dsimp only [unplacedMembers]
    split
    · split
      · rfl
      · exact ((isPlaceless_decodeJson member).under _).bind fun value => ih _ _
    · split
      · rfl
      · exact ((isPlaceless_decodeList isPlaceless_decodeText member).under _).bind fun names =>
          ih _ _
    · rfl

/-- A control may be given by name or as a list. -/
theorem isPlaceless_decodeControl : IsPlaceless decodeControl := by
  intro reading
  cases reading with
  | object start members ending => exact agree_decodeControlMembers none none ending members
  | array start items ending =>
    rcases items with _ | ⟨schema, _ | ⟨hints, rest⟩⟩
    · exact agree_bind_checkListEnd ending fun _ _ => rfl
    · exact ((isPlaceless_decodeJson schema).under _).bind fun value =>
        agree_bind_checkListEnd ending fun _ _ => rfl
    · refine ((isPlaceless_decodeJson schema).under _).bind fun value => ?_
      refine ((isPlaceless_decodeList isPlaceless_decodeText hints).under _).bind fun names => ?_
      rw [length_unplacedItems]
      exact (agree_checkNoMore _ rest ending).bind fun _ => rfl
  | _ => exact agree_misfit _ _

/-- The field of a document has to be given, and only once. -/
theorem agree_decodeCatalogMembers (controls : Option CatalogDocument) (ending : Ending)
    (members : List (Key × Reading)) :
    AgreeOffPlaces (decodeCatalogMembers controls ending.unplaced (unplacedMembers members))
      (decodeCatalogMembers controls ending members) := by
  induction members generalizing controls with
  | nil =>
    refine agree_bind_checkObjectEnd ending fun _ _ => ?_
    cases controls <;> rfl
  | cons member rest ih =>
    obtain ⟨key, member⟩ := member
    unfold decodeCatalogMembers
    dsimp only [unplacedMembers]
    split
    · split
      · rfl
      · exact ((isPlaceless_decodeMap isPlaceless_decodeControl member).under _).bind fun found =>
          ih _
    · rfl

/-- A catalog document is decoded alike with or without places. -/
theorem isPlaceless_decodeCatalog : IsPlaceless decodeCatalog := by
  intro reading
  cases reading with
  | object start members ending => exact agree_decodeCatalogMembers none ending members
  | array start items ending =>
    cases items with
    | nil => exact agree_bind_checkListEnd ending fun _ _ => rfl
    | cons controls rest =>
      refine ((isPlaceless_decodeMap isPlaceless_decodeControl controls).under _).bind
        fun found => ?_
      rw [length_unplacedItems]
      exact (agree_checkNoMore _ rest ending).bind fun _ => rfl
  | _ => exact agree_misfit _ _

end Reading

end ControlProps
