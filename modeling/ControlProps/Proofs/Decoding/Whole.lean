import ControlProps.Catalog.Document
import ControlProps.Proofs.Json.Parts
import ControlProps.Proofs.Json.Values

/-!
# Decoding sees every part

Whatever is decoded is decoded from a reading without faults, since every part of the reading is
looked at on the way. Of a repeated key only the last value counts, so that no schema that is
decoded repeats one.
-/

namespace ControlProps

namespace Reading

/-- The value of a reading has no repeated keys, whatever the reading has. -/
theorem hasDistinctKeys_of_toJson {reading : Reading} {json : Json}
    (hjson : reading.toJson = .ok json) : json.hasDistinctKeys = true := by
  induction reading using partsInduction generalizing json with
  | atom value start stop =>
    obtain rfl := Except.ok.inj hjson
    cases value <;> rfl
  | array start items ending ih =>
    obtain ⟨values, stop, hvalues, rfl, rfl⟩ := toJson_array_eq_ok_iff.mp hjson
    exact Json.hasDistinctKeys_array_iff.mpr
      (forall_mem_of_itemsToJson (fun item hitem _ => ih item hitem) hvalues)
  | object start members ending ih =>
    -- of members with one key, the table keeps one
    obtain ⟨entries, stop, hentries, rfl, rfl⟩ := toJson_object_eq_ok_iff.mp hjson
    have hall := forall_mem_of_membersToJson (fun member hmember _ => ih member hmember) hentries
    exact Json.hasDistinctKeys_object_iff.mpr ⟨Entries.nodup_keys_ofList entries,
      fun entry hentry => hall entry (Entries.mem_of_mem_ofList hentry)⟩
  | broken start found =>
    rw [toJson] at hjson
    contradiction

variable {α : Type} {p : α → Prop} {decode : Reading → Except DecodeError α}
  {members : List (Key × Reading)} {ending : Ending} {reading : Reading}

/-- Whatever is decoded comes from a reading without faults, and it has a property. -/
def DecodesWhole (p : α → Prop) (decode : Reading → Except DecodeError α) : Prop :=
  ∀ reading value, decode reading = .ok value → reading.IsWhole ∧ p value

/-- The same under a step of the path to an error. -/
theorem DecodesWhole.under (hdecode : DecodesWhole p decode) {step : PathStep} {value : α}
    (hread : (decode reading).mapError (DecodeError.under step) = .ok value) :
    reading.IsWhole ∧ p value :=
  hdecode reading value (mapError_eq_ok_iff.mp hread)

/-- A list ends where its bracket is closed. -/
theorem checkListEnd_eq_ok_iff {stop : Position} :
    checkListEnd ending = .ok stop ↔ ending = .closed stop := by
  cases ending with
  | closed place => simp [checkListEnd]
  | broken found => simp [checkListEnd]

/-- An object ends where its bracket is closed. -/
theorem checkObjectEnd_eq_ok_iff {stop : Position} :
    checkObjectEnd ending = .ok stop ↔ ending = .closed stop := by
  cases ending with
  | closed place => simp [checkObjectEnd]
  | broken found => simp [checkObjectEnd]

/-- Nothing more is in a list whose bracket is closed here. -/
theorem checkNoMore_eq_ok_iff {length : Nat} {rest : List Reading} :
    checkNoMore length rest ending = .ok () ↔ rest = [] ∧ ∃ stop, ending = .closed stop := by
  unfold checkNoMore
  split <;> simp

/-- A value that is decoded as it is has no fault and no repeated keys. -/
theorem decodesWhole_decodeJson :
    DecodesWhole (fun json => json.hasDistinctKeys = true) decodeJson := by
  intro reading json hread
  have hjson := mapError_eq_ok_iff.mp hread
  exact ⟨⟨json, hjson⟩, hasDistinctKeys_of_toJson hjson⟩

/-- A text is an atom. -/
theorem decodesWhole_decodeText : DecodesWhole (fun _ => True) decodeText := by
  intro reading value hread
  unfold decodeText at hread
  split at hread
  · exact ⟨isWhole_atom _ _ _, trivial⟩
  · contradiction

/-- Each element is decoded on its own. -/
theorem isWhole_of_decodeElements (hdecode : DecodesWhole p decode) {index : Nat}
    {items : List Reading} {values : List α}
    (hread : decodeElements decode index items = .ok values) :
    (∀ item ∈ items, item.IsWhole) ∧ ∀ value ∈ values, p value := by
  induction items generalizing index values with
  | nil =>
    obtain rfl := Except.ok.inj hread
    exact ⟨List.forall_mem_nil _, List.forall_mem_nil _⟩
  | cons item rest ih =>
    obtain ⟨value, hvalue, hread⟩ := bind_eq_ok_iff.mp hread
    obtain ⟨others, hothers, rfl⟩ := bind_pure_eq_ok_iff.mp hread
    obtain ⟨hitem, hp⟩ := hdecode.under hvalue
    obtain ⟨hrest, hall⟩ := ih hothers
    exact ⟨List.forall_mem_cons.mpr ⟨hitem, hrest⟩, List.forall_mem_cons.mpr ⟨hp, hall⟩⟩

/-- A list has no fault if its elements have none and it is closed. -/
theorem decodesWhole_decodeList (hdecode : DecodesWhole p decode) :
    DecodesWhole (fun values => ∀ value ∈ values, p value) (decodeList decode) := by
  intro reading values hread
  unfold decodeList at hread
  split at hread
  · obtain ⟨found, hfound, hread⟩ := bind_eq_ok_iff.mp hread
    obtain ⟨stop, hstop, rfl⟩ := bind_pure_eq_ok_iff.mp hread
    obtain ⟨hitems, hall⟩ := isWhole_of_decodeElements hdecode hfound
    exact ⟨isWhole_array_iff.mpr ⟨hitems, stop, checkListEnd_eq_ok_iff.mp hstop⟩, hall⟩
  · contradiction

/-- Each member is decoded on its own. -/
theorem isMemberWhole_of_decodeMembers (hdecode : DecodesWhole p decode)
    {entries : List (String × α)} (hread : decodeMembers decode members = .ok entries) :
    (∀ member ∈ members, IsMemberWhole member) ∧ ∀ entry ∈ entries, p entry.2 := by
  induction members generalizing entries with
  | nil =>
    obtain rfl := Except.ok.inj hread
    exact ⟨List.forall_mem_nil _, List.forall_mem_nil _⟩
  | cons member rest ih =>
    obtain ⟨key, member⟩ := member
    obtain ⟨value, hvalue, hread⟩ := bind_eq_ok_iff.mp hread
    obtain ⟨others, hothers, rfl⟩ := bind_pure_eq_ok_iff.mp hread
    obtain ⟨hmember, hp⟩ := hdecode.under hvalue
    obtain ⟨hrest, hall⟩ := ih hothers
    exact ⟨List.forall_mem_cons.mpr ⟨hmember, hrest⟩, List.forall_mem_cons.mpr ⟨hp, hall⟩⟩

/-- A map has no fault if its values have none and it is closed. -/
theorem decodesWhole_decodeMap (hdecode : DecodesWhole p decode) :
    DecodesWhole (fun entries => ∀ entry ∈ entries, p entry.2) (decodeMap decode) := by
  intro reading entries hread
  unfold decodeMap at hread
  split at hread
  · obtain ⟨found, hfound, hread⟩ := bind_eq_ok_iff.mp hread
    obtain ⟨stop, hstop, rfl⟩ := bind_pure_eq_ok_iff.mp hread
    obtain ⟨hmembers, hall⟩ := isMemberWhole_of_decodeMembers hdecode hfound
    exact ⟨isWhole_object_iff.mpr ⟨hmembers, stop, checkObjectEnd_eq_ok_iff.mp hstop⟩,
      fun entry hentry => hall entry (Entries.mem_of_mem_ofList hentry)⟩
  · contradiction

/-- One more member before others. -/
theorem ArePartsWhole.cons {key : Key} (hreading : reading.IsWhole)
    (hrest : ArePartsWhole IsMemberWhole members ending) :
    ArePartsWhole IsMemberWhole ((key, reading) :: members) ending :=
  ⟨List.forall_mem_cons.mpr ⟨hreading, hrest.1⟩, hrest.2⟩

/-- The fields of a control are decoded one by one, down to the closing brace. -/
theorem arePartsWhole_of_decodeControlMembers {schema : Option Json} {hints : Option (List String)}
    {control : ControlDocument} (hschema : (schema.getD defaultSchema).hasDistinctKeys = true)
    (hread : decodeControlMembers schema hints ending members = .ok control) :
    ArePartsWhole IsMemberWhole members ending ∧ control.schema.hasDistinctKeys = true := by
  induction members generalizing schema hints with
  | nil =>
    obtain ⟨stop, hstop, rfl⟩ := bind_pure_eq_ok_iff.mp hread
    exact ⟨⟨List.forall_mem_nil _, stop, checkObjectEnd_eq_ok_iff.mp hstop⟩, hschema⟩
  | cons member rest ih =>
    obtain ⟨key, member⟩ := member
    unfold decodeControlMembers at hread
    split at hread
    · split at hread
      · contradiction
      · obtain ⟨value, hvalue, hread⟩ := bind_eq_ok_iff.mp hread
        obtain ⟨hmember, hkeys⟩ := decodesWhole_decodeJson.under hvalue
        obtain ⟨hrest, hcontrol⟩ := @ih (some value) _ hkeys hread
        exact ⟨hrest.cons hmember, hcontrol⟩
    · split at hread
      · contradiction
      · obtain ⟨names, hnames, hread⟩ := bind_eq_ok_iff.mp hread
        obtain ⟨hmember, _⟩ := (decodesWhole_decodeList decodesWhole_decodeText).under hnames
        obtain ⟨hrest, hcontrol⟩ := ih hschema hread
        exact ⟨hrest.cons hmember, hcontrol⟩
    · contradiction

/-- A control has no fault, given by name or as a list, and its schema has no repeated keys. -/
theorem decodesWhole_decodeControl :
    DecodesWhole (fun control => control.schema.hasDistinctKeys = true) decodeControl := by
  have hdefault : defaultSchema.hasDistinctKeys = true := by decide
  intro reading control hread
  unfold decodeControl at hread
  split at hread
  · obtain ⟨hmembers, hcontrol⟩ :=
      @arePartsWhole_of_decodeControlMembers _ _ none _ _ hdefault hread
    exact ⟨isWhole_object_iff.mpr hmembers, hcontrol⟩
  · obtain ⟨stop, hstop, hlast⟩ := bind_eq_ok_iff.mp hread
    obtain rfl := pure_eq_ok_iff.mp hlast
    have hends := checkListEnd_eq_ok_iff.mp hstop
    exact ⟨isWhole_array_iff.mpr ⟨List.forall_mem_nil _, stop, hends⟩, hdefault⟩
  · obtain ⟨value, hvalue, hread⟩ := bind_eq_ok_iff.mp hread
    obtain ⟨stop, hstop, rfl⟩ := bind_pure_eq_ok_iff.mp hread
    have hends := checkListEnd_eq_ok_iff.mp hstop
    obtain ⟨hschema, hkeys⟩ := decodesWhole_decodeJson.under hvalue
    exact ⟨isWhole_array_iff.mpr ⟨List.forall_mem_singleton.mpr hschema, stop, hends⟩, hkeys⟩
  · obtain ⟨value, hvalue, hread⟩ := bind_eq_ok_iff.mp hread
    obtain ⟨names, hnames, hread⟩ := bind_eq_ok_iff.mp hread
    obtain ⟨_, hnoMore, rfl⟩ := bind_pure_eq_ok_iff.mp hread
    obtain ⟨rfl, hends⟩ := checkNoMore_eq_ok_iff.mp hnoMore
    obtain ⟨hschema, hkeys⟩ := decodesWhole_decodeJson.under hvalue
    obtain ⟨hhints, _⟩ := (decodesWhole_decodeList decodesWhole_decodeText).under hnames
    exact ⟨isWhole_array_iff.mpr
      ⟨List.forall_mem_cons.mpr ⟨hschema, List.forall_mem_singleton.mpr hhints⟩, hends⟩, hkeys⟩
  · contradiction

/-- Whether no schema of a document has repeated keys. -/
def HasDistinctSchemaKeys (document : CatalogDocument) : Prop :=
  ∀ control ∈ document, control.2.schema.hasDistinctKeys = true

/-- The controls of a document have no fault. -/
theorem decodesWhole_decodeControls :
    DecodesWhole HasDistinctSchemaKeys (decodeMap decodeControl) :=
  decodesWhole_decodeMap decodesWhole_decodeControl

/-- The field of a document is decoded, and then the closing brace is looked for. -/
theorem arePartsWhole_of_decodeCatalogMembers {controls : Option CatalogDocument}
    {document : CatalogDocument} (hgiven : ∀ found ∈ controls, HasDistinctSchemaKeys found)
    (hread : decodeCatalogMembers controls ending members = .ok document) :
    ArePartsWhole IsMemberWhole members ending ∧ HasDistinctSchemaKeys document := by
  induction members generalizing controls with
  | nil =>
    obtain ⟨stop, hstop, hlast⟩ := bind_eq_ok_iff.mp hread
    cases controls with
    | none => contradiction
    | some found =>
      obtain rfl := pure_eq_ok_iff.mp hlast
      exact ⟨⟨List.forall_mem_nil _, stop, checkObjectEnd_eq_ok_iff.mp hstop⟩, hgiven _ rfl⟩
  | cons member rest ih =>
    obtain ⟨key, member⟩ := member
    unfold decodeCatalogMembers at hread
    split at hread
    · split at hread
      · contradiction
      · obtain ⟨found, hfound, hread⟩ := bind_eq_ok_iff.mp hread
        obtain ⟨hmember, hkeys⟩ := decodesWhole_decodeControls.under hfound
        have hsome : ∀ given ∈ some found, HasDistinctSchemaKeys given :=
          fun _ hgiven => Option.some.inj hgiven ▸ hkeys
        obtain ⟨hrest, hdocument⟩ := ih hsome hread
        exact ⟨hrest.cons hmember, hdocument⟩
    · contradiction

/-- A catalog document is an array or object without faults, and no schema in it has repeated
keys. -/
theorem isWhole_isContainer_of_decodeCatalog {document : CatalogDocument}
    (hread : decodeCatalog reading = .ok document) :
    reading.IsWhole ∧ reading.IsContainer ∧ HasDistinctSchemaKeys document := by
  unfold decodeCatalog at hread
  split at hread
  · obtain ⟨hmembers, hdocument⟩ := @arePartsWhole_of_decodeCatalogMembers _ _ none _
      (fun found hnone => absurd hnone (Option.not_mem_none found)) hread
    exact ⟨isWhole_object_iff.mpr hmembers, trivial, hdocument⟩
  · obtain ⟨stop, _, hlast⟩ := bind_eq_ok_iff.mp hread
    contradiction
  · obtain ⟨found, hfound, hread⟩ := bind_eq_ok_iff.mp hread
    obtain ⟨_, hnoMore, rfl⟩ := bind_pure_eq_ok_iff.mp hread
    obtain ⟨rfl, hends⟩ := checkNoMore_eq_ok_iff.mp hnoMore
    obtain ⟨hcontrols, hkeys⟩ := decodesWhole_decodeControls.under hfound
    exact ⟨isWhole_array_iff.mpr ⟨List.forall_mem_singleton.mpr hcontrols, hends⟩, trivial, hkeys⟩
  · contradiction

end Reading

end ControlProps
