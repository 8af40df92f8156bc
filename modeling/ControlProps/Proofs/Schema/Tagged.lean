import ControlProps.Engine.Patterns
import ControlProps.Proofs.Except
import ControlProps.Proofs.Json.Reading
import ControlProps.Proofs.Schema.Verdicts
import ControlProps.Schema.Tagged
import ControlProps.SharedSchemas

/-!
# The tagged form written and read back

Unlike the dialect, the tagged form has words for every schema. What is written is read back as it
was, in the order in which it was, if its numbers are finite.
-/

namespace ControlProps

/-- The name of a kind of schemas is read as that kind. -/
@[simp] theorem SchemaTag.ofName?_name {tag : SchemaTag} : ofName? tag.name = some tag := by
  cases tag <;> rfl

/-- No kind of schemas has a part that is called as the kind itself is. -/
theorem SchemaTag.kind_notMem_parts {tag : SchemaTag} : "kind" ∉ tag.parts := by
  cases tag <;> decide

/-- The name of a policy is read as that policy. -/
@[simp] theorem Additional.ofName?_name {additional : Additional} :
    ofName? additional.name = some additional := by
  cases additional <;> rfl

namespace Schema

/-- The name of a kind of schemas is decoded as that kind. -/
theorem decodeTag_name {tag : SchemaTag} {start stop : Position} :
    decodeTag (.atom (.string tag.name) start stop) = .ok tag := by
  simp only [decodeTag, SchemaTag.ofName?_name]

/-- A bound that is finite is decoded as it was. -/
theorem decodeBound_floatJson {bound : Binary64} (hfinite : bound.isFinite = true) :
    decodeBound (Reading.ofJson (floatJson bound)) = .ok (some bound) := by
  rw [floatJson, if_pos hfinite, Reading.ofJson, decodeBound]

/-- A count is decoded as it was. -/
theorem decodeCount_countJson {count : UInt64} :
    decodeCount (Reading.ofJson (countJson count)) = .ok (some count) := by
  rw [countJson, Reading.ofJson, decodeCount, if_pos (toNat_mem_range count), Int.toNat_natCast,
    UInt64.ofNat_toNat]

/-- Texts are decoded as they were. -/
theorem decodeTexts_map_string {texts : List String} :
    decodeTexts (Reading.ofItems (texts.map .string)) = .ok texts := by
  induction texts with
  | nil => rfl
  | cons text rest ih =>
    rw [List.map_cons, Reading.ofItems, Reading.ofJson, decodeTexts, ih]
    rfl

/-- Names without repetition are decoded as they were, in their order. -/
theorem decodeNames_ofStrings {names : List String} (hnames : names.Nodup) :
    decodeNames (Reading.ofJson (Json.ofStrings names)) = .ok names := by
  rw [Json.ofStrings, Reading.ofJson, decodeNames, decodeTexts_map_string]
  exact congrArg Except.ok (Entries.distinct_of_nodup hnames)

/-- Literals with finite numbers are decoded as they were, in their order and each of its kind. -/
theorem decodeLiterals_itemsToJson {values : List Value}
    (hkeys : ∀ value ∈ values, value.DistinctKeys)
    (hfinite : ∀ value ∈ values, value.Everywhere Value.IsFinite) :
    decodeLiterals (Reading.ofJson (.array (Value.itemsToJson values))) = .ok values := by
  have htabled := Value.tabledItems_itemsToJson fun value hvalue =>
    Value.tabled_toJson (hkeys value hvalue)
  have hreread : values.map Value.reread = values.map id :=
    List.map_congr_left fun value hvalue => Value.reread_eq_self (hfinite value hvalue)
  rw [Reading.ofJson, decodeLiterals, Reading.itemsToJson_ofItems, htabled]
  simp only
  rw [Value.ofItems_itemsToJson, hreread, List.map_id]

section

variable [PatternEngine]

/-- A pattern is decoded as it was. -/
theorem decodePattern_source {form : Pattern} :
    decodePattern (Reading.ofJson (.string form.source)) = .ok form := by
  simp only [Reading.ofJson, decodePattern, Pattern.compile?_source]

/-- Branches that are decoded as they were are so as a list. -/
theorem decodeBranches_branchesToTagged {branches : List Schema}
    (hbranches : ∀ branch ∈ branches,
      decodeBuffered (Reading.ofJson branch.toTagged) = .ok branch) :
    decodeBranches (Reading.ofItems (branchesToTagged branches)) = .ok branches := by
  induction branches with
  | nil => rfl
  | cons branch rest ih =>
    obtain ⟨hbranch, hrest⟩ := List.forall_mem_cons.mp hbranches
    rw [branchesToTagged, Reading.ofItems, decodeBranches, hbranch, ih hrest]
    rfl

/-- Properties that are decoded as they were are so as a table. -/
theorem decodeProperties_propertiesToTagged {properties : List (String × Schema)}
    (hproperties : ∀ entry ∈ properties,
      decodeBuffered (Reading.ofJson entry.2.toTagged) = .ok entry.2) :
    decodeProperties (Reading.ofMembers (propertiesToTagged properties)) = .ok properties := by
  induction properties with
  | nil => rfl
  | cons entry rest ih =>
    obtain ⟨hentry, hrest⟩ := List.forall_mem_cons.mp hproperties
    rw [propertiesToTagged, Reading.ofMembers, decodeProperties, hentry, ih hrest]
    rfl

variable {tag : SchemaTag} {parts : List (String × Json)}

omit [PatternEngine] in
/-- Once the kind is known, parts that are called otherwise do not change it. -/
theorem decodeTagOf_ofMembers (hkind : "kind" ∉ Entries.keys parts) :
    decodeTagOf (some tag) (Reading.ofMembers parts) = .ok tag := by
  induction parts with
  | nil => rfl
  | cons part rest ih =>
    rw [Entries.keys, List.map_cons, List.mem_cons, not_or] at hkind
    rw [Reading.ofMembers, decodeTagOf, if_neg (Ne.symm hkind.1), ih hkind.2]

/-- A schema in tagged form is what its kind makes of its parts. -/
theorem decodeBuffered_tagged (hkind : "kind" ∉ Entries.keys parts) :
    decodeBuffered (Reading.ofJson (tagged tag parts)) =
      decodeParts tag {} (Reading.ofMembers parts) >>= fun found =>
        ofParts tag found .missingField := by
  have htag : decodeTagOf none ((⟨"kind", default⟩, Reading.ofJson (.string tag.name)) ::
      Reading.ofMembers parts) = .ok tag := by
    rw [decodeTagOf, if_pos rfl, Reading.ofJson, decodeTag_name]
    exact decodeTagOf_ofMembers hkind
  have hparts : decodeParts tag {} ((⟨"kind", default⟩, Reading.ofJson (.string tag.name)) ::
      Reading.ofMembers parts) = decodeParts tag {} (Reading.ofMembers parts) := by
    rw [decodeParts, if_neg (by simpa using SchemaTag.kind_notMem_parts)]
  rw [tagged, Reading.ofJson, Reading.ofMembers, decodeBuffered, htag]
  exact congrArg (· >>= fun found => ofParts tag found .missingField) hparts

/-- Of the members that are written of a schema, only the first one is called `kind`. -/
theorem kind_notMem_of_toTagged_eq {schema : Schema}
    (htagged : schema.toTagged = tagged tag parts) : "kind" ∉ Entries.keys parts := by
  have hwritten : ∃ tag' parts', schema.toTagged = tagged tag' parts' ∧
      "kind" ∉ Entries.keys parts' := by
    cases schema with
    | range min max integer =>
      refine ⟨_, _, rfl, ?_⟩
      cases min <;> cases max <;> simp [Entries.keys, memberIf]
    | array items least most =>
      refine ⟨_, _, rfl, ?_⟩
      cases least <;> cases most <;> simp [Entries.keys, memberIf]
    | _ => exact ⟨_, _, rfl, by simp [Entries.keys]⟩
  obtain ⟨tag', parts', hsame, hkind⟩ := hwritten
  rw [htagged, tagged, tagged, Json.object.injEq, List.cons.injEq] at hsame
  exact hsame.2 ▸ hkind

-- how a part is read is told by its name
attribute [simp] decodePart

/-- The parts with one more that is written under the given name. -/
def addPart (name : String) (found : Parts) (value : Json) : Except DecodeFault Parts :=
  let reading := Reading.ofJson value
  decodePart name found reading ⟨fun _ => decodeBuffered reading,
    fun _ => decodeBranchesOf reading, fun _ => decodePropertiesOf reading⟩

variable {name : String} {found next : Parts} {value : Json}

/-- A part of the kind that is not read yet is read first, then the others. -/
theorem decodeParts_cons (hname : name ∈ tag.parts) (hnew : name ∉ found.seen)
    (hnext : addPart name found value = .ok next) :
    decodeParts tag found (Reading.ofMembers ((name, value) :: parts)) =
      decodeParts tag next (Reading.ofMembers parts) := by
  simp only [addPart] at hnext
  rw [Reading.ofMembers, decodeParts, if_pos (by simpa using hname), if_neg (by simpa using hnew),
    hnext]
  rfl

/-- A part that may be absent is read first where it is present. -/
theorem decodeParts_memberIf {α : Type} {write : α → Json} {value : Option α}
    {next : α → Parts} (hname : name ∈ tag.parts) (hnew : name ∉ found.seen)
    (hnext : ∀ x ∈ value, addPart name found (write x) = .ok (next x)) :
    decodeParts tag found (Reading.ofMembers (memberIf name write value ++ parts)) =
      decodeParts tag (value.elim found next) (Reading.ofMembers parts) := by
  cases value with
  | none => rfl
  | some x => exact decodeParts_cons hname hnew (hnext x rfl)

/-- A schema with one part is what its kind makes of it. -/
theorem decodeBuffered_tagged_singleton (hname : name ∈ tag.parts)
    (hnext : addPart name {} value = .ok next) :
    decodeBuffered (Reading.ofJson (tagged tag [(name, value)])) =
      ofParts tag next .missingField := by
  have hkind : "kind" ∉ Entries.keys [(name, value)] := by
    intro hmem
    have hsame : "kind" = name := List.mem_singleton.mp hmem
    exact SchemaTag.kind_notMem_parts (hsame ▸ hname)
  rw [decodeBuffered_tagged hkind, decodeParts_cons hname List.not_mem_nil hnext]
  rfl

/-- A kind of values is decoded as it was. -/
theorem decodeBuffered_primitive {kind : Kind} :
    decodeBuffered (Reading.ofJson (primitive kind).toTagged) = .ok (primitive kind) := by
  have hpart : addPart "of" {} (.string kind.name) = .ok { seen := ["of"], kind := some kind } := by
    simp only [addPart, decodePart, Reading.ofJson, decodeName, Kind.ofName?_name]
    rfl
  rw [toTagged, decodeBuffered_tagged_singleton (by decide) hpart]
  rfl

/-- Literals are decoded as they were if their numbers are finite. -/
theorem decodeBuffered_enumeration {values : List Value}
    (hkeys : ∀ value ∈ values, value.DistinctKeys)
    (hfinite : ∀ value ∈ values, value.Everywhere Value.IsFinite) :
    decodeBuffered (Reading.ofJson (enumeration values).toTagged) = .ok (enumeration values) := by
  have hpart : addPart "values" {} (.array (Value.itemsToJson values)) =
      .ok { seen := ["values"], values := some values } := by
    simp only [addPart, decodePart, decodeLiterals_itemsToJson hkeys hfinite]
    rfl
  rw [toTagged, decodeBuffered_tagged_singleton (by decide) hpart]
  rfl

/-- A pattern is decoded as it was. -/
theorem decodeBuffered_pattern {form : Pattern} :
    decodeBuffered (Reading.ofJson (pattern form).toTagged) = .ok (pattern form) := by
  have hpart : addPart "pattern" {} (.string form.source) =
      .ok { seen := ["pattern"], pattern := some form } := by
    simp only [addPart, decodePart, decodePattern_source]
    rfl
  rw [toTagged, decodeBuffered_tagged_singleton (by decide) hpart]
  rfl

/-- A range is decoded as it was if its bounds are finite. -/
theorem decodeBuffered_range {min max : Option Binary64} {integer : Bool}
    (hmin : ∀ bound ∈ min, bound.isFinite = true) (hmax : ∀ bound ∈ max, bound.isFinite = true) :
    decodeBuffered (Reading.ofJson (range min max integer).toTagged) =
      .ok (range min max integer) := by
  -- the parts that are known after the first two members, each of which may be absent
  let lower : Parts := min.elim {} fun bound => { seen := ["min"], min := some bound }
  let upper : Parts :=
    max.elim lower fun bound => { lower with seen := "max" :: lower.seen, max := some bound }
  have hlower (bound : Binary64) (hbound : bound ∈ min) :
      addPart "min" {} (floatJson bound) = .ok { seen := ["min"], min := some bound } := by
    simp only [addPart, decodePart, decodeBound_floatJson (hmin bound hbound)]
    rfl
  have hupper (bound : Binary64) (hbound : bound ∈ max) :
      addPart "max" lower (floatJson bound) =
        .ok { lower with seen := "max" :: lower.seen, max := some bound } := by
    simp only [addPart, decodePart, decodeBound_floatJson (hmax bound hbound)]
    rfl
  have hinteger : addPart "integer" upper (.bool integer) =
      .ok { upper with seen := "integer" :: upper.seen, integer := integer } := rfl
  have hmaxNew : "max" ∉ lower.seen := by cases min <;> simp [lower]
  have hintegerNew : "integer" ∉ upper.seen := by
    cases min <;> cases max <;> simp [lower, upper]
  rw [toTagged, decodeBuffered_tagged ((range min max integer).kind_notMem_of_toTagged_eq rfl),
    List.append_assoc, decodeParts_memberIf (by decide) List.not_mem_nil hlower,
    decodeParts_memberIf (by decide) hmaxNew hupper,
    decodeParts_cons (by decide) hintegerNew hinteger]
  cases min <;> cases max <;> rfl

/-- An array schema is decoded as it was if the schema of its items is. -/
theorem decodeBuffered_array {items : Schema} {least most : Option UInt64}
    (hitems : decodeBuffered (Reading.ofJson items.toTagged) = .ok items) :
    decodeBuffered (Reading.ofJson (array items least most).toTagged) =
      .ok (array items least most) := by
  let described : Parts := { seen := ["items"], items := some items }
  let lower : Parts := least.elim described fun count =>
    { described with seen := "min_items" :: described.seen, minItems := some count }
  let upper : Parts := most.elim lower fun count =>
    { lower with seen := "max_items" :: lower.seen, maxItems := some count }
  have hdescribed : addPart "items" {} items.toTagged = .ok described := by
    simp only [addPart, decodePart, hitems]
    rfl
  have hlower (count : UInt64) (_ : count ∈ least) : addPart "min_items" described
      (countJson count) =
        .ok { described with seen := "min_items" :: described.seen, minItems := some count } := by
    simp only [addPart, decodePart, decodeCount_countJson]
    rfl
  have hupper (count : UInt64) (_ : count ∈ most) : addPart "max_items" lower (countJson count) =
      .ok { lower with seen := "max_items" :: lower.seen, maxItems := some count } := by
    simp only [addPart, decodePart, decodeCount_countJson]
    rfl
  have hleastNew : "min_items" ∉ described.seen := by simp [described]
  have hmostNew : "max_items" ∉ lower.seen := by cases least <;> simp [lower, described]
  have hparts : decodeParts .array {} (Reading.ofMembers (("items", items.toTagged) ::
      (memberIf "min_items" countJson least ++ (memberIf "max_items" countJson most ++ [])))) =
        .ok upper := by
    rw [decodeParts_cons (by decide) List.not_mem_nil hdescribed,
      decodeParts_memberIf (by decide) hleastNew hlower,
      decodeParts_memberIf (by decide) hmostNew hupper]
    rfl
  rw [List.append_nil] at hparts
  rw [toTagged, decodeBuffered_tagged ((array items least most).kind_notMem_of_toTagged_eq rfl),
    List.cons_append, hparts]
  cases least <;> cases most <;> rfl

/-- An object schema is decoded as it was if each declared schema is. -/
theorem decodeBuffered_object {properties : List (String × Schema)} {required : List String}
    {additional : Additional} (hkeys : (Entries.keys properties).Nodup)
    (hrequired : required.Nodup)
    (hproperties : ∀ entry ∈ properties,
      decodeBuffered (Reading.ofJson entry.2.toTagged) = .ok entry.2) :
    decodeBuffered (Reading.ofJson (object properties required additional).toTagged) =
      .ok (object properties required additional) := by
  let declared : Parts := { seen := ["properties"], properties := properties }
  let demanding : Parts := { declared with
    seen := "required" :: declared.seen, required := required }
  have hdeclared : addPart "properties" {} (.object (propertiesToTagged properties)) =
      .ok declared := by
    simp only [addPart, decodePart, Reading.ofJson, decodePropertiesOf,
      decodeProperties_propertiesToTagged hproperties, Except.map, Entries.ofList_of_nodup hkeys,
      declared]
  have hdemanding : addPart "required" declared (Json.ofStrings required) = .ok demanding := by
    simp only [addPart, decodePart, decodeNames_ofStrings hrequired]
    rfl
  have hadditional : addPart "additional" demanding (.string additional.name) =
      .ok { demanding with
        seen := "additional" :: demanding.seen, additional := additional } := by
    simp only [addPart, decodePart, Reading.ofJson, decodeName, Additional.ofName?_name]
    rfl
  have hrequiredNew : "required" ∉ declared.seen := by simp [declared]
  have hadditionalNew : "additional" ∉ demanding.seen := by simp [demanding, declared]
  rw [toTagged,
    decodeBuffered_tagged ((object properties required additional).kind_notMem_of_toTagged_eq rfl),
    decodeParts_cons (by decide) List.not_mem_nil hdeclared,
    decodeParts_cons (by decide) hrequiredNew hdemanding,
    decodeParts_cons (by decide) hadditionalNew hadditional]
  rfl

/-- Branches are a part that is decoded as it was if each of them is. -/
theorem addPart_branches {branches : List Schema}
    (hbranches : ∀ branch ∈ branches,
      decodeBuffered (Reading.ofJson branch.toTagged) = .ok branch) :
    addPart "branches" {} (.array (branchesToTagged branches)) =
      .ok { seen := ["branches"], branches := some branches } := by
  simp only [addPart, decodePart, Reading.ofJson, decodeBranchesOf,
    decodeBranches_branchesToTagged hbranches]
  rfl

/-- A schema is decoded from its tagged form as it was if its numbers are finite. -/
theorem decodeBuffered_toTagged {schema : Schema} (hkeys : schema.DistinctKeys)
    (hfinite : schema.Everywhere HasFiniteNumbers) :
    decodeBuffered (Reading.ofJson schema.toTagged) = .ok schema := by
  induction schema with
  | any => rfl
  | primitive kind => exact decodeBuffered_primitive
  | enumeration values => exact decodeBuffered_enumeration hkeys.self hfinite.self
  | pattern form => exact decodeBuffered_pattern
  | range min max integer => exact decodeBuffered_range hfinite.self.1 hfinite.self.2
  | array items least most ih =>
    exact decodeBuffered_array (ih hkeys.items hfinite.items)
  | object properties required additional ih =>
    exact decodeBuffered_object hkeys.self.1 hkeys.self.2 fun entry hentry =>
      ih entry hentry (hkeys.property hentry) (hfinite.property hentry)
  | anyOf branches ih =>
    have hpart := addPart_branches fun branch hbranch =>
      ih branch hbranch (hkeys.anyOf hbranch) (hfinite.anyOf hbranch)
    rw [toTagged, decodeBuffered_tagged_singleton (by decide) hpart]
    rfl
  | oneOf branches ih =>
    have hpart := addPart_branches fun branch hbranch =>
      ih branch hbranch (hkeys.oneOf hbranch) (hfinite.oneOf hbranch)
    rw [toTagged, decodeBuffered_tagged_singleton (by decide) hpart]
    rfl

omit [PatternEngine] in
/-- A value that is not read from a text is well-formed. -/
theorem decodeJson_ofJson : (Reading.ofJson value).decodeJson = .ok value.tabled := by
  rw [Reading.decodeJson, Reading.toJson_ofJson]
  rfl

omit [PatternEngine] in
/-- Members after the kind are only looked at for whether they are well-formed. -/
theorem checkMembers_ofMembers {stop : Position} (hkind : "kind" ∉ Entries.keys parts) :
    checkMembers true (.closed stop) (Reading.ofMembers parts) = .ok () := by
  induction parts with
  | nil => rfl
  | cons part rest ih =>
    obtain ⟨key, value⟩ := part
    rw [Entries.keys, List.map_cons, List.mem_cons, not_or] at hkind
    rw [Reading.ofMembers, checkMembers, if_neg (Ne.symm hkind.1), decodeJson_ofJson]
    exact ih hkind.2

/-- A schema in tagged form names its kind once, so only its parts can be wrong. -/
theorem ofTagged_tagged (hkind : "kind" ∉ Entries.keys parts) :
    ofTagged (Reading.ofJson (tagged tag parts)) =
      (decodeBuffered (Reading.ofJson (tagged tag parts))).mapError fun fault =>
        ⟨[], fault, none⟩ := by
  have hcheck : checkMembers false (.closed default)
      ((⟨"kind", default⟩, Reading.ofJson (.string tag.name)) :: Reading.ofMembers parts) =
        .ok () := by
    rw [checkMembers, if_pos rfl, Reading.ofJson, decodePlacedTag, decodeTag_name]
    exact checkMembers_ofMembers hkind
  rw [tagged, Reading.ofJson, Reading.ofMembers, ofTagged, hcheck]
  rfl

/-- A schema with finite numbers is equal to itself. -/
theorem equals_self {schema : Schema} (hkeys : schema.DistinctKeys)
    (hfinite : schema.Everywhere HasFiniteNumbers) : schema.equals schema = true := by
  induction schema with
  | any => rfl
  | primitive kind => simp [equals]
  | enumeration values =>
    rw [equals, Value.itemsEqualBy_iff, List.forall₂_same]
    intro value hvalue
    have hsame := (Value.reread_equals_iff (hkeys.self value hvalue)).mpr
      (hfinite.self value hvalue)
    rwa [Value.reread_eq_self (hfinite.self value hvalue)] at hsame
  | pattern form => simp [equals]
  | range min max integer =>
    have hbound (bound : Option Binary64) (hbound : ∀ x ∈ bound, x.isFinite = true) :
        sameBound bound bound = true := by
      cases bound with
      | none => rfl
      | some x => exact Binary64.equals_self_of_isFinite (hbound x rfl)
    simp [equals, hbound min hfinite.self.1, hbound max hfinite.self.2]
  | array items least most ih =>
    simp [equals, ih hkeys.items hfinite.items]
  | object properties required additional ih =>
    have hproperties : propertiesEqual properties properties = true := by
      refine propertiesEqual_iff.mpr fun entry hentry => ⟨entry.2, ?_, ?_⟩
      · exact Entries.lookup_of_mem hkeys.self.1 hentry
      · exact ih entry hentry (hkeys.property hentry) (hfinite.property hentry)
    simp [equals, hproperties, sameNames_self]
  | anyOf branches ih =>
    rw [equals, branchesEqual_iff, List.forall₂_same]
    exact fun branch hbranch => ih branch hbranch (hkeys.anyOf hbranch) (hfinite.anyOf hbranch)
  | oneOf branches ih =>
    rw [equals, branchesEqual_iff, List.forall₂_same]
    exact fun branch hbranch => ih branch hbranch (hkeys.oneOf hbranch) (hfinite.oneOf hbranch)

/-- A schema with finite numbers that is written in tagged form and read back is the same schema,
down to the order of its parts and the kinds of the numbers in its literals. -/
theorem tagged_round_trip {schema : Schema} (hkeys : schema.DistinctKeys)
    (hfinite : schema.Everywhere HasFiniteNumbers) :
    decodeValue ofTagged schema.toTagged = .ok schema ∧ schema.equals schema = true := by
  refine ⟨?_, equals_self hkeys hfinite⟩
  obtain ⟨tag, parts, htagged⟩ : ∃ tag parts, schema.toTagged = tagged tag parts := by
    cases schema <;> exact ⟨_, _, rfl⟩
  have hkind := schema.kind_notMem_of_toTagged_eq htagged
  have hread := decodeBuffered_toTagged hkeys hfinite
  rw [htagged] at hread
  rw [decodeValue, htagged, ofTagged_tagged hkind, hread]
  rfl

end

/-- The required keys of a branch stay in another order than its properties, and `1` and `1.0` stay
apart among its literals. -/
theorem tagged_round_trip_of_nested :
    let schema := anyOf [
      object [("sizes", array (range (some 0) none true) (some 1) none),
        ("mode", enumeration [.int 1, .float 1, .object [("auto", .null)]])]
        ["mode", "sizes"] .reject,
      pattern SharedSchemas.dimensionPattern]
    schema.DistinctKeys ∧ schema.Everywhere HasFiniteNumbers ∧
      decodeValue ofTagged schema.toTagged = .ok schema ∧ schema.equals schema = true := by
  intro schema
  have hzero : Binary64.isFinite 0 = true := by decide +kernel
  have hone : Binary64.isFinite 1 = true := by decide +kernel
  have hleaf {holds : Schema → Prop} :
      ((range (some 0) none true).Everywhere holds ↔ holds (range (some 0) none true)) ∧
        ((enumeration [.int 1, .float 1, .object [("auto", .null)]]).Everywhere holds ↔
          holds (enumeration [.int 1, .float 1, .object [("auto", .null)]])) ∧
        ((pattern SharedSchemas.dimensionPattern).Everywhere holds ↔
          holds (pattern SharedSchemas.dimensionPattern)) :=
    ⟨everywhere_of_height_eq_zero rfl, everywhere_of_height_eq_zero rfl,
      everywhere_of_height_eq_zero rfl⟩
  have hkeys : schema.DistinctKeys := by
    simp only [schema, DistinctKeys, everywhere_anyOf, everywhere_object, everywhere_array,
      List.forall_mem_cons, hleaf]
    simp [HasDistinctKeys, Value.DistinctKeys, Value.HasDistinctKeys, Entries.keys]
  have hfinite : schema.Everywhere HasFiniteNumbers := by
    simp only [schema, everywhere_anyOf, everywhere_object, everywhere_array,
      List.forall_mem_cons, hleaf]
    simp [HasFiniteNumbers, Value.IsFinite, hzero, hone]
  exact ⟨hkeys, hfinite, tagged_round_trip hkeys hfinite⟩

end Schema

end ControlProps
