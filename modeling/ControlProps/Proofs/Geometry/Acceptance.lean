import ControlProps.Engine.Patterns
import ControlProps.Proofs.Geometry.FrameKeys
import ControlProps.Proofs.SharedSchemas

/-!
# Canonical shapes are accepted

What a normalizer makes of a value is described by the fragment that the shared schemas have for it.
Two kinds of canonical values are not: lengths that are not finite, alone or in a frame, and the
empty list of amounts, which scales and skews may be given as.
-/

namespace ControlProps

/-- Whether an entry of a frame is no length with a number that is not finite. -/
def FrameEntry.HasFiniteLength : FrameEntry → Prop
  | dimension size => size.HasFiniteLength
  | _ => True

/-- Whether the numbers of all lengths in a frame are finite. -/
def Frame.HasFiniteLengths (frame : Frame) : Prop :=
  ∀ entry ∈ frame.entries, entry.2.HasFiniteLength

namespace SharedSchemas

section

variable [SharedPatterns] {strict : Bool}

/-- Every color matrix is accepted. -/
theorem colorMatrix_conforms (matrix : ColorMatrix) :
    colorMatrix.Conforms strict matrix.toValue := by
  cases matrix with
  | named name =>
    have hbranch : Schema.string ∈ [.array .number (some 20) (some 20), Schema.string] := by simp
    refine anyOf_conforms hbranch ?_
    rw [Schema.string, Schema.Conforms]
    exact .inr rfl
  | matrix entries full =>
    have hbranch : .array .number (some 20) (some 20) ∈
        [.array .number (some 20) (some 20), Schema.string] := by simp
    refine anyOf_conforms hbranch (numberArray_conforms ?_ ?_)
    · rintro _ ⟨⟩
      exact full.ge
    · rintro _ ⟨⟩
      exact full.le

/-- The fragment for the entries of a frame in a role. -/
def ofRole : FrameRole → Schema
  | .dimension => dimension
  | .alignment => alignment
  | .layer => .number

/-- Under every key that has a role, its fragment. -/
def frameProperties : List (String × Schema) :=
  [FrameRole.dimension, .alignment, .layer].flatMap fun role =>
    role.keys.map fun key => (key, ofRole role)

/-- A frame declares these properties, and no others. -/
theorem frameChild_eq_openObject : frameChild = .openObject frameProperties := rfl

/-- What a frame declares for a key is the fragment for the role of the key. -/
theorem lookup_frameProperties_eq_some_iff {key : String} {declared : Schema} :
    frameProperties.lookup key = some declared ↔
      ∃ role : FrameRole, key ∈ role.keys ∧ ofRole role = declared := by
  have hkeys : Entries.keys frameProperties =
      [FrameRole.dimension, .alignment, .layer].flatMap FrameRole.keys := rfl
  have hdistinct : (Entries.keys frameProperties).Nodup := hkeys ▸ by decide
  constructor
  · intro hfound
    obtain ⟨role, _, hmem⟩ := List.mem_flatMap.mp (Entries.mem_of_lookup hfound)
    obtain ⟨_, hkey, hentry⟩ := List.mem_map.mp hmem
    obtain ⟨rfl, rfl⟩ := Prod.mk.inj hentry
    exact ⟨role, hkey, rfl⟩
  · rintro ⟨role, hkey, rfl⟩
    have hrole : role ∈ [FrameRole.dimension, .alignment, .layer] := by cases role <;> decide
    refine Entries.lookup_of_mem hdistinct (List.mem_flatMap.mpr ⟨role, hrole, ?_⟩)
    exact List.mem_map.mpr ⟨key, hkey, rfl⟩

/-- An object is accepted as a frame if each entry is by the fragment for the role of its key. -/
theorem frameChild_conforms_iff {entries : PropertyBag} :
    frameChild.Conforms strict (.object entries) ↔
      ∀ entry ∈ entries, ∀ role : FrameRole, entry.1 ∈ role.keys →
        (ofRole role).Conforms strict entry.2 := by
  rw [frameChild_eq_openObject, Schema.openObject, Schema.Conforms]
  simp [lookup_frameProperties_eq_some_iff]

/-- An entry that was read in a role is accepted exactly if it is no length with a number that is
not finite. -/
theorem ofRole_conforms_iff (hpattern : DimensionPatternIsExact) {role : FrameRole} {value : Value}
    {entry : FrameEntry} (hvalue : FrameEntry.ofValue role value = .ok (some entry)) :
    (ofRole role).Conforms strict entry.toValue ↔ entry.HasFiniteLength := by
  cases role with
  | dimension =>
    obtain ⟨size, _, rfl⟩ := optionMap_eq_ok_some_iff.mp hvalue
    exact dimension_conforms_iff hpattern
  | alignment =>
    obtain ⟨place, _, rfl⟩ := optionMap_eq_ok_some_iff.mp hvalue
    exact iff_of_true (alignment_conforms place) trivial
  | layer =>
    obtain ⟨z, _, hsome⟩ := map_eq_ok_iff.mp hvalue
    obtain rfl := Option.some.inj hsome
    exact iff_of_true (number_conforms z) trivial

/-- A frame that was read is accepted exactly if the numbers of its lengths are finite. -/
theorem frameChild_conforms_toValue_iff (hpattern : DimensionPatternIsExact) {refuse : Bool}
    {value : Value} {frame : Frame} (hvalue : Frame.ofValue refuse value = .ok frame) :
    frameChild.Conforms strict frame.toValue ↔ frame.HasFiniteLengths := by
  rw [Frame.toValue, frameChild_conforms_iff, List.forall_mem_map]
  refine forall₂_congr fun found hfound => ?_
  obtain ⟨given, hkey, role, hrole, hread⟩ := Frame.exists_given_of_ofValue hvalue hfound
  rw [← ofRole_conforms_iff hpattern hread, hkey]
  constructor
  · exact fun hall => hall role hrole
  · intro hconforms other hother
    -- a key has one role only
    have hsame := FrameRole.ofKey?_eq_some_iff.mpr hother
    rw [FrameRole.ofKey?_eq_some_iff.mpr hrole] at hsame
    exact Option.some.inj hsame ▸ hconforms

/-- The fragment for a role has at most three levels. -/
theorem height_ofRole_le (role : FrameRole) : (ofRole role).height ≤ 3 := by
  cases role <;> exact of_decide_eq_true rfl

/-- A frame has one level more. -/
theorem height_frameChild_le : frameChild.height ≤ 4 := by
  rw [frameChild_eq_openObject, Schema.openObject, Schema.height, Schema.propertiesHeight_le_iff]
  intro entry hentry
  obtain ⟨role, _, hmem⟩ := List.mem_flatMap.mp hentry
  obtain ⟨_, _, rfl⟩ := List.mem_map.mp hmem
  exact Nat.lt_succ_of_le (height_ofRole_le role)

/--
**Canonical shapes are accepted.** With a limit of at least four levels, as the default is, what a
value is read as is accepted by the shared schema for it, in both modes: every offset, alignment,
padding and color matrix, and, of the frames, exactly those in which the numbers of all lengths are
finite.
-/
theorem canonical_shapes_are_valid (hpattern : DimensionPatternIsExact)
    {options : ValidationOptions} (hdepth : 4 ≤ options.maxDepth) (root : String) (value : Value) :
    (∀ shift, Offset.ofValue value = .ok (some shift) →
      offset.validate options root shift.toValue = []) ∧
    (∀ place, Alignment.ofValue value = .ok (some place) →
      alignment.validate options root place.toValue = []) ∧
    (∀ room, Padding.ofValue value = .ok (some room) →
      padding.validate options root room.toValue = []) ∧
    (∀ matrix, ColorMatrix.ofValue value = .ok (some matrix) →
      colorMatrix.validate options root matrix.toValue = []) ∧
    ∀ refuse frame, Frame.ofValue refuse value = .ok frame →
      (frameChild.validate options root frame.toValue = [] ↔ frame.HasFiniteLengths) := by
  have hvalid {schema : Schema} {shape : Value} (hheight : schema.height ≤ 4) :
      schema.validate options root shape = [] ↔ schema.Conforms options.strict shape :=
    Schema.validate_eq_nil_iff_conforms (hheight.trans hdepth)
  refine ⟨fun shift _ => ?_, fun place _ => ?_, fun room _ => ?_, fun matrix _ => ?_,
    fun refuse frame hvalue => ?_⟩
  · exact (hvalid (of_decide_eq_true rfl)).mpr (offset_conforms shift)
  · exact (hvalid (of_decide_eq_true rfl)).mpr (alignment_conforms place)
  · exact (hvalid (of_decide_eq_true rfl)).mpr (padding_conforms room)
  · exact (hvalid (of_decide_eq_true rfl)).mpr (colorMatrix_conforms matrix)
  · rw [hvalid height_frameChild_le, frameChild_conforms_toValue_iff hpattern hvalue]

end

/-- An object that is read as an offset, an alignment, a padding and a frame, and the name of a
color matrix. -/
theorem canonical_shapes_of_object_are_valid :
    let options : ValidationOptions := ⟨true, ValidationOptions.defaultDepth⟩
    let value : Value := .object [("x", .int 1), ("left", .string " 2 "), ("width", .string "50%")]
    let shift : Offset := .axes (some 1) none
    let room : Padding := .edges (some 2) none none none
    let frame : Frame := ⟨[("x", .dimension (.points 1)), ("left", .dimension (.points 2)),
      ("width", .dimension (.length 50 .percent))]⟩
    (Offset.ofValue value = .ok (some shift) ∧
      offset.validate options "root" shift.toValue = []) ∧
    (Alignment.ofValue value = .ok (some (.offset shift)) ∧
      alignment.validate options "root" shift.toValue = []) ∧
    (Padding.ofValue value = .ok (some room) ∧
      padding.validate options "root" room.toValue = []) ∧
    (ColorMatrix.ofValue (.string "sepia") = .ok (some (.named "sepia")) ∧
      colorMatrix.validate options "root" (.string "sepia") = []) ∧
    Frame.ofValue true value = .ok frame ∧
      frameChild.validate options "root" frame.toValue = [] := by
  intro options value shift room frame
  have hdepth : 4 ≤ options.maxDepth := by decide
  have hshift : Offset.ofValue value = .ok (some shift) := by decide +kernel
  have hplace : Alignment.ofValue value = .ok (some (.offset shift)) := by decide +kernel
  have hroom : Padding.ofValue value = .ok (some room) := by decide +kernel
  have hframe : Frame.ofValue true value = .ok frame := by decide +kernel
  have hfinite : frame.HasFiniteLengths := by
    have hnumber : Binary64.isFinite 50 = true := by decide +kernel
    simp [Frame.HasFiniteLengths, frame, FrameEntry.HasFiniteLength, hnumber]
  have hexact := Expression.dimensionPatternIsExact
  obtain ⟨hoffset, halignment, hpadding, -, hframes⟩ :=
    canonical_shapes_are_valid hexact hdepth "root" value
  obtain ⟨-, -, -, hmatrix, -⟩ :=
    canonical_shapes_are_valid hexact hdepth "root" (.string "sepia")
  exact ⟨⟨hshift, hoffset _ hshift⟩, ⟨hplace, halignment _ hplace⟩, ⟨hroom, hpadding _ hroom⟩,
    ⟨rfl, hmatrix _ rfl⟩, hframe, (hframes true frame hframe).mpr hfinite⟩

section

variable [SharedPatterns] {strict : Bool}

/-- The empty list is no amount: it is no number, has too few items and is no object. -/
theorem not_axisTransform_conforms_empty : ¬axisTransform.Conforms strict (.array []) := by
  simp [axisTransform, Schema.number, numberList, openObject, Schema.openObject, Schema.Conforms,
    Kind.admits, Value.kind]

/-- An amount is accepted exactly if it is not the empty list. -/
theorem axisTransform_conforms_iff {amount : AxisAmount} :
    axisTransform.Conforms strict amount.toValue ↔ amount.toValue ≠ .array [] := by
  let branches := [Schema.number, numberList 1, openObject]
  refine ⟨fun hconforms hempty => not_axisTransform_conforms_empty (hempty ▸ hconforms), ?_⟩
  intro hsome
  cases amount with
  | uniform all =>
    have hbranch : Schema.number ∈ branches := by simp [branches]
    exact anyOf_conforms hbranch (number_conforms all)
  | list numbers =>
    have hbranch : numberList 1 ∈ branches := by simp [branches]
    refine anyOf_conforms hbranch (numberList_conforms ?_)
    have hnumbers : numbers ≠ [] := by
      rintro rfl
      exact hsome rfl
    exact List.length_pos_iff.mpr hnumbers
  | map entries =>
    have hbranch : openObject ∈ branches := by simp [branches]
    refine anyOf_conforms hbranch ?_
    rw [AxisAmount.toValue, openObject, Schema.openObject, Schema.Conforms]
    simp

omit [SharedPatterns] in
/-- The empty list of amounts is what the empty list is read as, and nothing else is. -/
theorem toValue_eq_empty_iff {transform : AxisTransform} {value : Value} {amount : AxisAmount}
    (hvalue : AxisAmount.ofValue transform value = .ok (some amount)) :
    amount.toValue = .array [] ↔ value = .array [] := by
  cases value with
  | int number =>
    obtain rfl := Option.some.inj (Except.ok.inj hvalue)
    exact iff_of_false nofun nofun
  | float number =>
    obtain rfl := Option.some.inj (Except.ok.inj hvalue)
    exact iff_of_false nofun nofun
  | array items =>
    obtain ⟨numbers, hnumbers, hsome⟩ := map_eq_ok_iff.mp hvalue
    obtain rfl := Option.some.inj hsome
    have hlength := Value.length_of_toNumbers hnumbers
    simp [AxisAmount.toValue, Value.ofNumbers, ← List.length_eq_zero_iff, hlength]
  | object entries =>
    obtain ⟨coerced, _, hsome⟩ := map_eq_ok_iff.mp hvalue
    obtain rfl := Option.some.inj hsome
    exact iff_of_false nofun nofun
  | _ => simp [AxisAmount.ofValue] at hvalue

/--
**Scales and skews are accepted unless they are empty lists.** With a limit of at least two levels,
as the default is, what a value is read as is accepted by the shared schema for both transforms, in
both modes, exactly if the value is not the empty list. The empty list is read as itself, and it has
one record, at the root.
-/
theorem canonical_amount_is_valid_iff {transform : AxisTransform} {value : Value}
    {amount : AxisAmount} (hvalue : AxisAmount.ofValue transform value = .ok (some amount))
    {options : ValidationOptions} (hdepth : 2 ≤ options.maxDepth) (root : String) :
    (axisTransform.validate options root amount.toValue = [] ↔ value ≠ .array []) ∧
      (value = .array [] → amount.toValue = .array [] ∧
        axisTransform.validate options root amount.toValue = [⟨root, .noBranch 3⟩]) := by
  have hempty := toValue_eq_empty_iff hvalue
  refine ⟨?_, fun hvalue => ⟨hempty.mpr hvalue, ?_⟩⟩
  · have hheight : axisTransform.height = 2 := rfl
    rw [Schema.validate_eq_nil_iff_conforms (hheight.trans_le hdepth),
      axisTransform_conforms_iff, ne_eq, hempty]
  · -- with a level for the items, the branches fail one after the other
    obtain ⟨strict, limit⟩ := options
    obtain ⟨levels, rfl⟩ := Nat.exists_eq_add_of_le' hdepth
    rw [hempty.mpr hvalue]
    rfl

end

/-- A skew of two numbers, one of them given as a text. -/
theorem canonical_list_of_skews_is_valid :
    let options : ValidationOptions := ⟨true, ValidationOptions.defaultDepth⟩
    let value : Value := .array [.int 1, .string "2"]
    AxisAmount.ofValue .skew value = .ok (some (.list [1, 2])) ∧
      axisTransform.validate options "root" (AxisAmount.list [1, 2]).toValue = [] := by
  intro options value
  have hnumbers : Value.toNumbers .skew [.int 1, .string "2"] = .ok [1, 2] := by decide +kernel
  have hvalue : AxisAmount.ofValue .skew value = .ok (some (.list [1, 2])) :=
    map_eq_ok_iff.mpr ⟨[1, 2], hnumbers, rfl⟩
  have hdepth : 2 ≤ options.maxDepth := by decide
  have hvalid := canonical_amount_is_valid_iff hvalue hdepth "root"
  exact ⟨hvalue, hvalid.1.mpr (by simp [value])⟩

/-- The empty list is read as a scale, but what it is read as is not accepted as one. -/
theorem empty_list_of_scales_is_invalid :
    AxisAmount.ofValue .scale (.array []) = .ok (some (.list [])) ∧
      axisTransform.validate ⟨false, ValidationOptions.defaultDepth⟩ "root"
        (AxisAmount.list []).toValue ≠ [] :=
  ⟨rfl, nofun⟩

end SharedSchemas

end ControlProps
