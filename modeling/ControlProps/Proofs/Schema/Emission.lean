import ControlProps.Proofs.Schema.Dialect
import ControlProps.Proofs.Schema.Parts
import ControlProps.Proofs.Value.RoundTrip
import ControlProps.Schema.Emission

/-!
# Schemas written and read back

Every document that is written can be read. `Schema.reread` says what comes back: most schemas do
so as they were, but the dialect has no words for some others, which come back in another shape.
-/

namespace ControlProps

namespace Binary64

/-- What is read back after a bound is written. -/
def reread (bound : Binary64) : Option Binary64 := bound.boundJson.number?

/-- A finite bound comes back equal to what it was. -/
theorem reread_of_isFinite {x : Binary64} (hx : x.isFinite = true) :
    ∃ y, x.reread = some y ∧ y.equals x = true := by
  unfold reread boundJson
  cases hinteger : x.integer? with
  | none => exact ⟨x, by simp [hx, Json.number?], equals_self_of_isFinite hx⟩
  | some i =>
    by_cases hrange : Int64.minValue.toInt ≤ i ∧ i ≤ Int64.maxValue.toInt + 1
    · have hequals := ofInt_equals_of_integer? hinteger
      refine ⟨ofInt (min i Int64.maxValue.toInt), by simp only [if_pos hrange]; rfl, ?_⟩
      by_cases hfits : i ≤ Int64.maxValue.toInt
      · rwa [Int.min_eq_left hfits]
      · -- the one integer that is cut lies above the range by one
        have hover : i = Int64.maxValue.toInt + 1 := by omega
        rw [Int.min_eq_right (by omega), ofInt_maxValue, ← hover]
        exact hequals
    · exact ⟨x, by simp only [if_neg hrange]; rfl, equals_self_of_isFinite hx⟩

/-- A bound that is not finite is written as `null`. -/
theorem boundJson_of_not_isFinite {x : Binary64} (hx : x.isFinite = false) :
    x.boundJson = .null := by
  simp only [boundJson, integer?_of_not_isFinite hx, hx]
  rfl

/-- A bound that is not finite does not come back. -/
theorem reread_of_not_isFinite {x : Binary64} (hx : x.isFinite = false) : x.reread = none := by
  rw [reread, boundJson_of_not_isFinite hx]
  rfl

end Binary64

/-- A pattern can be read from its source. -/
theorem Pattern.compile?_source [PatternEngine] {form : Pattern} :
    compile? form.source = some form := by
  unfold compile?
  split
  · exact congrArg some (Pattern.ext rfl)
  · rename_i hnone
    simp [form.compiles] at hnone

/-- The name of a kind is read as that kind. -/
@[simp] theorem Kind.ofName?_name {kind : Kind} : ofName? kind.name = some kind := by
  cases kind <;> rfl

namespace Schema

/-- A member that is left out if there is nothing to write is found if it is not. -/
@[simp] theorem lookup_memberIf {α : Type} {key : String} {write : α → Json} {value : Option α} :
    (memberIf key write value).lookup key = value.map write := by
  cases value <;> simp [memberIf]

/-- Such a member is not found under other keys. -/
@[simp] theorem lookup_memberIf_of_ne {α : Type} {key other : String} {write : α → Json}
    {value : Option α} (hne : other ≠ key) : (memberIf key write value).lookup other = none := by
  cases value <;> simp [memberIf, hne]

/-- A number under a keyword is read. -/
theorem readBound_of_number? {keyword : String} {members : List (String × Json)} {value : Json}
    {bound : Binary64} (hfound : members.lookup keyword = some value)
    (hnumber : value.number? = some bound) : readBound keyword members = .ok (some bound) := by
  have hne : value ≠ .null := by
    rintro rfl
    simp [Json.number?] at hnumber
  simp only [readBound, hfound, hnumber]

/-- A count under a keyword is read. -/
theorem readCount_of_count? {keyword : String} {members : List (String × Json)} {value : Json}
    {count : UInt64} (hfound : members.lookup keyword = some value)
    (hcount : value.count? = some count) : readCount keyword members = .ok (some count) := by
  have hne : value ≠ .null := by
    rintro rfl
    simp [Json.count?] at hcount
  simp only [readCount, hfound, hcount]

/-- A bound that is written is read as what comes back of it. -/
theorem readBound_of_lookup {keyword : String} {members : List (String × Json)}
    {bound : Option Binary64} (hfound : members.lookup keyword = bound.map Binary64.boundJson) :
    readBound keyword members = .ok (bound.bind Binary64.reread) := by
  cases bound with
  | none => simp [readBound, hfound]
  | some x =>
    rw [Option.map_some] at hfound
    cases hx : x.isFinite with
    | false =>
      simp [readBound, hfound, Binary64.boundJson_of_not_isFinite hx,
        Binary64.reread_of_not_isFinite hx]
    | true =>
      obtain ⟨y, hy, _⟩ := Binary64.reread_of_isFinite hx
      rw [Option.bind_some, hy]
      exact readBound_of_number? hfound hy

/-- A count is within the range of counts. -/
theorem toNat_mem_range (count : UInt64) :
    (0 : Int) ≤ count.toNat ∧ (count.toNat : Int) < UInt64.size :=
  ⟨Int.natCast_nonneg _, Int.ofNat_lt.mpr count.toNat_lt_size⟩

/-- A count is read from the integer that it is. -/
theorem count?_int {count : UInt64} : (Json.int count.toNat).count? = some count := by
  rw [Json.count?, if_pos (toNat_mem_range count), Int.toNat_natCast, UInt64.ofNat_toNat]

/-- A count that is written is read as it was. -/
theorem readCount_of_lookup {keyword : String} {members : List (String × Json)}
    {count : Option UInt64} (hfound : members.lookup keyword = count.map countJson) :
    readCount keyword members = .ok count := by
  cases count with
  | none => simp [readCount, hfound]
  | some n => exact readCount_of_count? hfound count?_int

/-- Required keys that are written are read as they were. -/
theorem readRequiredKeys_map_string {index : Nat} {required : List String} :
    readRequiredKeys index (required.map Json.string) = .ok required := by
  induction required generalizing index with
  | nil => rfl
  | cons key rest ih =>
    rw [List.map_cons, readRequiredKeys, ih]
    rfl

variable [PatternEngine]

mutual

/-- What is read back after a schema is written. -/
def reread : Schema → Schema
  | any => any
  | primitive .array => array any none none
  | primitive .object => object [] [] .allow
  | primitive kind => primitive kind
  | enumeration values => enumeration (values.map Value.reread)
  | pattern form => pattern form
  | range min max integer =>
    let min := min.bind Binary64.reread
    let max := max.bind Binary64.reread
    if min.isNone ∧ max.isNone then primitive (if integer then .integer else .number)
    else range min max integer
  | array items least most => array items.reread least most
  | object properties required additional =>
    object (rereadProperties properties) (Entries.distinct required) additional
  | anyOf branches => anyOf (rereadBranches branches)
  | oneOf branches => oneOf (rereadBranches branches)

/-- What is read back after branches are written. -/
def rereadBranches : List Schema → List Schema
  | [] => []
  | branch :: rest => branch.reread :: rereadBranches rest

/-- What is read back after properties are written. -/
def rereadProperties : List (String × Schema) → List (String × Schema)
  | [] => []
  | (key, schema) :: rest => (key, schema.reread) :: rereadProperties rest

end

/-- Branches come back one by one. -/
theorem rereadBranches_eq_map {branches : List Schema} :
    rereadBranches branches = branches.map reread := by
  induction branches with
  | nil => rfl
  | cons branch rest ih => rw [rereadBranches, ih, List.map_cons]

/-- Properties come back one by one, each under its key. -/
theorem rereadProperties_eq_map {properties : List (String × Schema)} :
    rereadProperties properties = properties.map fun entry => (entry.1, entry.2.reread) := by
  induction properties with
  | nil => rfl
  | cons entry rest ih => rw [rereadProperties, ih, List.map_cons]

/-- Branches that can be read back are read back as a list. -/
theorem readBranchList_branchesToJson {branches : List Schema} {index : Nat}
    (hbranches : ∀ branch ∈ branches, ofJson branch.toJson = .ok branch.reread) :
    readBranchList index (branchesToJson branches) = .ok (rereadBranches branches) := by
  induction branches generalizing index with
  | nil => rfl
  | cons branch rest ih =>
    obtain ⟨hbranch, hrest⟩ := List.forall_mem_cons.mp hbranches
    rw [branchesToJson, readBranchList, hbranch, ih hrest]
    rfl

/-- Properties that can be read back are read back as a table. -/
theorem readDeclaredMembers_propertiesToJson {properties : List (String × Schema)}
    (hproperties : ∀ entry ∈ properties, ofJson entry.2.toJson = .ok entry.2.reread) :
    readDeclaredMembers (propertiesToJson properties) = .ok (rereadProperties properties) := by
  induction properties with
  | nil => rfl
  | cons entry rest ih =>
    obtain ⟨hentry, hrest⟩ := List.forall_mem_cons.mp hproperties
    rw [propertiesToJson, readDeclaredMembers, hentry, ih hrest]
    rfl

/-- Bounds that are written are read as what comes back of them. -/
theorem readNumeric_of_lookup {members : List (String × Json)} {min max : Option Binary64}
    {integer : Bool} (hmin : members.lookup "minimum" = min.map Binary64.boundJson)
    (hmax : members.lookup "maximum" = max.map Binary64.boundJson) :
    readNumeric integer members = .ok (range min max integer).reread := by
  rw [readNumeric, readBound_of_lookup hmin, readBound_of_lookup hmax, reread]
  exact (apply_ite Except.ok _ _ _).symm

omit [PatternEngine] in
/-- A table of required keys that is written is read without repetition. -/
theorem readRequired_of_lookup {members : List (String × Json)} {required : List String}
    (hrequired : members.lookup "required" = some (Json.ofStrings required)) :
    readRequired members = .ok (Entries.distinct required) := by
  simp only [readRequired, hrequired, Json.ofStrings, readRequiredKeys_map_string]
  rfl

/-- A pattern that is written is read as it was. -/
theorem readString_of_lookup {members : List (String × Json)} {form : Pattern}
    (hpattern : members.lookup "pattern" = some (.string form.source)) :
    readString members = .ok (pattern form) := by
  simp only [readString, hpattern, Pattern.compile?_source]

/-- An array schema that is written is read with what comes back of its items. -/
theorem readArray_of_lookup {members : List (String × Json)} {items : Schema}
    {least most : Option UInt64} (hitems : members.lookup "items" = some items.toJson)
    (hread : ofJson items.toJson = .ok items.reread)
    (hleast : members.lookup "minItems" = least.map countJson)
    (hmost : members.lookup "maxItems" = most.map countJson) :
    readArray members = .ok (array items least most).reread := by
  rw [readArray, readItems_eq_lookup, hitems, readCount_of_lookup hleast,
    readCount_of_lookup hmost]
  simp only [hread]
  rfl

/-- An object schema that is written is read with what comes back of its properties. -/
theorem readObject_of_lookup {members : List (String × Json)}
    {properties : List (String × Schema)} {required : List String} {additional : Additional}
    (hproperties : members.lookup "properties" = some (.object (propertiesToJson properties)))
    (hread : ∀ entry ∈ properties, ofJson entry.2.toJson = .ok entry.2.reread)
    (hrequired : readRequired members = .ok (Entries.distinct required))
    (hadditional : readAdditional members = .ok additional) :
    readObject members = .ok (object properties required additional).reread := by
  rw [readObject, readProperties_eq_lookup, hproperties, hrequired, hadditional]
  simp only [readDeclared, readDeclaredMembers_propertiesToJson hread]
  rfl

/-- Whatever is written can be read. -/
theorem ofJson_toJson (schema : Schema) : ofJson schema.toJson = .ok schema.reread := by
  induction schema with
  | any => exact ofJson_of_none rfl rfl rfl rfl
  | primitive kind =>
    rw [toJson, ofJson_of_type rfl rfl rfl rfl Kind.ofName?_name]
    cases kind <;> rfl
  | enumeration values =>
    rw [toJson, ofJson_of_enum rfl rfl rfl, Value.ofItems_itemsToJson, reread]
  | pattern form =>
    have htype : Kind.ofName? "string" = some .string := rfl
    have hpattern : [("type", Json.string "string"), ("pattern", .string form.source)].lookup
        "pattern" = some (.string form.source) := rfl
    rw [toJson, ofJson_of_type rfl rfl rfl rfl htype]
    exact readString_of_lookup hpattern
  | range min max integer =>
    have htype : Kind.ofName? (if integer then "integer" else "number") =
        some (if integer then .integer else .number) := by
      cases integer <;> rfl
    rw [toJson, ofJson_of_type (by simp [List.lookup_append, List.lookup_cons])
      (by simp [List.lookup_append, List.lookup_cons])
      (by simp [List.lookup_append, List.lookup_cons]) rfl htype, readTyped_numeric]
    exact readNumeric_of_lookup (by simp [List.lookup_append, List.lookup_cons])
      (by simp [List.lookup_append, List.lookup_cons])
  | array items least most ih =>
    have htype : Kind.ofName? "array" = some .array := rfl
    rw [toJson, ofJson_of_type (by simp [List.lookup_append, List.lookup_cons])
      (by simp [List.lookup_append, List.lookup_cons])
      (by simp [List.lookup_append, List.lookup_cons]) rfl htype]
    exact readArray_of_lookup rfl ih (by simp [List.lookup_append, List.lookup_cons])
      (by simp [List.lookup_append, List.lookup_cons])
  | object properties required additional ih =>
    have htype : Kind.ofName? "object" = some .object := rfl
    by_cases hempty : required = []
    · subst hempty
      rw [toJson, ofJson_of_type rfl rfl rfl rfl htype]
      refine readObject_of_lookup rfl ih rfl ?_
      cases additional <;> rfl
    · rw [toJson, if_neg (by simpa using hempty), ofJson_of_type rfl rfl rfl rfl htype]
      refine readObject_of_lookup rfl ih (readRequired_of_lookup rfl) ?_
      cases additional <;> rfl
  | anyOf branches ih =>
    rw [toJson, ofJson_of_anyOf rfl, readBranches, readBranchList_branchesToJson ih]
    rfl
  | oneOf branches ih =>
    rw [toJson, ofJson_of_oneOf rfl rfl, readBranches, readBranchList_branchesToJson ih]
    rfl

end Schema

end ControlProps
