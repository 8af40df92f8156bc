import ControlProps.Engine.Patterns
import ControlProps.Proofs.Binary64.Order
import ControlProps.Proofs.Pairing
import ControlProps.Proofs.Schema.RoundTrip
import ControlProps.Proofs.Validation.Places

/-!
# Verdicts on both sides of the dialect

A schema that is written and read back may come back in another shape, but what is wrong with a
value is then still found at the same places. So a branch of a union matches on one side exactly if
it does on the other, and no number of matching branches can change.
-/

namespace ControlProps

namespace Schema

section

variable [PatternEngine]

/-- The places of all that is wrong with a value, in pre-order. -/
def places (strict : Bool) (schema : Schema) (value : Value) : List (List Step) :=
  ((visits strict schema value).flatMap Visit.located).map Finding.steps

/-- What a walk that ends has found lies at these places. -/
theorem map_steps_walk {strict : Bool} {schema : Schema} {levels : Nat} {value : Value}
    (hstop : (schema.walk strict levels value).stop = none) :
    (schema.walk strict levels value).findings.map Finding.steps = schema.places strict value := by
  rw [walk_findings_eq_flatMap_visits hstop, places]

/-- Nothing is wrong with exactly the values that conform. -/
theorem places_eq_nil_iff {strict : Bool} {schema : Schema} {value : Value} :
    schema.places strict value = [] ↔ schema.Conforms strict value := by
  -- a walk with enough levels ends, and then says both
  have hstop : (schema.walk strict (schema.height + 1) value).stop = none :=
    walk_stop_eq_none_of_height_lt (Nat.lt_succ_self _)
  rw [← map_steps_walk hstop, List.map_eq_nil_iff, walk_findings_eq_nil_iff hstop]

/-- The places at a value itself come before those in its items and entries. -/
theorem places_eq_append (strict : Bool) (schema : Schema) (value : Value) :
    schema.places strict value =
      (schema.ownFindings strict value).map Finding.steps ++
        (innerFindings strict schema value).map Finding.steps := by
  rw [places, flatMap_visits, List.map_append]

omit [PatternEngine] in
/-- Findings that are seen from further up lie one step further in. -/
theorem map_steps_under (step : Step) (findings : List Finding) :
    (findings.map (.under step)).map Finding.steps =
      (findings.map Finding.steps).map (step :: ·) := by
  rw [List.map_map, List.map_map]
  rfl

/-- The places in an array are those in each item, one after the other. -/
theorem map_steps_innerFindings_array (strict : Bool) (items : Schema) (least most : Option UInt64)
    (values : List Value) :
    (innerFindings strict (.array items least most) (.array values)).map Finding.steps =
      values.zipIdx.flatMap fun item =>
        (items.places strict item.1).map (.index item.2 :: ·) := by
  simp only [innerFindings, List.map_flatMap, map_steps_under, places]

/-- The places in an entry: those in its value, or the entry itself if its key is refused. -/
def entryPlaces (strict : Bool) (properties : List (String × Schema)) (refuse : Bool)
    (child : String × Value) : List (List Step) :=
  match properties.lookup child.1 with
  | some declared => (declared.places strict child.2).map (.key child.1 :: ·)
  | none => if refuse then [[.key child.1]] else []

/-- The places in an object are those in each entry, one after the other. -/
theorem map_steps_innerFindings_object (strict : Bool) (properties : List (String × Schema))
    (required : List String) (additional : Additional) (entries : List (String × Value)) :
    (innerFindings strict (.object properties required additional) (.object entries)).map
        Finding.steps =
      entries.flatMap (entryPlaces strict properties (strict && additional = .reject)) := by
  rw [innerFindings, List.map_flatMap]
  refine List.flatMap_congr fun child _ => ?_
  cases hdeclared : properties.lookup child.1 with
  | some declared => simp only [entryFindings, entryPlaces, hdeclared, map_steps_under, places]
  | none =>
    simp only [entryFindings, entryPlaces, hdeclared]
    split <;> rfl

/-- Two schemas find something wrong at the same places of every value. -/
def SamePlaces (a b : Schema) : Prop :=
  ∀ strict value, a.places strict value = b.places strict value

namespace SamePlaces

theorem refl (schema : Schema) : SamePlaces schema schema := fun _ _ => rfl

/-- Schemas with the same places describe the same values. -/
theorem conforms_iff {a b : Schema} (h : SamePlaces a b) (strict : Bool) (value : Value) :
    a.Conforms strict value ↔ b.Conforms strict value := by
  rw [← places_eq_nil_iff, h strict value, places_eq_nil_iff]

/-- Schemas without inner places have the same places if both are wrong about the same values,
other than `null`, and each time at the value itself. -/
theorem of_own {a b : Schema} (ha : ∀ strict value, innerFindings strict a value = [])
    (hb : ∀ strict value, innerFindings strict b value = [])
    (h : ∀ strict value, value.isNull = false →
      (a.ownFindings strict value).map Finding.steps =
        (b.ownFindings strict value).map Finding.steps) : SamePlaces a b := by
  intro strict value
  rw [places_eq_append, places_eq_append, ha, hb]
  cases hnull : value.isNull with
  | true => simp [ownFindings, hnull]
  | false => rw [h strict value hnull]

/-- Arrays of items with the same places. -/
protected theorem array {a b : Schema} (h : SamePlaces a b) (least most : Option UInt64) :
    SamePlaces (.array a least most) (.array b least most) := by
  intro strict value
  rw [places_eq_append, places_eq_append]
  cases value with
  | array values =>
    rw [map_steps_innerFindings_array, map_steps_innerFindings_array]
    simp only [h strict]
    rfl
  | _ => rfl

/-- Objects whose properties of each key have the same places. -/
protected theorem object {as bs : List (String × Schema)}
    (h : ∀ key, Option.Rel SamePlaces (as.lookup key) (bs.lookup key)) (required : List String)
    (additional : Additional) :
    SamePlaces (.object as required additional) (.object bs required additional) := by
  intro strict value
  rw [places_eq_append, places_eq_append]
  cases value with
  | object entries =>
    have hentry (refuse : Bool) :
        entryPlaces strict as refuse = entryPlaces strict bs refuse := by
      funext child
      have hrel := h child.1
      unfold entryPlaces
      generalize as.lookup child.1 = a, bs.lookup child.1 = b at hrel ⊢
      cases hrel with
      | none => rfl
      | some hsame => simp only [hsame strict]
    rw [map_steps_innerFindings_object, map_steps_innerFindings_object, hentry]
    rfl
  | _ => rfl

/-- Unions whose branches have the same places, one by one. -/
protected theorem anyOf {as bs : List Schema} (h : List.Forall₂ SamePlaces as bs) :
    SamePlaces (.anyOf as) (.anyOf bs) := by
  refine of_own (fun _ _ => rfl) (fun _ _ => rfl) fun strict value hnull => ?_
  have hiff : (∃ branch ∈ as, branch.Conforms strict value) ↔
      ∃ branch ∈ bs, branch.Conforms strict value :=
    exists_mem_iff_of_forall₂ (h.imp fun _ _ hsame => hsame.conforms_iff strict value)
  simp only [ownFindings, hnull, hiff, h.length_eq]

/-- Exclusive unions whose branches have the same places, one by one. -/
protected theorem oneOf {as bs : List Schema} (h : List.Forall₂ SamePlaces as bs) :
    SamePlaces (.oneOf as) (.oneOf bs) := by
  refine of_own (fun _ _ => rfl) (fun _ _ => rfl) fun strict value hnull => ?_
  have hcount : (as.countP fun branch => branch.Conforms strict value) =
      bs.countP fun branch => branch.Conforms strict value :=
    countP_eq_of_forall₂ (h.imp fun _ _ hsame =>
      decide_eq_decide.mpr (hsame.conforms_iff strict value))
  simp only [ownFindings, hnull, hcount, h.length_eq]

end SamePlaces

/-- The numbers that a schema itself names as bounds or in literals are finite. -/
def HasFiniteNumbers : Schema → Prop
  | enumeration values => ∀ value ∈ values, value.Everywhere Value.IsFinite
  | range min max _ =>
    (∀ bound ∈ min, bound.isFinite = true) ∧ ∀ bound ∈ max, bound.isFinite = true
  | _ => True

/-- An array of any items is what the kind of arrays describes. -/
theorem samePlaces_primitive_array : SamePlaces (primitive .array) (array any none none) := by
  intro strict value
  rw [places_eq_append, places_eq_append]
  cases value with
  | array values =>
    have hitem (item : Value) : any.places strict item = [] :=
      places_eq_nil_iff.mpr (by simp [Conforms])
    rw [map_steps_innerFindings_array]
    simp only [hitem]
    simp [ownFindings, innerFindings, Value.isNull, Kind.admits, Value.kind,
      Checker.countFindings]
  | _ => rfl

/-- An open object without declared properties is what the kind of objects describes. -/
theorem samePlaces_primitive_object : SamePlaces (primitive .object) (object [] [] .allow) := by
  intro strict value
  rw [places_eq_append, places_eq_append]
  cases value with
  | object entries =>
    rw [map_steps_innerFindings_object]
    simp [ownFindings, innerFindings, Value.isNull, Kind.admits, Value.kind,
      Checker.missingFindings, entryPlaces]
  | _ => rfl

/-- A range without bounds is what the kind of its numbers describes. -/
theorem samePlaces_range_none (integer : Bool) :
    SamePlaces (range none none integer) (primitive (if integer then .integer else .number)) := by
  refine .of_own (fun _ _ => rfl) (fun _ _ => rfl) fun strict value hnull => ?_
  cases value <;> cases integer <;> rfl

omit [PatternEngine] in
/-- A number is wrong at most once, and then for one of the bounds. -/
theorem map_steps_checkerRange (min max : Option Binary64) (number : Binary64) :
    (Checker.range min max number).findings.map Finding.steps =
      if min.any number.isBelow || max.any (·.isBelow number) then [[]] else [] := by
  unfold Checker.range
  cases min with
  | none =>
    cases max with
    | none => rfl
    | some high => cases habove : high.isBelow number <;> simp [Option.filter, habove]
  | some low =>
    cases hbelow : number.isBelow low with
    | true => simp [Option.filter, hbelow]
    | false =>
      cases max with
      | none => simp [Option.filter, hbelow]
      | some high => cases habove : high.isBelow number <;> simp [Option.filter, hbelow, habove]

/-- Bounds that are absent together and otherwise equal. -/
def EqualBounds : Option Binary64 → Option Binary64 → Prop :=
  Option.Rel fun x y => x.equals y = true

/-- Ranges between equal bounds. -/
theorem samePlaces_range {min max min' max' : Option Binary64} (hmin : EqualBounds min min')
    (hmax : EqualBounds max max') (integer : Bool) :
    SamePlaces (range min max integer) (range min' max' integer) := by
  have hlow (number : Binary64) : min.any number.isBelow = min'.any number.isBelow := by
    cases hmin with
    | none => rfl
    | some hequals => exact Binary64.isBelow_congr_right hequals
  have hhigh (number : Binary64) : max.any (·.isBelow number) = max'.any (·.isBelow number) := by
    cases hmax with
    | none => rfl
    | some hequals => exact Binary64.isBelow_congr_left hequals
  have hrange (number : Binary64) :
      (Checker.range min max number).findings.map Finding.steps =
        (Checker.range min' max' number).findings.map Finding.steps := by
    rw [map_steps_checkerRange, map_steps_checkerRange, hlow, hhigh]
  refine .of_own (fun _ _ => rfl) (fun _ _ => rfl) fun strict value hnull => ?_
  cases value with
  | int number => exact hrange _
  | float number =>
    cases integer with
    | true => rfl
    | false => exact hrange number
  | _ => rfl

omit [PatternEngine] in
/-- A finite bound comes back equal, and an absent one stays absent. -/
theorem equalBounds_reread {bound : Option Binary64} (hfinite : ∀ x ∈ bound, x.isFinite = true) :
    EqualBounds bound (bound.bind Binary64.reread) := by
  cases bound with
  | none => exact .none
  | some x =>
    obtain ⟨y, hy, hequals⟩ := Binary64.reread_of_isFinite (hfinite x rfl)
    rw [Binary64.equals_comm] at hequals
    rw [Option.bind_some, hy]
    exact .some hequals

/-- The property of each key comes back. -/
theorem lookup_rereadProperties (properties : List (String × Schema)) (key : String) :
    (rereadProperties properties).lookup key = (properties.lookup key).map reread := by
  induction properties with
  | nil => rfl
  | cons first rest ih =>
    obtain ⟨name, declared⟩ := first
    simp only [rereadProperties, List.lookup_cons, ih]
    cases key == name <;> rfl

/-- Each branch comes back in its place. -/
theorem forall₂_samePlaces_reread {branches : List Schema}
    (hsame : ∀ branch ∈ branches, SamePlaces branch branch.reread) :
    List.Forall₂ SamePlaces branches (rereadBranches branches) := by
  rw [rereadBranches_eq_map]
  exact List.forall₂_map_right_iff.mpr (List.forall₂_same.mpr hsame)

/-- What comes back of a schema with finite numbers finds something wrong at the same places. -/
theorem samePlaces_reread {schema : Schema} (hfinite : schema.Everywhere HasFiniteNumbers)
    (hkeys : schema.DistinctKeys) : SamePlaces schema schema.reread := by
  induction schema with
  | any => exact .refl _
  | primitive kind =>
    cases kind with
    | array => exact samePlaces_primitive_array
    | object => exact samePlaces_primitive_object
    | _ => exact .refl _
  | enumeration values =>
    have hvalues : values.map Value.reread = values.map id :=
      List.map_congr_left fun value hvalue => Value.reread_eq_self (hfinite.self value hvalue)
    rw [reread, hvalues, List.map_id]
    exact .refl _
  | pattern form => exact .refl _
  | range min max integer =>
    have hmin := equalBounds_reread hfinite.self.1
    have hmax := equalBounds_reread hfinite.self.2
    simp only [reread, Option.isNone_iff_eq_none, bind_reread_eq_none_iff hfinite.self.1,
      bind_reread_eq_none_iff hfinite.self.2]
    split
    · rename_i habsent
      rw [habsent.1, habsent.2]
      exact samePlaces_range_none integer
    · exact samePlaces_range hmin hmax integer
  | array items least most ih =>
    exact (ih hfinite.items hkeys.items).array least most
  | object properties required additional ih =>
    rw [reread, Entries.distinct_of_nodup hkeys.self.2]
    refine SamePlaces.object (fun key => ?_) required additional
    rw [lookup_rereadProperties]
    cases hdeclared : properties.lookup key with
    | none => exact .none
    | some declared =>
      have hmem := Entries.mem_of_lookup hdeclared
      exact .some (ih _ hmem (hfinite.property hmem) (hkeys.property hmem))
  | anyOf branches ih =>
    refine .anyOf (forall₂_samePlaces_reread fun branch hbranch => ?_)
    exact ih branch hbranch (hfinite.anyOf hbranch) (hkeys.anyOf hbranch)
  | oneOf branches ih =>
    refine .oneOf (forall₂_samePlaces_reread fun branch hbranch => ?_)
    exact ih branch hbranch (hfinite.oneOf hbranch) (hkeys.oneOf hbranch)

/-- **Emission keeps verdicts.** A schema with finite numbers can be read back from what is written
of it, and what is read finds something wrong at the same places, in the same order. -/
theorem round_trip_keeps_record_paths {schema : Schema}
    (hfinite : schema.Everywhere HasFiniteNumbers) (hkeys : schema.DistinctKeys) :
    ∃ read, ofJson schema.toJson = .ok read ∧
      ∀ options root value records records',
        schema.check options root value = .ok records →
        read.check options root value = .ok records' →
        records.map Record.path = records'.map Record.path ∧ (records = [] ↔ records' = []) := by
  refine ⟨schema.reread, ofJson_toJson schema, ?_⟩
  intro options root value records records' hok hok'
  obtain ⟨hended, rfl⟩ := Walk.check_eq_ok_iff.mp hok
  obtain ⟨hended', rfl⟩ := Walk.check_eq_ok_iff.mp hok'
  have hsteps : (schema.walkValue options value).findings.map Finding.steps =
      (schema.reread.walkValue options value).findings.map Finding.steps := by
    rw [walkValue, walkValue, map_steps_walk hended, map_steps_walk hended']
    exact samePlaces_reread hfinite hkeys options.strict value
  have hpaths (walk : Walk) : (walk.findings.map (Finding.record root)).map Record.path =
      (walk.findings.map Finding.steps).map (renderPath root) := by
    rw [List.map_map, List.map_map]
    rfl
  refine ⟨by rw [hpaths, hpaths, hsteps], ?_⟩
  have hempty := congrArg (· = []) hsteps
  simpa only [List.map_eq_nil_iff, eq_iff_iff] using hempty

end

/-- Kinds of arrays and objects and a range without bounds, below an exclusive union in a closed
object: none of them comes back as it was. -/
theorem round_trip_of_kinds_keeps_record_paths :
    let schema := object
      [("size", oneOf [primitive .object, array (primitive .array) none none,
        range none none true])]
      ["id"] .reject
    let value := Value.object
      [("size", .array [.array [.null], .int 1]), ("more", .bool true)]
    schema.Everywhere HasFiniteNumbers ∧ schema.DistinctKeys ∧
      schema.check ⟨true, 128⟩ "root" value = .ok [⟨"root.id", .required⟩,
        ⟨"root.size", .noSingleBranch 3⟩, ⟨"root.more", .notAllowed⟩] ∧
      ∃ read, ofJson schema.toJson = .ok read ∧ read.equals schema = false ∧
        ∃ records, read.check ⟨true, 128⟩ "root" value = .ok records ∧
          records.map Record.path = ["root.id", "root.size", "root.more"] := by
  intro schema value
  have hleaf {holds : Schema → Prop} (kind : Kind) (h : holds (primitive kind)) :
      (primitive kind).Everywhere holds := (everywhere_of_height_eq_zero rfl).mpr h
  have hfinite : schema.Everywhere HasFiniteNumbers := by
    simp only [schema, everywhere_object, everywhere_oneOf, everywhere_array,
      List.forall_mem_cons, List.not_mem_nil, false_implies, implies_true, and_true]
    exact ⟨trivial, trivial, hleaf _ trivial, ⟨trivial, hleaf _ trivial⟩,
      (everywhere_of_height_eq_zero rfl).mpr (by simp [HasFiniteNumbers])⟩
  have hkeys : schema.DistinctKeys := by
    simp only [schema, DistinctKeys, everywhere_object, everywhere_oneOf, everywhere_array,
      List.forall_mem_cons, List.not_mem_nil, false_implies, implies_true, and_true]
    exact ⟨by simp [HasDistinctKeys, Entries.keys], trivial, hleaf _ trivial,
      ⟨trivial, hleaf _ trivial⟩, (everywhere_of_height_eq_zero rfl).mpr trivial⟩
  have hok : schema.check ⟨true, 128⟩ "root" value = .ok [⟨"root.id", .required⟩,
      ⟨"root.size", .noSingleBranch 3⟩, ⟨"root.more", .notAllowed⟩] := rfl
  obtain ⟨read, hread, hpaths⟩ := round_trip_keeps_record_paths hfinite hkeys
  obtain rfl : schema.reread = read := Except.ok.inj ((ofJson_toJson schema).symm.trans hread)
  refine ⟨hfinite, hkeys, hok, _, hread, rfl, _, rfl, ?_⟩
  exact (hpaths ⟨true, 128⟩ "root" value _ _ hok rfl).1.symm

end Schema

end ControlProps
