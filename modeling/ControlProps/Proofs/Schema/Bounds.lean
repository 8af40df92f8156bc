import ControlProps.Engine.Patterns
import ControlProps.Proofs.Binary64.Extent
import ControlProps.Proofs.Json.Parts
import ControlProps.Proofs.Schema.Emission
import Mathlib.Algebra.Group.Int.Defs

/-!
# Bounds in written schemas

Each part of a schema is written at a place of its own in the document. The bounds of a range stand
there as the numbers that they are, but for one: the integer behind the greatest one of 64 bits is
written as that one.
-/

namespace ControlProps

/-- The exact value of a number; nothing else has one. -/
def Json.extent? : Json → Option Extent
  | int value => some (.ofInt value)
  | float value => value.extent?
  | _ => none

namespace Binary64

/-- A number that is an integer has that integer's exact value. -/
theorem extent?_of_integer? {x : Binary64} {i : Int} (hx : x.integer? = some i) :
    x.extent? = some (.ofInt i) :=
  extent?_of_units? (units?_of_integer? hx)

/-- The bound that is written as another number. -/
theorem boundJson_of_overflow {x : Binary64} (hx : x.integer? = some (2 ^ 63)) :
    x.boundJson = .int (2 ^ 63 - 1) := by
  have hgreatest : Int64.maxValue.toInt = 2 ^ 63 - 1 := by decide
  have hleast : Int64.minValue.toInt ≤ 2 ^ 63 := by decide
  simp only [boundJson, hx]
  rw [hgreatest, if_pos ⟨hleast, by omega⟩]
  rfl

/-- Every other finite bound is written with its exact value. -/
theorem extent?_boundJson {x : Binary64} (hfinite : x.isFinite = true)
    (hx : x.integer? ≠ some (2 ^ 63)) : x.boundJson.extent? = x.extent? := by
  unfold boundJson
  cases hinteger : x.integer? with
  | none =>
    simp only [hfinite, if_true]
    rfl
  | some i =>
    have hgreatest : Int64.maxValue.toInt = 2 ^ 63 - 1 := by decide
    have hne : i ≠ 2 ^ 63 := fun h => hx (h ▸ hinteger)
    by_cases hrange : Int64.minValue.toInt ≤ i ∧ i ≤ Int64.maxValue.toInt + 1
    · have hmin : min i Int64.maxValue.toInt = i := by omega
      simp only [if_pos hrange, hmin]
      exact (extent?_of_integer? hinteger).symm
    · simp only [if_neg hrange]
      rfl

/-- A finite bound keeps its exact value unless it is the integer behind those of 64 bits. -/
theorem extent?_boundJson_iff {x : Binary64} (hfinite : x.isFinite = true) :
    x.boundJson.extent? = x.extent? ↔ x.integer? ≠ some (2 ^ 63) := by
  refine ⟨fun hsame hx => ?_, extent?_boundJson hfinite⟩
  rw [boundJson_of_overflow hx, extent?_of_integer? hx] at hsame
  exact absurd (Extent.ofInt_inj.mp (Option.some.inj hsame)) (by decide)

end Binary64

namespace Schema

section

variable [PatternEngine]

/-- The second schema is the first one or lies within it, and a pointer leads to it in the document
of the first one. -/
inductive WrittenAt : Schema → Pointer → Schema → Prop
  | self {schema : Schema} : WrittenAt schema [] schema
  | items {items part : Schema} {least most : Option UInt64} {pointer : Pointer}
      (hpart : WrittenAt items pointer part) :
      WrittenAt (.array items least most) ("items" :: pointer) part
  | property {properties : List (String × Schema)} {required : List String}
      {additional : Additional} {key : String} {declared part : Schema} {pointer : Pointer}
      (hdeclared : properties.lookup key = some declared)
      (hpart : WrittenAt declared pointer part) :
      WrittenAt (.object properties required additional) ("properties" :: key :: pointer) part
  | anyOf {branches : List Schema} {index : Nat} {branch part : Schema} {pointer : Pointer}
      (hbranch : branches[index]? = some branch) (hpart : WrittenAt branch pointer part) :
      WrittenAt (.anyOf branches) ("anyOf" :: toString index :: pointer) part
  | oneOf {branches : List Schema} {index : Nat} {branch part : Schema} {pointer : Pointer}
      (hbranch : branches[index]? = some branch) (hpart : WrittenAt branch pointer part) :
      WrittenAt (.oneOf branches) ("oneOf" :: toString index :: pointer) part

/-- The documents of branches stand in their order. -/
theorem branchesToJson_eq_map {branches : List Schema} :
    branchesToJson branches = branches.map toJson := by
  induction branches with
  | nil => rfl
  | cons branch rest ih => rw [branchesToJson, ih, List.map_cons]

/-- The document of a declared schema stands under its key. -/
theorem lookup_propertiesToJson {properties : List (String × Schema)} {key : String} :
    (propertiesToJson properties).lookup key = (properties.lookup key).map toJson := by
  induction properties with
  | nil => rfl
  | cons entry rest ih =>
    obtain ⟨name, declared⟩ := entry
    simp only [propertiesToJson, List.lookup_cons, ih]
    cases key == name <;> rfl

/-- A written index leads to the document of a branch. -/
theorem step?_branchesToJson {branches : List Schema} {index : Nat} {branch : Schema}
    (hbranch : branches[index]? = some branch) :
    Pointer.step? (toString index) (.array (branchesToJson branches)) = some branch.toJson := by
  rw [Pointer.step?, Pointer.index?_toString, Option.bind_some, branchesToJson_eq_map,
    List.getElem?_map, hbranch, Option.map_some]

/-- Behind the index of a branch a pointer goes on in the document of that branch. -/
theorem resolve?_branch {document : Json} {keyword : String} {branches : List Schema} {index : Nat}
    {branch : Schema} {pointer : Pointer}
    (hlist : Pointer.step? keyword document = some (.array (branchesToJson branches)))
    (hbranch : branches[index]? = some branch) :
    Pointer.resolve? (keyword :: toString index :: pointer) document =
      pointer.resolve? branch.toJson := by
  rw [Pointer.resolve?, hlist, Option.bind_some, Pointer.resolve?, step?_branchesToJson hbranch,
    Option.bind_some]

/-- A pointer to a part of a schema leads to the document of that part. -/
theorem WrittenAt.resolve?_toJson {schema part : Schema} {pointer : Pointer}
    (hwritten : schema.WrittenAt pointer part) :
    pointer.resolve? schema.toJson = some part.toJson := by
  induction hwritten with
  | self => rfl
  | items _ ih => exact ih
  | @property properties required additional key declared _ _ hdeclared _ ih =>
    have htable : Pointer.step? "properties" (object properties required additional).toJson =
        some (.object (propertiesToJson properties)) := rfl
    have hproperty : Pointer.step? key (.object (propertiesToJson properties)) =
        some declared.toJson := by
      rw [Pointer.step?, lookup_propertiesToJson, hdeclared, Option.map_some]
    rw [Pointer.resolve?, htable, Option.bind_some, Pointer.resolve?, hproperty]
    exact ih
  | anyOf hbranch _ ih => exact (resolve?_branch rfl hbranch).trans ih
  | oneOf hbranch _ ih => exact (resolve?_branch rfl hbranch).trans ih

/-- What is written lies within the schema. -/
theorem WrittenAt.hasPart {schema part : Schema} {pointer : Pointer}
    (hwritten : schema.WrittenAt pointer part) : schema.HasPart part := by
  induction hwritten with
  | self => exact .self
  | items _ ih => exact .items ih
  | property hdeclared _ ih => exact .property (Entries.mem_of_lookup hdeclared) ih
  | anyOf hbranch _ ih => exact .anyOf (List.mem_of_getElem? hbranch) ih
  | oneOf hbranch _ ih => exact .oneOf (List.mem_of_getElem? hbranch) ih

/-- Each part of a schema is written at some place, if no table in it repeats a key. -/
theorem HasPart.exists_writtenAt {schema part : Schema} (hpart : schema.HasPart part)
    (hkeys : schema.DistinctKeys) : ∃ pointer, schema.WrittenAt pointer part := by
  induction hpart with
  | self => exact ⟨[], .self⟩
  | items _ ih =>
    obtain ⟨pointer, hwritten⟩ := ih hkeys.items
    exact ⟨_, .items hwritten⟩
  | property hentry _ ih =>
    obtain ⟨pointer, hwritten⟩ := ih (hkeys.property hentry)
    exact ⟨_, .property (Entries.lookup_of_mem hkeys.self.1 hentry) hwritten⟩
  | anyOf hbranch _ ih =>
    obtain ⟨pointer, hwritten⟩ := ih (hkeys.anyOf hbranch)
    obtain ⟨index, hindex⟩ := List.getElem?_of_mem hbranch
    exact ⟨_, .anyOf hindex hwritten⟩
  | oneOf hbranch _ ih =>
    obtain ⟨pointer, hwritten⟩ := ih (hkeys.oneOf hbranch)
    obtain ⟨index, hindex⟩ := List.getElem?_of_mem hbranch
    exact ⟨_, .oneOf hindex hwritten⟩

/-- The bounds of a range are members of its document. -/
theorem field?_toJson_range {min max : Option Binary64} {integer : Bool} :
    (range min max integer).toJson.field? "minimum" = min.map Binary64.boundJson ∧
      (range min max integer).toJson.field? "maximum" = max.map Binary64.boundJson := by
  constructor <;> simp [toJson, Json.field?, List.lookup_append, List.lookup_cons]

/--
**Written bounds.** Each range within a schema is written at a place of its own, and there each
finite bound is a number. It has the exact value of the bound unless that is the integer behind the
greatest one of 64 bits, for which this one is written.
-/
theorem written_bound_is_exact_iff {schema : Schema} (hkeys : schema.DistinctKeys)
    (min max : Option Binary64) (integer : Bool) :
    (schema.HasPart (range min max integer) ↔
      ∃ pointer, schema.WrittenAt pointer (range min max integer)) ∧
    ∀ pointer, schema.WrittenAt pointer (range min max integer) →
      ∃ document, pointer.resolve? schema.toJson = some document ∧
        ∀ keyword bound, keyword = "minimum" ∧ min = some bound ∨
            keyword = "maximum" ∧ max = some bound → bound.isFinite = true →
          ∃ number exactly, document.field? keyword = some number ∧
            bound.extent? = some exactly ∧
            (number.extent? = some exactly ↔ bound.integer? ≠ some (2 ^ 63)) ∧
            (bound.integer? = some (2 ^ 63) → number = .int (2 ^ 63 - 1)) := by
  refine ⟨⟨fun hpart => hpart.exists_writtenAt hkeys, fun ⟨_, hwritten⟩ => hwritten.hasPart⟩,
    fun pointer hwritten => ⟨_, hwritten.resolve?_toJson, fun keyword bound hbound hfinite => ?_⟩⟩
  have hmember : (range min max integer).toJson.field? keyword = some bound.boundJson := by
    rcases hbound with ⟨rfl, rfl⟩ | ⟨rfl, rfl⟩
    · exact field?_toJson_range.1
    · exact field?_toJson_range.2
  obtain ⟨units, hunits⟩ := Binary64.exists_units?_of_isFinite hfinite
  have hextent := Binary64.extent?_of_units? hunits
  refine ⟨bound.boundJson, _, hmember, hextent, ?_, Binary64.boundJson_of_overflow⟩
  rw [← hextent]
  exact Binary64.extent?_boundJson_iff hfinite

end

/-- The bound of a range in a branch, at its place in the document. -/
theorem written_bound_of_branch_is_exact :
    let maximum := Binary64.ofInt 10
    let schema := object [("size", anyOf [range none (some maximum) true])] [] .allow
    schema.DistinctKeys ∧ maximum.isFinite = true ∧
      schema.WrittenAt ["properties", "size", "anyOf", "0"] (range none (some maximum) true) ∧
      ∃ document number,
        Pointer.resolve? ["properties", "size", "anyOf", "0"] schema.toJson = some document ∧
          document.field? "maximum" = some number ∧ number.extent? = some (.ofInt 10) := by
  intro maximum schema
  have hkeys : schema.DistinctKeys := by
    have hrange : (range none (some maximum) true).Everywhere HasDistinctKeys ↔ True :=
      everywhere_of_height_eq_zero rfl
    simp [schema, DistinctKeys, everywhere_object, everywhere_anyOf, hrange, HasDistinctKeys,
      Entries.keys]
  have hfinite : maximum.isFinite = true := Binary64.isFinite_ofInt (by decide)
  have hbranch : [range none (some maximum) true][0]? = some (range none (some maximum) true) := rfl
  have hunion : (anyOf [range none (some maximum) true]).WrittenAt ["anyOf", toString 0]
      (range none (some maximum) true) := .anyOf hbranch .self
  have hwritten : schema.WrittenAt ["properties", "size", "anyOf", "0"]
      (range none (some maximum) true) := .property rfl hunion
  have hinteger : maximum.integer? = some 10 := Binary64.integer?_ofInt (by decide)
  obtain ⟨document, hdocument, hbounds⟩ :=
    (written_bound_is_exact_iff hkeys none (some maximum) true).2 _ hwritten
  obtain ⟨number, exactly, hnumber, hexactly, hsame, _⟩ :=
    hbounds "maximum" maximum (.inr ⟨rfl, rfl⟩) hfinite
  rw [Binary64.extent?_of_integer? hinteger] at hexactly
  have hextent := hsame.mpr (by rw [hinteger]; decide)
  exact ⟨hkeys, hfinite, hwritten, document, number, hdocument, hnumber, hexactly ▸ hextent⟩

/-- The maximum behind the integers of 64 bits is written as the greatest of them, which is less. -/
theorem overflowing_bound_is_written_less :
    let maximum : Binary64 := 9223372036854775808
    maximum.extent? = some (.ofInt 9223372036854775808) ∧
      (range none (some maximum) true).toJson.field? "maximum" = some (.int 9223372036854775807) ∧
      Extent.ofInt 9223372036854775807 < .ofInt 9223372036854775808 := by
  intro maximum
  have hinteger : maximum.integer? = some 9223372036854775808 := by decide +kernel
  refine ⟨Binary64.extent?_of_integer? hinteger, ?_, ?_⟩
  · rw [field?_toJson_range.2, Option.map_some, Binary64.boundJson_of_overflow hinteger]
    rfl
  · exact Extent.units_lt_iff.mpr (Int.mul_lt_mul_of_pos_right (by decide)
      (Int.natCast_pos.mpr unitsPerOne_pos))

end Schema

end ControlProps
