import ControlProps.Engine.Patterns
import ControlProps.Proofs.Validation.Conformance
import ControlProps.Proofs.Value.Shapes

/-!
# Representations of numbers

Only a schema that asks for integers tells an integer from a float of the same value. To every other
schema, values that are loosely equal are the same.
-/

namespace ControlProps

namespace Value

variable {a b : Value}

/-- What does not tell equal numbers from each other, and does not look into arrays and objects,
holds of alike values together. -/
theorem iff_of_alike (holds : Value → Prop) (h : AlikeBy SameLeaf a b)
    (hnumbers : ∀ {a b x y}, a.number? = some x → b.number? = some y → x.equals y = true →
      (holds a ↔ holds b))
    (harray : ∀ as bs, holds (array as) ↔ holds (array bs))
    (hobject : ∀ as bs, holds (object as) ↔ holds (object bs)) : holds a ↔ holds b := by
  cases h with
  | leaf _ _ hsame =>
    rcases hsame with rfl | hequal
    · rfl
    · unfold sameNearestNumber at hequal
      split at hequal
      · rename_i hx hy
        exact hnumbers hx hy hequal
      · contradiction
  | @array as bs => exact harray as bs
  | @object as bs => exact hobject as bs

/-- A leaf that is no number is like itself only. -/
theorem eq_leaf_iff_of_alike {leaf : Value} (h : AlikeBy SameLeaf a b) (hleaf : leaf.IsLeaf)
    (hnone : leaf.number? = none) : a = leaf ↔ b = leaf := by
  refine iff_of_alike (· = leaf) h (fun {a b x y} hx hy _ => ?_) (fun _ _ => ?_) fun _ _ => ?_
  · refine iff_of_false ?_ ?_
    · rintro rfl
      simp [hnone] at hx
    · rintro rfl
      simp [hnone] at hy
  · refine iff_of_false ?_ ?_ <;> rintro rfl <;> contradiction
  · refine iff_of_false ?_ ?_ <;> rintro rfl <;> contradiction

/-- Only `null` is like `null`. -/
theorem eq_null_iff_of_alike (h : AlikeBy SameLeaf a b) : a = null ↔ b = null :=
  eq_leaf_iff_of_alike h trivial rfl

/-- Alike values are arrays together, and then of items that are alike one by one. -/
theorem exists_array_iff_of_alike {holds holds' : List Value → Prop} (h : AlikeBy SameLeaf a b)
    (harray : ∀ as bs, List.Forall₂ (AlikeBy SameLeaf) as bs → (holds as ↔ holds' bs)) :
    (∃ items, a = array items ∧ holds items) ↔ ∃ items, b = array items ∧ holds' items := by
  cases h with
  | leaf ha hb _ =>
    refine iff_of_false ?_ ?_
    · rintro ⟨items, rfl, _⟩
      contradiction
    · rintro ⟨items, rfl, _⟩
      contradiction
  | @array as bs hlength hitems =>
    simpa using harray as bs (List.forall₂_iff_zip.mpr ⟨hlength, hitems⟩)
  | object => simp

/-- Alike values are objects together, and then of the same keys with alike values. -/
theorem exists_object_iff_of_alike {holds holds' : PropertyBag → Prop} (h : AlikeBy SameLeaf a b)
    (hobject : ∀ as bs, (Entries.keys as).Perm (Entries.keys bs) →
      (∀ {key a b}, (key, a) ∈ as → (key, b) ∈ bs → AlikeBy SameLeaf a b) →
        (holds as ↔ holds' bs)) :
    (∃ entries, a = object entries ∧ holds entries) ↔
      ∃ entries, b = object entries ∧ holds' entries := by
  cases h with
  | leaf ha hb _ =>
    refine iff_of_false ?_ ?_
    · rintro ⟨entries, rfl, _⟩
      contradiction
    · rintro ⟨entries, rfl, _⟩
      contradiction
  | array => simp
  | @object as bs hkeys hentries => simpa using hobject as bs hkeys hentries

/-- Alike values are of the same kinds, unless one asks for integers. -/
theorem admits_iff_of_alike {kind : Kind} (hkind : kind ≠ .integer) (h : AlikeBy SameLeaf a b) :
    kind.admits a = true ↔ kind.admits b = true := by
  have hnumber {value : Value} {x : Binary64} (hx : value.number? = some x) :
      kind.admits value = true ↔ kind = .number := by
    cases value with
    | int => cases kind <;> simp_all [Kind.admits, Value.kind]
    | float => cases kind <;> simp_all [Kind.admits, Value.kind]
    | _ => simp [number?] at hx
  refine iff_of_alike (fun value => kind.admits value = true) h (fun hx hy _ => ?_) ?_ ?_
  · rw [hnumber hx, hnumber hy]
  · exact fun _ _ => Iff.rfl
  · exact fun _ _ => Iff.rfl

/-- Numbers in alike values keep the same bounds. -/
theorem bounds_iff_of_alike (min max : Option Binary64) (h : AlikeBy SameLeaf a b) :
    (∀ number, a.number? = some number →
        (∀ bound ∈ min, ¬number.isBelow bound) ∧ ∀ bound ∈ max, ¬bound.isBelow number) ↔
      ∀ number, b.number? = some number →
        (∀ bound ∈ min, ¬number.isBelow bound) ∧ ∀ bound ∈ max, ¬bound.isBelow number := by
  refine iff_of_alike (fun value => ∀ number, value.number? = some number →
    (∀ bound ∈ min, ¬number.isBelow bound) ∧ ∀ bound ∈ max, ¬bound.isBelow number) h ?_ ?_ ?_
  · intro a b x y hx hy hequals
    simp only [hx, hy, Option.some.injEq, forall_eq', Binary64.isBelow_congr_left hequals,
      Binary64.isBelow_congr_right hequals]
  · exact fun _ _ => Iff.rfl
  · exact fun _ _ => Iff.rfl

end Value

namespace Schema

section

variable [PatternEngine]

open Value (AlikeBy SameLeaf)

variable {strict : Bool} {a b : Value}

/-- A schema that asks for integers nowhere describes alike values together. -/
theorem conforms_iff_of_alike {schema : Schema} (hprimitive : ¬schema.HasPart (.primitive .integer))
    (hrange : ∀ min max, ¬schema.HasPart (.range min max true)) (h : AlikeBy SameLeaf a b) :
    schema.Conforms strict a ↔ schema.Conforms strict b := by
  induction schema generalizing a b with
  | any =>
    rw [Conforms, Conforms]
    exact or_congr (Value.eq_null_iff_of_alike h) Iff.rfl
  | primitive kind =>
    rw [Conforms, Conforms]
    have hkind : kind ≠ .integer := fun heq => hprimitive (heq ▸ .self)
    exact or_congr (Value.eq_null_iff_of_alike h) (Value.admits_iff_of_alike hkind h)
  | enumeration values =>
    rw [Conforms, Conforms]
    simp only [Value.looselyEquals_eq_of_alike h]
    exact or_congr (Value.eq_null_iff_of_alike h) Iff.rfl
  | pattern form =>
    rw [Conforms, Conforms]
    have htext (text : String) : a = .string text ↔ b = .string text :=
      Value.eq_leaf_iff_of_alike h trivial rfl
    simp only [htext]
    exact or_congr (Value.eq_null_iff_of_alike h) Iff.rfl
  | range min max integer =>
    cases integer with
    | true => exact absurd .self (hrange min max)
    | false =>
      rw [conforms_range_iff, conforms_range_iff]
      have hkind := Value.admits_iff_of_alike (Kind.noConfusion : Kind.number ≠ .integer) h
      exact or_congr (Value.eq_null_iff_of_alike h)
        (and_congr hkind (Value.bounds_iff_of_alike min max h))
  | array items least most ih =>
    rw [Conforms, Conforms]
    refine or_congr (Value.eq_null_iff_of_alike h) ?_
    refine Value.exists_array_iff_of_alike h fun as bs hitems => ?_
    have hconforms := forall_mem_iff_of_forall₂ (hitems.imp fun _ _ hitem =>
      ih (fun hpart => hprimitive (.items hpart)) (fun min max hpart =>
        hrange min max (.items hpart)) hitem)
    simp only [hitems.length_eq, hconforms]
  | object properties required additional ih =>
    rw [Conforms, Conforms]
    refine or_congr (Value.eq_null_iff_of_alike h) ?_
    refine Value.exists_object_iff_of_alike h fun as bs hkeys hentries => ?_
    simp only [hkeys.mem_iff]
    refine and_congr_right' (and_congr ?_ ?_)
    · refine Entries.forall_mem_iff_of_keys hkeys fun {key a b} ha hb => ?_
      refine forall₂_congr fun declared hdeclared => ?_
      have hmem := Entries.mem_of_lookup hdeclared
      exact ih _ hmem (fun hpart => hprimitive (.property hmem hpart))
        (fun min max hpart => hrange min max (.property hmem hpart)) (hentries ha hb)
    · exact forall₂_congr fun _ _ => Entries.forall_mem_iff_of_keys hkeys fun _ _ => Iff.rfl
  | anyOf branches ih =>
    rw [Conforms, Conforms]
    refine or_congr (Value.eq_null_iff_of_alike h) ?_
    refine exists_congr fun branch => exists_congr fun hbranch => ?_
    exact ih branch hbranch (fun hpart => hprimitive (.anyOf hbranch hpart))
      (fun min max hpart => hrange min max (.anyOf hbranch hpart)) h
  | oneOf branches ih =>
    rw [Conforms, Conforms]
    refine or_congr (Value.eq_null_iff_of_alike h) ?_
    refine existsUnique_congr fun index => ?_
    have hbranch : branches.get index ∈ branches := List.get_mem _ _
    exact ih _ hbranch (fun hpart => hprimitive (.oneOf hbranch hpart))
      (fun min max hpart => hrange min max (.oneOf hbranch hpart)) h

/-- **Representation does not matter.** Where no integers are asked for, loosely equal values are
accepted together. What is not a number is loosely equal to nothing, so it is in neither value. -/
theorem accepts_each_representation {schema : Schema}
    (hprimitive : ¬schema.HasPart (.primitive .integer))
    (hrange : ∀ min max, ¬schema.HasPart (.range min max true)) {value other : Value}
    (hvalue : value.DistinctKeys) (hother : other.DistinctKeys)
    (hequal : value.looselyEquals other = true) {options : ValidationOptions} {root : String}
    {records records' : List Record} (hok : schema.check options root value = .ok records)
    (hok' : schema.check options root other = .ok records') : records = [] ↔ records' = [] := by
  obtain ⟨hended, rfl⟩ := Walk.check_eq_ok_iff.mp hok
  obtain ⟨hended', rfl⟩ := Walk.check_eq_ok_iff.mp hok'
  rw [List.map_eq_nil_iff, List.map_eq_nil_iff, walkValue, walkValue,
    walk_findings_eq_nil_iff hended, walk_findings_eq_nil_iff hended']
  exact conforms_iff_of_alike hprimitive hrange (Value.alike_of_looselyEquals hvalue hother hequal)

end

/-- An array of an object and a number, in each of which a number is once an integer and once a
float. -/
theorem accepts_each_representation_of_array :
    let literal := Value.object [("w", .int 1), ("h", .null)]
    let schema := array (anyOf [enumeration [literal], range (some .zero) none false]) none none
    let value := Value.array [literal, .float (.ofInt 7)]
    let other := Value.array [.object [("h", .null), ("w", .float (.ofInt 1))], .int 7]
    ¬schema.HasPart (.primitive .integer) ∧ (∀ min max, ¬schema.HasPart (.range min max true)) ∧
      value.DistinctKeys ∧ other.DistinctKeys ∧ value.looselyEquals other = true ∧
      schema.check ⟨true, 2⟩ "root" value = .ok [] ∧
      schema.check ⟨true, 2⟩ "root" other = .ok [] := by
  intro literal schema value other
  have hparts {part : Schema} (hpart : (array (anyOf [enumeration [literal],
      range (some .zero) none false]) none none).HasPart part) :
      part ≠ .primitive .integer ∧ ∀ min max, part ≠ .range min max true := by
    cases hpart with
    | self => simp
    | items hpart =>
      cases hpart with
      | self => simp
      | anyOf hbranch hpart =>
        rcases List.mem_pair.mp hbranch with rfl | rfl
        · cases hpart
          simp
        · cases hpart
          simp
  have hprimitive : ¬schema.HasPart (.primitive .integer) := fun hpart => (hparts hpart).1 rfl
  have hrange (min max : Option Binary64) : ¬schema.HasPart (.range min max true) :=
    fun hpart => (hparts hpart).2 min max rfl
  have hvalue : value.DistinctKeys := by
    simp [value, literal, Value.DistinctKeys, Value.HasDistinctKeys, Entries.keys]
  have hother : other.DistinctKeys := by
    simp [other, Value.DistinctKeys, Value.HasDistinctKeys, Entries.keys]
  have hequal : value.looselyEquals other = true := by decide +kernel
  have hclean : schema.check ⟨true, 2⟩ "root" value = .ok [] := by
    refine Walk.check_eq_ok_iff.mpr ⟨by decide +kernel, List.map_eq_nil_iff.mpr ?_⟩
    exact List.isEmpty_iff.mp (by decide +kernel)
  have hheight : schema.height < 3 := Nat.lt_succ_self 2
  have hended : (schema.walkValue ⟨true, 2⟩ other).stop = none :=
    walk_stop_eq_none_of_height_lt hheight
  obtain ⟨records, hok⟩ : ∃ records, schema.check ⟨true, 2⟩ "root" other = .ok records :=
    ⟨_, Walk.check_eq_ok_iff.mpr ⟨hended, rfl⟩⟩
  have hnone : records = [] :=
    (accepts_each_representation hprimitive hrange hvalue hother hequal hclean hok).mp rfl
  exact ⟨hprimitive, hrange, hvalue, hother, hequal, hclean, hnone ▸ hok⟩

end Schema

end ControlProps
