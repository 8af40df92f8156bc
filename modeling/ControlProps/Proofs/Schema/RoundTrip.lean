import ControlProps.Engine.Patterns
import ControlProps.Proofs.Schema.Emission

/-!
# Which schemas survive the dialect

A schema comes back equal to what it was if the dialect has words for each of its parts. It has
none for arrays and objects that are described by their kind alone, for a range without bounds, and
for numbers that are not finite.
-/

namespace ControlProps.Schema

/-- The same names are the same names. -/
theorem sameNames_self {names : List String} : sameNames names names = true := by
  simp [sameNames]

/-- A bound that may be absent comes back as it was exactly if it is finite where it is present. -/
theorem sameBound_reread_iff {bound : Option Binary64} :
    sameBound (bound.bind Binary64.reread) bound = true ↔ ∀ x ∈ bound, x.isFinite = true := by
  cases bound with
  | none => simp [sameBound]
  | some x =>
    cases hx : x.isFinite with
    | false => simp [Binary64.reread_of_not_isFinite hx, sameBound, hx]
    | true =>
      obtain ⟨y, hy, hequals⟩ := Binary64.reread_of_isFinite hx
      simp [hy, sameBound, hequals, hx]

/-- A finite bound does not get lost. -/
theorem bind_reread_eq_none_iff {bound : Option Binary64}
    (hfinite : ∀ x ∈ bound, x.isFinite = true) :
    bound.bind Binary64.reread = none ↔ bound = none := by
  cases bound with
  | none => simp
  | some x =>
    obtain ⟨y, hy, _⟩ := Binary64.reread_of_isFinite (hfinite x rfl)
    simp [hy]

section

variable [PatternEngine]

/-- Branches are equal one by one. -/
theorem branchesEqual_iff {as bs : List Schema} :
    branchesEqual as bs = true ↔ List.Forall₂ (fun a b => a.equals b = true) as bs := by
  induction as generalizing bs with
  | nil => cases bs <;> simp [branchesEqual]
  | cons a as ih => cases bs <;> simp [branchesEqual, ih]

/-- Properties are equal if a look-up of each key finds an equal schema. -/
theorem propertiesEqual_iff {as bs : List (String × Schema)} :
    propertiesEqual as bs = true ↔
      ∀ entry ∈ as, ∃ b, bs.lookup entry.1 = some b ∧ entry.2.equals b = true := by
  induction as with
  | nil => simp [propertiesEqual]
  | cons entry as ih =>
    obtain ⟨key, a⟩ := entry
    cases hfound : bs.lookup key <;> simp [propertiesEqual, hfound, ih]

/-- The dialect has words for a schema itself, whatever its parts are. -/
def IsExpressible : Schema → Prop
  | primitive kind => kind ≠ .array ∧ kind ≠ .object
  | enumeration values => ∀ value ∈ values, value.Everywhere Value.IsFinite
  | range min max _ =>
    (min ≠ none ∨ max ≠ none) ∧ (∀ bound ∈ min, bound.isFinite = true) ∧
      ∀ bound ∈ max, bound.isFinite = true
  | _ => True

/-- The literals come back as they were exactly if they are finite. -/
theorem enumeration_reread_equals_iff {values : List Value}
    (hkeys : ∀ value ∈ values, value.DistinctKeys) :
    (enumeration values).reread.equals (enumeration values) = true ↔
      (enumeration values).IsExpressible := by
  rw [reread, equals, Value.itemsEqualBy_iff, List.forall₂_map_left_iff, List.forall₂_same]
  exact forall₂_congr fun value hvalue => Value.reread_equals_iff (hkeys value hvalue)

/-- A range comes back as it was exactly if it has a bound and its bounds are finite. -/
theorem range_reread_equals_iff {min max : Option Binary64} {integer : Bool} :
    (range min max integer).reread.equals (range min max integer) = true ↔
      (range min max integer).IsExpressible := by
  simp only [reread, Option.isNone_iff_eq_none]
  by_cases habsent : min.bind Binary64.reread = none ∧ max.bind Binary64.reread = none
  · -- nothing that is finite gets lost, so there was no bound to begin with
    rw [if_pos habsent]
    refine iff_of_false (by simp [equals]) ?_
    rintro ⟨hbound, hmin, hmax⟩
    rw [bind_reread_eq_none_iff hmin, bind_reread_eq_none_iff hmax] at habsent
    exact hbound.elim (· habsent.1) (· habsent.2)
  · rw [if_neg habsent, equals, beq_self_eq_true, Bool.and_true, Bool.and_eq_true,
      sameBound_reread_iff, sameBound_reread_iff]
    refine ⟨fun hfinite => ⟨?_, hfinite⟩, And.right⟩
    by_contra hbound
    rw [not_or, not_not, not_not] at hbound
    exact habsent (by simp [hbound])

/-- Branches come back as they were exactly if each of them does. -/
theorem branchesEqual_reread_iff {branches : List Schema} :
    branchesEqual (rereadBranches branches) branches = true ↔
      ∀ branch ∈ branches, branch.reread.equals branch = true := by
  rw [rereadBranches_eq_map, branchesEqual_iff, List.forall₂_map_left_iff, List.forall₂_same]

/-- Properties come back as they were exactly if each of them does. -/
theorem propertiesEqual_reread_iff {properties : List (String × Schema)}
    (hkeys : (Entries.keys properties).Nodup) :
    propertiesEqual (rereadProperties properties) properties = true ↔
      ∀ entry ∈ properties, entry.2.reread.equals entry.2 = true := by
  rw [rereadProperties_eq_map, propertiesEqual_iff, List.forall_mem_map]
  refine forall₂_congr fun entry hentry => ?_
  simp [Entries.lookup_of_mem hkeys hentry]

/-- A schema comes back equal to what it was exactly if all its parts can be expressed. -/
theorem reread_equals_iff {schema : Schema} (hkeys : schema.DistinctKeys) :
    schema.reread.equals schema = true ↔ schema.Everywhere IsExpressible := by
  induction schema with
  | any =>
    rw [everywhere_of_height_eq_zero rfl]
    simp [reread, equals, IsExpressible]
  | primitive kind =>
    rw [everywhere_of_height_eq_zero rfl]
    cases kind <;> simp [reread, equals, IsExpressible]
  | enumeration values =>
    rw [everywhere_of_height_eq_zero rfl]
    exact enumeration_reread_equals_iff hkeys.self
  | pattern form =>
    rw [everywhere_of_height_eq_zero rfl]
    simp [reread, equals, IsExpressible]
  | range min max integer =>
    rw [everywhere_of_height_eq_zero rfl]
    exact range_reread_equals_iff
  | array items least most ih =>
    rw [everywhere_array, ← ih hkeys.items, and_iff_right (by trivial)]
    simp [reread, equals]
  | object properties required additional ih =>
    obtain ⟨hproperties, hrequired⟩ := hkeys.self
    have hlength : (rereadProperties properties).length = properties.length := by
      rw [rereadProperties_eq_map, List.length_map]
    rw [everywhere_object, and_iff_right (by trivial), reread, equals, hlength,
      Entries.distinct_of_nodup hrequired, sameNames_self]
    simp only [beq_self_eq_true, Bool.true_and, Bool.and_true, decide_true,
      propertiesEqual_reread_iff hproperties]
    exact forall₂_congr fun entry hentry => ih entry hentry (hkeys.property hentry)
  | anyOf branches ih =>
    rw [everywhere_anyOf, and_iff_right (by trivial), reread, equals, branchesEqual_reread_iff]
    exact forall₂_congr fun branch hbranch => ih branch hbranch (hkeys.anyOf hbranch)
  | oneOf branches ih =>
    rw [everywhere_oneOf, and_iff_right (by trivial), reread, equals, branchesEqual_reread_iff]
    exact forall₂_congr fun branch hbranch => ih branch hbranch (hkeys.oneOf hbranch)

/-- A schema that is written and read back is the same exactly if the dialect has words for all its
parts. -/
theorem round_trip_iff_expressible {schema : Schema} (hkeys : schema.DistinctKeys) :
    (∃ read, ofJson schema.toJson = .ok read ∧ read.equals schema = true) ↔
      schema.Everywhere IsExpressible := by
  rw [ofJson_toJson, ← reread_equals_iff hkeys]
  constructor
  · rintro ⟨_, ⟨⟩, hequals⟩
    exact hequals
  · exact fun hequals => ⟨_, rfl, hequals⟩

end

/-- A bound that is cut when it is written comes back as it was, also below a union. -/
theorem round_trip_of_great_bound :
    (anyOf [array (range none (some 9223372036854775808) true) none none]).DistinctKeys ∧
      ∃ read, ofJson (anyOf [array (range none (some 9223372036854775808) true) none none]).toJson =
          .ok read ∧
        read.equals (anyOf [array (range none (some 9223372036854775808) true) none none]) =
          true := by
  have hfinite : Binary64.isFinite 9223372036854775808 = true := by decide +kernel
  have hkeys :
      (anyOf [array (range none (some 9223372036854775808) true) none none]).DistinctKeys := by
    simp only [DistinctKeys, everywhere_anyOf, everywhere_array, List.forall_mem_singleton]
    exact ⟨trivial, trivial, (everywhere_of_height_eq_zero rfl).mpr trivial⟩
  refine ⟨hkeys, (round_trip_iff_expressible hkeys).mpr ?_⟩
  simp only [everywhere_anyOf, everywhere_array, List.forall_mem_singleton]
  refine ⟨trivial, trivial, (everywhere_of_height_eq_zero rfl).mpr ?_⟩
  simp [IsExpressible, hfinite]

end ControlProps.Schema
