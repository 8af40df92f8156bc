import ControlProps.Proofs.Geometry.Frame
import ControlProps.Proofs.Pairing

/-!
# Coercion of bags

A bag is coerced entry by entry: what is not `null` stays, under its key and in its place, as what
its normalizer makes of it. So a coerced bag, whose values are all canonical, is left as it is. This
needs that no text of a dimension overflows, for the value of an infinite length is no dimension.
-/

namespace ControlProps

namespace Value

/-- As many numbers are read as there are items. -/
theorem length_of_toNumbers {what : Quantity} {items : List Value} {numbers : List Binary64}
    (hnumbers : toNumbers what items = .ok numbers) : numbers.length = items.length := by
  induction items generalizing numbers with
  | nil =>
    obtain rfl := Except.ok.inj hnumbers
    rfl
  | cons item rest ih =>
    obtain ⟨number, others, _, hothers, rfl⟩ := toNumbers_cons_eq_ok_iff.mp hnumbers
    rw [List.length_cons, List.length_cons, ih hothers]

end Value

/-- Only `null` stands for no dimension. -/
theorem Dimension.ofValue_ne_ok_none {value : Value} (hnull : value.isNull = false) :
    ofValue value ≠ .ok none := by
  intro hvalue
  cases value with
  | null => contradiction
  | string text =>
    rw [ofValue] at hvalue
    split at hvalue
    · contradiction
    · split at hvalue <;> simp at hvalue
  | _ => simp [ofValue] at hvalue

/-- Only `null` stands for no offset. -/
theorem Offset.ofValue_ne_ok_none {value : Value} (hnull : value.isNull = false) :
    ofValue value ≠ .ok none := by
  intro hvalue
  cases value with
  | null => contradiction
  | array items =>
    match items, hvalue with
    | first :: second :: rest, hvalue =>
      obtain ⟨x, y, _, _, hsome⟩ := ofValue_list_eq_ok_iff.mp hvalue
      exact Option.some_ne_none _ hsome
  | object entries =>
    obtain ⟨x, y, _, _, _, hsome⟩ := ofValue_object_eq_ok_iff.mp hvalue
    exact Option.some_ne_none _ hsome
  | _ => simp [ofValue] at hvalue

/-- Only `null` stands for no alignment. -/
theorem Alignment.ofValue_ne_ok_none {value : Value} (hnull : value.isNull = false) :
    ofValue value ≠ .ok none := by
  intro hvalue
  unfold ofValue at hvalue
  split at hvalue
  · simp at hvalue
  · exact Offset.ofValue_ne_ok_none hnull (optionMap_eq_ok_none_iff.mp hvalue)

/-- Lists of one, two and four numbers are shorthand. -/
theorem Padding.ofNumbers?_ne_none {numbers : List Binary64}
    (hlength : [1, 2, 4].contains numbers.length = true) : ofNumbers? numbers ≠ none := by
  match numbers, hlength with
  | [_], _ => simp [ofNumbers?]
  | [_, _], _ => simp [ofNumbers?]
  | [_, _, _, _], _ => simp [ofNumbers?]
  | [], hlength => contradiction
  | [_, _, _], hlength => contradiction
  | _ :: _ :: _ :: _ :: _ :: _, hlength => simp at hlength

/-- Only `null` stands for no padding: the lists of the right lengths are all shorthand. -/
theorem Padding.ofValue_ne_ok_none {value : Value} (hnull : value.isNull = false) :
    ofValue value ≠ .ok none := by
  intro hvalue
  cases value with
  | null => contradiction
  | array items =>
    obtain ⟨hlength, numbers, hnumbers, hnone⟩ := ofValue_array_eq_ok_iff.mp hvalue
    rw [← Value.length_of_toNumbers hnumbers] at hlength
    exact ofNumbers?_ne_none hlength hnone
  | object entries =>
    obtain ⟨left, top, right, bottom, _, _, _, _, _, hsome⟩ :=
      ofValue_object_eq_ok_iff.mp hvalue
    exact Option.some_ne_none _ hsome
  | _ => simp [ofValue] at hvalue

/-- Only `null` stands for no amount. -/
theorem AxisAmount.ofValue_ne_ok_none {transform : AxisTransform} {value : Value}
    (hnull : value.isNull = false) : ofValue transform value ≠ .ok none := by
  intro hvalue
  cases value with
  | null => contradiction
  | array items =>
    obtain ⟨_, _, hnone⟩ := map_eq_ok_iff.mp hvalue
    contradiction
  | object entries =>
    obtain ⟨_, _, hnone⟩ := map_eq_ok_iff.mp hvalue
    contradiction
  | _ => simp [ofValue] at hvalue

/-- Only `null` stands for no color matrix. -/
theorem ColorMatrix.ofValue_ne_ok_none {value : Value} (hnull : value.isNull = false) :
    ofValue value ≠ .ok none := by
  intro hvalue
  cases value with
  | null => contradiction
  | array items =>
    obtain ⟨entries, _, hlast⟩ := bind_eq_ok_iff.mp hvalue
    split at hlast
    · exact Option.some_ne_none _ (pure_eq_ok_iff.mp hlast)
    · contradiction
  | _ => simp [ofValue] at hvalue

/-- Only `null` stands for no frame entry. -/
theorem FrameEntry.ofValue_ne_ok_none {role : FrameRole} {value : Value}
    (hnull : value.isNull = false) : ofValue role value ≠ .ok none := by
  intro hvalue
  cases role with
  | dimension => exact Dimension.ofValue_ne_ok_none hnull (optionMap_eq_ok_none_iff.mp hvalue)
  | alignment => exact Alignment.ofValue_ne_ok_none hnull (optionMap_eq_ok_none_iff.mp hvalue)
  | layer =>
    obtain ⟨_, _, hnone⟩ := map_eq_ok_iff.mp hvalue
    contradiction

namespace Normalizer

/-- Whether no dimension text in what is given to a normalizer overflows. -/
def HasFiniteDimensions : Normalizer → Value → Prop
  | dimension, value => value.HasFiniteDimension
  | frame, value => value.HasFiniteFrame
  | _, _ => True

instance (normalizer : Normalizer) (value : Value) :
    Decidable (normalizer.HasFiniteDimensions value) :=
  match normalizer with
  | dimension => inferInstanceAs (Decidable value.HasFiniteDimension)
  | frame => inferInstanceAs (Decidable value.HasFiniteFrame)
  | padding | alignment | offset | scale | skew | colorMatrix => .isTrue trivial

/-- Every value but `null` has a canonical shape or none that can be made out. -/
theorem apply_ne_ok_none {normalizer : Normalizer} {strict : Bool} {value : Value}
    (hnull : value.isNull = false) : normalizer.apply strict value ≠ .ok none := by
  intro hvalue
  cases normalizer with
  | dimension =>
    exact Dimension.ofValue_ne_ok_none hnull (optionMap_eq_ok_none_iff.mp hvalue)
  | padding =>
    exact Padding.ofValue_ne_ok_none hnull (optionMap_eq_ok_none_iff.mp hvalue)
  | alignment =>
    exact Alignment.ofValue_ne_ok_none hnull (optionMap_eq_ok_none_iff.mp hvalue)
  | offset =>
    exact Offset.ofValue_ne_ok_none hnull (optionMap_eq_ok_none_iff.mp hvalue)
  | scale =>
    exact AxisAmount.ofValue_ne_ok_none hnull (optionMap_eq_ok_none_iff.mp hvalue)
  | skew =>
    exact AxisAmount.ofValue_ne_ok_none hnull (optionMap_eq_ok_none_iff.mp hvalue)
  | colorMatrix =>
    exact ColorMatrix.ofValue_ne_ok_none hnull (optionMap_eq_ok_none_iff.mp hvalue)
  | frame =>
    obtain ⟨_, _, hnone⟩ := map_eq_ok_iff.mp hvalue
    contradiction

/-- What a normalizer gives is not `null`. -/
theorem isNull_of_apply {normalizer : Normalizer} {strict : Bool} {value found : Value}
    (hvalue : normalizer.apply strict value = .ok (some found)) : found.isNull = false := by
  cases normalizer with
  | frame =>
    obtain ⟨frame, _, hsome⟩ := map_eq_ok_iff.mp hvalue
    obtain rfl := Option.some.inj hsome
    rfl
  | _ =>
    obtain ⟨_, _, rfl⟩ := optionMap_eq_ok_some_iff.mp hvalue
    simp

/-- What a normalizer gives is left as it is by that normalizer. -/
theorem apply_of_apply {normalizer : Normalizer} {strict : Bool} {value found : Value}
    (hvalue : normalizer.apply strict value = .ok (some found))
    (hfinite : normalizer.HasFiniteDimensions value) :
    normalizer.apply strict found = .ok (some found) := by
  have hagain {α : Type} {read : Value → Except CoercionError (Option α)} {toValue : α → Value}
      (hvalue : (read value).map (·.map toValue) = .ok (some found))
      (hfixed : ∀ a, read value = .ok (some a) → read (toValue a) = .ok (some a)) :
      (read found).map (·.map toValue) = .ok (some found) := by
    obtain ⟨a, hread, rfl⟩ := optionMap_eq_ok_some_iff.mp hvalue
    exact optionMap_eq_ok_some_iff.mpr ⟨a, hfixed a hread, rfl⟩
  cases normalizer with
  | dimension =>
    exact hagain hvalue fun _ hread => Dimension.ofValue_toValue_of_ofValue hread hfinite
  | padding =>
    exact hagain hvalue fun _ hread =>
      Padding.ofValue_toValue (Padding.isGiven_of_ofValue hread)
  | alignment =>
    exact hagain hvalue fun _ hread =>
      Alignment.ofValue_toValue (Alignment.isGiven_of_ofValue hread)
  | offset =>
    exact hagain hvalue fun _ hread => Offset.ofValue_toValue (Offset.isGiven_of_ofValue hread)
  | scale => exact hagain hvalue fun _ hread => AxisAmount.ofValue_toValue_of_ofValue hread
  | skew => exact hagain hvalue fun _ hread => AxisAmount.ofValue_toValue_of_ofValue hread
  | colorMatrix => exact hagain hvalue fun matrix _ => ColorMatrix.ofValue_toValue matrix
  | frame =>
    obtain ⟨frame, hread, hsome⟩ := map_eq_ok_iff.mp hvalue
    obtain rfl := Option.some.inj hsome
    exact map_eq_ok_iff.mpr ⟨frame, Frame.ofValue_toValue_of_ofValue hread hfinite strict, rfl⟩

/-- A property is subject to the normalizer of its key, except that `frame` asks for an object. -/
theorem ofProperty?_eq_some_iff {key : String} {value : Value} {normalizer : Normalizer} :
    ofProperty? key value = some normalizer ↔
      ofKey? key = some normalizer ∧ (normalizer = frame → value.object?.isSome = true) := by
  unfold ofProperty?
  split
  · rename_i hkey
    rw [hkey]
    by_cases hobject : value.object?.isSome = true
    · simp [hobject]
    · rw [if_neg hobject]
      refine ⟨nofun, fun h => ?_⟩
      exact absurd (h.2 (Option.some.inj h.1).symm) hobject
  · rename_i other hother
    refine ⟨fun h => ⟨h, ?_⟩, fun h => h.1⟩
    rintro rfl
    exact absurd h hother

end Normalizer

namespace PropertyBag

/-- Whether no dimension text overflows, be it a property itself or an entry of a frame. -/
def HasFiniteDimensions (bag : PropertyBag) : Prop :=
  ∀ entry ∈ bag, ∀ normalizer ∈ Normalizer.ofKey? entry.1, normalizer.HasFiniteDimensions entry.2

instance (bag : PropertyBag) : Decidable bag.HasFiniteDimensions :=
  inferInstanceAs (Decidable (∀ entry ∈ bag, ∀ normalizer ∈ Normalizer.ofKey? entry.1,
    normalizer.HasFiniteDimensions entry.2))

/-- A property that has no normalizer is copied. -/
theorem coerceProperty_of_none {key : String} {value : Value}
    (hnone : Normalizer.ofProperty? key value = none) :
    coerceProperty key value = .ok (some value) := by
  rw [coerceProperty, hnone]

/-- A property that has a normalizer is what that makes of it. -/
theorem coerceProperty_eq_ok_iff {key : String} {value : Value} {normalizer : Normalizer}
    {found : Option Value} (hsome : Normalizer.ofProperty? key value = some normalizer) :
    coerceProperty key value = .ok found ↔ normalizer.apply false value = .ok found := by
  rw [coerceProperty, hsome]
  exact mapError_eq_ok_iff

/-- Only `null` may be dropped. -/
theorem coerceProperty_ne_ok_none {key : String} {value : Value} (hnull : value.isNull = false) :
    coerceProperty key value ≠ .ok none := by
  cases hnormalizer : Normalizer.ofProperty? key value with
  | none =>
    rw [coerceProperty_of_none hnormalizer]
    simp
  | some normalizer =>
    rw [ne_eq, coerceProperty_eq_ok_iff hnormalizer]
    exact Normalizer.apply_ne_ok_none hnull

/-- A coerced property is not `null`, and it is left as it is. -/
theorem coerceProperty_of_coerceProperty {key : String} {value found : Value}
    (hnull : value.isNull = false) (hvalue : coerceProperty key value = .ok (some found))
    (hfinite : ∀ normalizer ∈ Normalizer.ofKey? key, normalizer.HasFiniteDimensions value) :
    found.isNull = false ∧ coerceProperty key found = .ok (some found) := by
  cases hnormalizer : Normalizer.ofProperty? key value with
  | none =>
    rw [coerceProperty_of_none hnormalizer] at hvalue
    obtain rfl := Option.some.inj (Except.ok.inj hvalue)
    exact ⟨hnull, coerceProperty_of_none hnormalizer⟩
  | some normalizer =>
    rw [coerceProperty_eq_ok_iff hnormalizer] at hvalue
    have hkey := (Normalizer.ofProperty?_eq_some_iff.mp hnormalizer).1
    have hobject : normalizer = .frame → found.object?.isSome = true := by
      rintro rfl
      obtain ⟨frame, _, hsome⟩ := map_eq_ok_iff.mp hvalue
      obtain rfl := Option.some.inj hsome
      rfl
    have hagain := Normalizer.ofProperty?_eq_some_iff.mpr ⟨hkey, hobject⟩
    refine ⟨Normalizer.isNull_of_apply hvalue, (coerceProperty_eq_ok_iff hagain).mpr ?_⟩
    exact Normalizer.apply_of_apply hvalue (hfinite normalizer hkey)

/-- What coercion makes of one entry: another one under the same key. -/
def Coerced (given found : String × Value) : Prop :=
  found.1 = given.1 ∧ coerceProperty given.1 given.2 = .ok (some found.2)

/-- The entries that are not `null`. -/
def present (bag : PropertyBag) : PropertyBag := bag.filter fun entry => !entry.2.isNull

/-- An entry stays present in its bag if it is not `null`. -/
theorem mem_present_iff {bag : PropertyBag} {entry : String × Value} :
    entry ∈ bag.present ↔ entry ∈ bag ∧ entry.2.isNull = false := by
  simp [present]

/-- Coercion goes entry by entry over what is present. -/
theorem coerce_eq_ok_iff {bag out : PropertyBag} :
    coerce bag = .ok out ↔ List.Forall₂ Coerced bag.present out := by
  induction bag generalizing out with
  | nil =>
    rw [present, List.filter_nil, List.forall₂_nil_left_iff]
    exact ⟨fun h => (Except.ok.inj h).symm, fun h => congrArg Except.ok h.symm⟩
  | cons first rest ih =>
    obtain ⟨key, value⟩ := first
    cases hnull : value.isNull with
    | true =>
      have hpresent : present ((key, value) :: rest) = present rest := by simp [present, hnull]
      rw [coerce, if_pos hnull, ih, hpresent]
    | false =>
      have hpresent : present ((key, value) :: rest) = (key, value) :: present rest := by
        simp [present, hnull]
      have hkept : ¬value.isNull = true := by simp [hnull]
      rw [coerce, if_neg hkept, hpresent, List.forall₂_cons_left_iff]
      simp only [bind_eq_ok_iff, pure_eq_ok_iff]
      constructor
      · rintro ⟨coerced, hcoerced, others, hothers, rfl⟩
        cases coerced with
        | none => exact absurd hcoerced (coerceProperty_ne_ok_none hnull)
        | some found => exact ⟨(key, found), others, ⟨rfl, hcoerced⟩, ih.mp hothers, rfl⟩
      · rintro ⟨⟨_, found⟩, others, ⟨rfl, hfound⟩, hothers, rfl⟩
        exact ⟨some found, hfound, others, ih.mpr hothers, rfl⟩

/-- Each coerced entry comes from one that is present. -/
theorem exists_given_of_coerce {bag out : PropertyBag} {found : String × Value}
    (hcoerced : coerce bag = .ok out) (hfound : found ∈ out) :
    ∃ given ∈ bag.present, Coerced given found :=
  exists_mem_left_of_forall₂ (coerce_eq_ok_iff.mp hcoerced) hfound

/-- Each entry that is present is coerced. -/
theorem exists_found_of_coerce {bag out : PropertyBag} {given : String × Value}
    (hcoerced : coerce bag = .ok out) (hgiven : given ∈ bag.present) :
    ∃ found ∈ out, Coerced given found :=
  exists_mem_right_of_forall₂ (coerce_eq_ok_iff.mp hcoerced) hgiven

/-- A coerced bag is left as it is. -/
theorem coerce_of_coerce {bag out : PropertyBag} (hfinite : bag.HasFiniteDimensions)
    (hcoerced : coerce bag = .ok out) : coerce out = .ok out := by
  have hcanonical : ∀ found ∈ out, found.2.isNull = false ∧ Coerced found found := by
    intro found hfound
    obtain ⟨given, hgiven, hkey, hvalue⟩ := exists_given_of_coerce hcoerced hfound
    obtain ⟨hmem, hnull⟩ := mem_present_iff.mp hgiven
    have hagain := coerceProperty_of_coerceProperty hnull hvalue (hfinite given hmem)
    exact ⟨hagain.1, rfl, hkey ▸ hagain.2⟩
  have hpresent : out.present = out := by
    refine List.filter_eq_self.mpr fun found hfound => ?_
    simp [(hcanonical found hfound).1]
  rw [coerce_eq_ok_iff, hpresent, List.forall₂_same]
  exact fun found hfound => (hcanonical found hfound).2

end PropertyBag

end ControlProps
