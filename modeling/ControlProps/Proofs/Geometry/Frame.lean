import ControlProps.Proofs.Geometry.Canonical

/-!
# Frames read back

Sorting the entries of a frame keeps those under known keys, each as what its value stands for. So
the value of a frame that was read has only known keys with canonical values, and stands for that
frame again.
-/

namespace ControlProps

@[simp] theorem Dimension.isNull_toValue (dimension : Dimension) :
    dimension.toValue.isNull = false := by
  cases dimension <;> rfl

@[simp] theorem Offset.isNull_toValue (offset : Offset) : offset.toValue.isNull = false := by
  cases offset <;> rfl

@[simp] theorem Alignment.isNull_toValue (alignment : Alignment) :
    alignment.toValue.isNull = false := by
  cases alignment with
  | named name => rfl
  | offset shift => exact shift.isNull_toValue

@[simp] theorem Padding.isNull_toValue (padding : Padding) : padding.toValue.isNull = false := by
  cases padding <;> rfl

@[simp] theorem AxisAmount.isNull_toValue (amount : AxisAmount) :
    amount.toValue.isNull = false := by
  cases amount <;> rfl

@[simp] theorem ColorMatrix.isNull_toValue (matrix : ColorMatrix) :
    matrix.toValue.isNull = false := by
  cases matrix <;> rfl

@[simp] theorem FrameEntry.isNull_toValue (entry : FrameEntry) :
    entry.toValue.isNull = false := by
  cases entry with
  | dimension size => exact size.isNull_toValue
  | alignment place => exact place.isNull_toValue
  | layer z => rfl

/-- The value of a frame entry that was read stands for it again. -/
theorem FrameEntry.ofValue_toValue_of_ofValue {role : FrameRole} {value : Value}
    {entry : FrameEntry} (hvalue : ofValue role value = .ok (some entry))
    (hfinite : role = .dimension → value.HasFiniteDimension) :
    ofValue role entry.toValue = .ok (some entry) := by
  cases role with
  | dimension =>
    obtain ⟨size, hread, rfl⟩ := optionMap_eq_ok_some_iff.mp hvalue
    have hagain := Dimension.ofValue_toValue_of_ofValue hread (hfinite rfl)
    exact optionMap_eq_ok_some_iff.mpr ⟨size, hagain, rfl⟩
  | alignment =>
    obtain ⟨place, hread, rfl⟩ := optionMap_eq_ok_some_iff.mp hvalue
    have hagain := Alignment.ofValue_toValue (Alignment.isGiven_of_ofValue hread)
    exact optionMap_eq_ok_some_iff.mpr ⟨place, hagain, rfl⟩
  | layer =>
    obtain ⟨z, _, hsome⟩ := map_eq_ok_iff.mp hvalue
    obtain rfl := Option.some.inj hsome
    rfl

/-- Whether no dimension text among the entries of a frame overflows. -/
def Value.HasFiniteFrame : Value → Prop
  | .object entries => ∀ entry ∈ entries, FrameRole.ofKey? entry.1 = some .dimension →
    entry.2.HasFiniteDimension
  | _ => True

instance (value : Value) : Decidable value.HasFiniteFrame :=
  match value with
  | .object entries =>
    inferInstanceAs (Decidable (∀ entry ∈ entries, FrameRole.ofKey? entry.1 = some .dimension →
      entry.2.HasFiniteDimension))
  | .null | .bool _ | .int _ | .float _ | .string _ | .array _ => .isTrue trivial

namespace Frame

/-- An entry under a known key whose value stands for it. -/
def IsCanonical (entry : String × FrameEntry) : Prop :=
  ∃ role, FrameRole.ofKey? entry.1 = some role ∧
    FrameEntry.ofValue role entry.2.toValue = .ok (some entry.2)

/-- Only entries that are not `null` are sorted. -/
theorem sortEntries_cons_of_isNull {key : String} {value : Value} {rest : PropertyBag}
    (hnull : value.isNull = true) : sortEntries ((key, value) :: rest) = sortEntries rest := by
  rw [sortEntries, if_pos hnull]

/-- An entry under a known key is read in its role, before the others. -/
theorem sortEntries_cons_of_known {key : String} {value : Value} {rest : PropertyBag}
    {role : FrameRole} {known : List (String × FrameEntry)} {unknown : List String}
    (hnull : value.isNull = false) (hrole : FrameRole.ofKey? key = some role) :
    sortEntries ((key, value) :: rest) = .ok (known, unknown) ↔
      ∃ entry others, FrameEntry.ofValue role value = .ok entry ∧
        sortEntries rest = .ok (others, unknown) ∧
        entry.toList.map (key, ·) ++ others = known := by
  simp only [sortEntries, hnull, hrole, Bool.false_eq_true, if_false, bind_eq_ok_iff,
    pure_eq_ok_iff, Prod.mk.injEq, Prod.exists, exists_and_left]
  refine exists_congr fun entry => and_congr_right' ⟨?_, ?_⟩
  · rintro ⟨others, _, hothers, hknown, rfl⟩
    exact ⟨others, hothers, hknown⟩
  · rintro ⟨others, hothers, hknown⟩
    exact ⟨others, unknown, hothers, hknown, rfl⟩

/-- An entry under an unknown key only adds the key. -/
theorem sortEntries_cons_of_unknown {key : String} {value : Value} {rest : PropertyBag}
    {known : List (String × FrameEntry)} {unknown : List String}
    (hnull : value.isNull = false) (hrole : FrameRole.ofKey? key = none) :
    sortEntries ((key, value) :: rest) = .ok (known, unknown) ↔
      ∃ others, sortEntries rest = .ok (known, others) ∧ key :: others = unknown := by
  simp only [sortEntries, hnull, hrole, Bool.false_eq_true, if_false, bind_eq_ok_iff,
    pure_eq_ok_iff, Prod.mk.injEq, Prod.exists]
  constructor
  · rintro ⟨_, others, hothers, rfl, hunknown⟩
    exact ⟨others, hothers, hunknown⟩
  · rintro ⟨others, hothers, hunknown⟩
    exact ⟨known, others, hothers, rfl, hunknown⟩

/-- The known entries that were read are canonical. -/
theorem isCanonical_of_sortEntries {entries : PropertyBag}
    {known : List (String × FrameEntry)} {unknown : List String}
    (hsorted : sortEntries entries = .ok (known, unknown))
    (hfinite : ∀ entry ∈ entries, FrameRole.ofKey? entry.1 = some .dimension →
      entry.2.HasFiniteDimension) : ∀ entry ∈ known, IsCanonical entry := by
  induction entries generalizing known unknown with
  | nil =>
    obtain ⟨rfl, rfl⟩ := Prod.mk.inj (Except.ok.inj hsorted)
    exact nofun
  | cons first rest ih =>
    obtain ⟨key, value⟩ := first
    have hrest := fun entry hentry => hfinite entry (List.mem_cons_of_mem (key, value) hentry)
    cases hnull : value.isNull with
    | true =>
      rw [sortEntries_cons_of_isNull hnull] at hsorted
      exact ih hsorted hrest
    | false =>
      cases hrole : FrameRole.ofKey? key with
      | none =>
        obtain ⟨others, hothers, _⟩ := (sortEntries_cons_of_unknown hnull hrole).mp hsorted
        exact ih hothers hrest
      | some role =>
        obtain ⟨found, others, hfound, hothers, rfl⟩ :=
          (sortEntries_cons_of_known hnull hrole).mp hsorted
        intro entry hentry
        rcases List.mem_append.mp hentry with hhere | hlater
        · obtain ⟨found, hmem, rfl⟩ := List.mem_map.mp hhere
          obtain rfl := Option.mem_toList.mp hmem
          refine ⟨role, hrole, FrameEntry.ofValue_toValue_of_ofValue hfound ?_⟩
          rintro rfl
          exact hfinite (key, value) (by simp) hrole
        · exact ih hothers hrest entry hlater

/-- Canonical entries are read as what they are, and none of their keys is unknown. -/
theorem sortEntries_toValue {known : List (String × FrameEntry)}
    (hcanonical : ∀ entry ∈ known, IsCanonical entry) :
    sortEntries (known.map fun (key, entry) => (key, entry.toValue)) = .ok (known, []) := by
  induction known with
  | nil => rfl
  | cons first rest ih =>
    obtain ⟨key, entry⟩ := first
    obtain ⟨role, hrole, hread⟩ := hcanonical (key, entry) (by simp)
    have hrest := ih fun entry hentry => hcanonical entry (List.mem_cons_of_mem _ hentry)
    have hnull := entry.isNull_toValue
    exact (sortEntries_cons_of_known hnull hrole).mpr ⟨some entry, rest, hread, hrest, rfl⟩

/-- An object is read as its entries under known keys, unless its unknown keys are refused. -/
theorem ofValue_object_eq_ok_iff {strict : Bool} {entries : PropertyBag} {frame : Frame} :
    ofValue strict (.object entries) = .ok frame ↔
      ∃ unknown, sortEntries entries = .ok (frame.entries, unknown) ∧
        ¬(strict = true ∧ unknown ≠ []) := by
  refine bind_eq_ok_iff.trans ⟨?_, ?_⟩
  · rintro ⟨⟨known, unknown⟩, hsorted, hlast⟩
    obtain ⟨hallowed, hread⟩ := ite_throw_eq_ok_iff.mp hlast
    obtain rfl := pure_eq_ok_iff.mp hread
    exact ⟨unknown, hsorted, hallowed⟩
  · rintro ⟨unknown, hsorted, hallowed⟩
    exact ⟨(frame.entries, unknown), hsorted, ite_throw_eq_ok_iff.mpr ⟨hallowed, rfl⟩⟩

/-- The value of a frame that was read stands for it again, also if unknown keys are refused. -/
theorem ofValue_toValue_of_ofValue {strict : Bool} {value : Value} {frame : Frame}
    (hvalue : ofValue strict value = .ok frame) (hfinite : value.HasFiniteFrame)
    (again : Bool) : ofValue again frame.toValue = .ok frame := by
  have hcanonical : ∀ entry ∈ frame.entries, IsCanonical entry := by
    cases value with
    | null =>
      obtain rfl := Except.ok.inj hvalue
      exact nofun
    | object entries =>
      obtain ⟨unknown, hsorted, _⟩ := ofValue_object_eq_ok_iff.mp hvalue
      exact isCanonical_of_sortEntries hsorted hfinite
    | _ => contradiction
  exact ofValue_object_eq_ok_iff.mpr ⟨[], sortEntries_toValue hcanonical, by simp⟩

end Frame

end ControlProps
