import ControlProps.Geometry.Normalizer
import ControlProps.Proofs.Entries
import ControlProps.Proofs.Geometry.Dimension

/-!
# Canonical values

What a normalizer makes of a value is not `null`, and the same normalizer leaves it as it is. For
each quantity this is said of what a value stands for: of every offset, padding, amount and so on
that can be read at all.
-/

namespace ControlProps

namespace Value

/-- Items are read as numbers one after the other. -/
theorem toNumbers_cons_eq_ok_iff {what : Quantity} {item : Value} {rest : List Value}
    {numbers : List Binary64} :
    toNumbers what (item :: rest) = .ok numbers ↔
      ∃ number others, item.toNumber what = .ok number ∧ toNumbers what rest = .ok others ∧
        number :: others = numbers := by
  simp only [toNumbers, bind_eq_ok_iff, pure_eq_ok_iff, exists_and_left]

/-- Floats are the numbers that they are. -/
theorem toNumbers_map_float (what : Quantity) (numbers : List Binary64) :
    toNumbers what (numbers.map float) = .ok numbers := by
  induction numbers with
  | nil => rfl
  | cons number rest ih => exact toNumbers_cons_eq_ok_iff.mpr ⟨number, rest, rfl, ih, rfl⟩

/-- Under one of several distinct keys stands the number that is present there. -/
theorem numberAt_numberEntries (what : Quantity) {entries : List (String × Option Binary64)}
    {key : String} {number : Option Binary64} (hkeys : (Entries.keys entries).Nodup)
    (hmem : (key, number) ∈ entries) :
    numberAt what key (entries.filterMap fun (key, number) =>
      number.map fun number => (key, float number)) = .ok number := by
  induction entries with
  | nil => contradiction
  | cons first rest ih =>
    obtain ⟨firstKey, firstNumber⟩ := first
    obtain ⟨hfirst, hrest⟩ := List.nodup_cons.mp hkeys
    rcases List.mem_cons.mp hmem with hhere | hlater
    · obtain ⟨rfl, rfl⟩ := Prod.mk.inj hhere
      cases number with
      | some number => simp [numberAt, toNumber, Except.map]
      | none =>
        have habsent : (rest.filterMap fun (key, number) =>
            number.map fun number => (key, float number)).lookup key = none := by
          rw [Entries.lookup_eq_none_iff_notMem]
          intro hkey
          obtain ⟨entry, hentry, rfl⟩ := List.mem_map.mp hkey
          obtain ⟨⟨otherKey, other⟩, hother, hmade⟩ := List.mem_filterMap.mp hentry
          obtain ⟨_, _, rfl⟩ := Option.map_eq_some_iff.mp hmade
          exact hfirst (List.mem_map.mpr ⟨_, hother, rfl⟩)
        simp [numberAt, -List.lookup_eq_none_iff, habsent]
    · have hne : (key == firstKey) = false := by
        rw [beq_eq_false_iff_ne]
        rintro rfl
        exact hfirst (List.mem_map.mpr ⟨_, hlater, rfl⟩)
      rw [← ih hrest hlater]
      cases firstNumber with
      | none => rfl
      | some _ => simp [numberAt, List.lookup_cons, hne]

end Value

namespace Offset

/-- Whether an offset says anything: one given by axes has one of them. -/
def IsGiven : Offset → Prop
  | pair _ _ => True
  | axes x y => ¬(x.isNone = true ∧ y.isNone = true)

/-- The first two items of a list are the shifts of a pair. -/
theorem ofValue_list_eq_ok_iff {first second : Value} {rest : List Value}
    {found : Option Offset} :
    ofValue (.array (first :: second :: rest)) = .ok found ↔
      ∃ x y, first.toNumber .offset = .ok x ∧ second.toNumber .offset = .ok y ∧
        some (pair x y) = found := by
  simp only [ofValue, bind_eq_ok_iff, pure_eq_ok_iff, exists_and_left]

/-- A map is read axis by axis. -/
theorem ofValue_object_eq_ok_iff {entries : PropertyBag} {found : Option Offset} :
    ofValue (.object entries) = .ok found ↔
      ∃ x y, Value.numberAt .offset "x" entries = .ok x ∧
        Value.numberAt .offset "y" entries = .ok y ∧ (axes x y).IsGiven ∧
        some (axes x y) = found := by
  simp only [ofValue, bind_eq_ok_iff, ite_throw_eq_ok_iff, pure_eq_ok_iff, IsGiven,
    exists_and_left]

/-- An offset that was read says something. -/
theorem isGiven_of_ofValue {value : Value} {offset : Offset}
    (hvalue : ofValue value = .ok (some offset)) : offset.IsGiven := by
  cases value with
  | array items =>
    match items, hvalue with
    | first :: second :: rest, hvalue =>
      obtain ⟨x, y, _, _, hsome⟩ := ofValue_list_eq_ok_iff.mp hvalue
      obtain rfl := Option.some.inj hsome
      trivial
  | object entries =>
    obtain ⟨x, y, _, _, hgiven, hsome⟩ := ofValue_object_eq_ok_iff.mp hvalue
    obtain rfl := Option.some.inj hsome
    exact hgiven
  | _ => simp [ofValue] at hvalue

/-- The value of an offset stands for that offset, if it says something. -/
theorem ofValue_toValue {offset : Offset} (hgiven : offset.IsGiven) :
    ofValue offset.toValue = .ok (some offset) := by
  cases offset with
  | pair x y => rfl
  | axes x y =>
    have hkeys : (Entries.keys [("x", x), ("y", y)]).Nodup := by simp [Entries.keys]
    have hx : ("x", x) ∈ [("x", x), ("y", y)] := by simp
    have hy : ("y", y) ∈ [("x", x), ("y", y)] := by simp
    have hx := Value.numberAt_numberEntries .offset hkeys hx
    have hy := Value.numberAt_numberEntries .offset hkeys hy
    exact ofValue_object_eq_ok_iff.mpr ⟨x, y, hx, hy, hgiven, rfl⟩

end Offset

namespace Alignment

/-- Whether an alignment says anything: a name does, and an offset may. -/
def IsGiven : Alignment → Prop
  | named _ => True
  | offset shift => shift.IsGiven

/-- An alignment that was read says something. -/
theorem isGiven_of_ofValue {value : Value} {alignment : Alignment}
    (hvalue : ofValue value = .ok (some alignment)) : alignment.IsGiven := by
  unfold ofValue at hvalue
  split at hvalue
  · obtain rfl := Option.some.inj (Except.ok.inj hvalue)
    trivial
  · obtain ⟨shift, hread, rfl⟩ := optionMap_eq_ok_some_iff.mp hvalue
    exact Offset.isGiven_of_ofValue hread

/-- The value of an alignment stands for that alignment, if it says something. -/
theorem ofValue_toValue {alignment : Alignment} (hgiven : alignment.IsGiven) :
    ofValue alignment.toValue = .ok (some alignment) := by
  cases alignment with
  | named name => rfl
  | offset shift =>
    have hshift := Offset.ofValue_toValue hgiven
    have hother : ofValue shift.toValue = (Offset.ofValue shift.toValue).map (·.map offset) := by
      cases shift <;> rfl
    rw [toValue, hother, hshift]
    rfl

end Alignment

namespace Padding

/-- Whether a padding says anything: one given by edges has one of them. -/
def IsGiven : Padding → Prop
  | edges left top right bottom =>
    ¬(left.isNone = true ∧ top.isNone = true ∧ right.isNone = true ∧ bottom.isNone = true)
  | _ => True

/-- What lists are shorthand for says something. -/
theorem isGiven_of_ofNumbers? {numbers : List Binary64} {padding : Padding}
    (hnumbers : ofNumbers? numbers = some padding) : padding.IsGiven := by
  cases padding with
  | edges left top right bottom =>
    unfold ofNumbers? at hnumbers
    split at hnumbers <;> simp at hnumbers
  | _ => trivial

/-- A list of one, two or four items is read item by item. -/
theorem ofValue_array_eq_ok_iff {items : List Value} {found : Option Padding} :
    ofValue (.array items) = .ok found ↔
      [1, 2, 4].contains items.length = true ∧
        ∃ numbers, Value.toNumbers .padding items = .ok numbers ∧ ofNumbers? numbers = found := by
  rw [ofValue]
  split
  · rename_i hlength
    rw [map_eq_ok_iff, and_iff_right hlength]
  · rename_i hlength
    exact ⟨nofun, fun h => absurd h.1 hlength⟩

/-- A map is read edge by edge. -/
theorem ofValue_object_eq_ok_iff {entries : PropertyBag} {found : Option Padding} :
    ofValue (.object entries) = .ok found ↔
      ∃ left top right bottom, Value.numberAt .padding "left" entries = .ok left ∧
        Value.numberAt .padding "top" entries = .ok top ∧
        Value.numberAt .padding "right" entries = .ok right ∧
        Value.numberAt .padding "bottom" entries = .ok bottom ∧
        (edges left top right bottom).IsGiven ∧ some (edges left top right bottom) = found := by
  simp only [ofValue, bind_eq_ok_iff, ite_throw_eq_ok_iff, pure_eq_ok_iff, IsGiven,
    exists_and_left]

/-- A padding that was read says something. -/
theorem isGiven_of_ofValue {value : Value} {padding : Padding}
    (hvalue : ofValue value = .ok (some padding)) : padding.IsGiven := by
  cases value with
  | int number =>
    obtain rfl := Option.some.inj (Except.ok.inj hvalue)
    trivial
  | float number =>
    obtain rfl := Option.some.inj (Except.ok.inj hvalue)
    trivial
  | array items =>
    obtain ⟨_, numbers, _, hnumbers⟩ := ofValue_array_eq_ok_iff.mp hvalue
    exact isGiven_of_ofNumbers? hnumbers
  | object entries =>
    obtain ⟨left, top, right, bottom, _, _, _, _, hgiven, hsome⟩ :=
      ofValue_object_eq_ok_iff.mp hvalue
    obtain rfl := Option.some.inj hsome
    exact hgiven
  | _ => simp [ofValue] at hvalue

/-- The value of a padding stands for that padding, if it says something. -/
theorem ofValue_toValue {padding : Padding} (hgiven : padding.IsGiven) :
    ofValue padding.toValue = .ok (some padding) := by
  cases padding with
  | edges left top right bottom =>
    let entries := [("left", left), ("top", top), ("right", right), ("bottom", bottom)]
    have hkeys : (Entries.keys entries).Nodup := by simp [entries, Entries.keys]
    have hleft : ("left", left) ∈ entries := by simp [entries]
    have htop : ("top", top) ∈ entries := by simp [entries]
    have hright : ("right", right) ∈ entries := by simp [entries]
    have hbottom : ("bottom", bottom) ∈ entries := by simp [entries]
    have hat {key : String} {number : Option Binary64} (hmem : (key, number) ∈ entries) :=
      Value.numberAt_numberEntries .padding hkeys hmem
    exact ofValue_object_eq_ok_iff.mpr ⟨left, top, right, bottom, hat hleft, hat htop,
      hat hright, hat hbottom, hgiven, rfl⟩
  | _ => rfl

end Padding

namespace AxisAmount

/-- The value of one entry coerced, if its key is an axis. -/
def coerceAxis (transform : AxisTransform) (key : String) (value : Value) :
    Except CoercionError Value :=
  if transform.keys.contains key then (value.toNumber transform.quantity).map .float
  else .ok value

/-- Axes are coerced one after the other. -/
theorem coerceAxes_cons_eq_ok_iff {transform : AxisTransform} {key : String} {value : Value}
    {rest coerced : PropertyBag} :
    coerceAxes transform ((key, value) :: rest) = .ok coerced ↔
      ∃ found others, coerceAxis transform key value = .ok found ∧
        coerceAxes transform rest = .ok others ∧ (key, found) :: others = coerced := by
  rw [coerceAxes, coerceAxis]
  by_cases hkey : transform.keys.contains key = true
  · simp only [if_pos hkey, bind_eq_ok_iff, pure_eq_ok_iff, exists_and_left]
  · simp only [if_neg hkey, bind_eq_ok_iff, pure_eq_ok_iff, exists_and_left]

/-- Whether all values under axis keys are numbers. -/
def HasNumbers (transform : AxisTransform) (entries : PropertyBag) : Prop :=
  ∀ entry ∈ entries, transform.keys.contains entry.1 = true → ∃ number, entry.2 = .float number

/-- After coercion all values under axis keys are numbers. -/
theorem hasNumbers_of_coerceAxes {transform : AxisTransform} {entries coerced : PropertyBag}
    (hcoerced : coerceAxes transform entries = .ok coerced) : HasNumbers transform coerced := by
  induction entries generalizing coerced with
  | nil =>
    obtain rfl := Except.ok.inj hcoerced
    exact nofun
  | cons first rest ih =>
    obtain ⟨found, others, hfound, hothers, rfl⟩ := coerceAxes_cons_eq_ok_iff.mp hcoerced
    intro entry hentry hkey
    rcases List.mem_cons.mp hentry with rfl | hentry
    · rw [coerceAxis, if_pos hkey] at hfound
      obtain ⟨number, _, rfl⟩ := map_eq_ok_iff.mp hfound
      exact ⟨number, rfl⟩
    · exact ih hothers entry hentry hkey

/-- Entries with numbers under all axis keys are left as they are. -/
theorem coerceAxes_eq_self {transform : AxisTransform} {entries : PropertyBag}
    (hnumbers : HasNumbers transform entries) : coerceAxes transform entries = .ok entries := by
  induction entries with
  | nil => rfl
  | cons first rest ih =>
    obtain ⟨key, value⟩ := first
    have hrest := ih fun entry hentry => hnumbers entry (List.mem_cons_of_mem _ hentry)
    have hfirst : coerceAxis transform key value = .ok value := by
      unfold coerceAxis
      split
      · rename_i hkey
        obtain ⟨number, rfl⟩ := hnumbers (key, value) (by simp) hkey
        rfl
      · rfl
    exact coerceAxes_cons_eq_ok_iff.mpr ⟨value, rest, hfirst, hrest, rfl⟩

/-- The value of an amount that was read stands for it again. -/
theorem ofValue_toValue_of_ofValue {transform : AxisTransform} {value : Value}
    {amount : AxisAmount} (hvalue : ofValue transform value = .ok (some amount)) :
    ofValue transform amount.toValue = .ok (some amount) := by
  cases amount with
  | uniform all => rfl
  | list numbers => exact map_eq_ok_iff.mpr ⟨numbers, Value.toNumbers_map_float _ numbers, rfl⟩
  | map coerced =>
    have hnumbers : HasNumbers transform coerced := by
      cases value with
      | object entries =>
        obtain ⟨found, hfound, hsome⟩ := map_eq_ok_iff.mp hvalue
        obtain rfl := AxisAmount.map.inj (Option.some.inj hsome)
        exact hasNumbers_of_coerceAxes hfound
      | array items =>
        obtain ⟨_, _, hsome⟩ := map_eq_ok_iff.mp hvalue
        exact AxisAmount.noConfusion (Option.some.inj hsome)
      | _ => simp [ofValue] at hvalue
    exact map_eq_ok_iff.mpr ⟨coerced, coerceAxes_eq_self hnumbers, rfl⟩

end AxisAmount

/-- The value of a color matrix stands for that color matrix. -/
theorem ColorMatrix.ofValue_toValue (matrix : ColorMatrix) :
    ofValue matrix.toValue = .ok (some matrix) := by
  cases matrix with
  | named name => rfl
  | matrix entries full =>
    refine bind_eq_ok_iff.mpr ⟨entries, Value.toNumbers_map_float .colorMatrix entries, ?_⟩
    rw [dif_pos full]
    rfl

end ControlProps
