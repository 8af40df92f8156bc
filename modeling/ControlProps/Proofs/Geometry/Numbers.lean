import ControlProps.Proofs.Geometry.Coercion
import ControlProps.Proofs.Geometry.NumberTexts
import ControlProps.Proofs.Value.RoundTrip

/-!
# Numbers that come from texts

Each normalizer reads numbers off certain parts of its value, its sources. What it gives has finite
floats only if and only if no text among these sources spells a number that is not finite: the texts
of numbers know words for such numbers, and both kinds of text may overflow.
-/

namespace ControlProps

namespace Value

/-- Whether a text that spells a number spells a finite one; other values spell none. -/
def SpellsFinite : Value → Prop
  | string text => ∀ number ∈ Binary64.ofText? (trimmed text), number.isFinite = true
  | _ => True

instance (value : Value) : Decidable value.SpellsFinite :=
  match value with
  | string text =>
    inferInstanceAs (Decidable (∀ number ∈ Binary64.ofText? (trimmed text),
      number.isFinite = true))
  | null | bool _ | int _ | float _ | array _ | object _ => .isTrue trivial

/-- An integer of 64 bits is nearest to a finite number. -/
theorem isFinite_ofInt64 (value : Int64) : (Binary64.ofInt value.toInt).isFinite = true := by
  have hleast := value.le_toInt
  have hmost := value.toInt_lt
  exact Binary64.isFinite_ofInt (by omega)

/-- The number that is read off a value is finite unless a text spells another one. -/
theorem isFinite_iff_of_toNumber {what : Quantity} {value : Value} {number : Binary64}
    (hvalue : value.Everywhere IsFinite) (hnumber : value.toNumber what = .ok number) :
    number.isFinite = true ↔ value.SpellsFinite := by
  cases value with
  | int i =>
    obtain rfl := Except.ok.inj hnumber
    exact iff_of_true (isFinite_ofInt64 i) trivial
  | float x =>
    obtain rfl := Except.ok.inj hnumber
    exact iff_of_true hvalue.self trivial
  | string text =>
    rw [toNumber] at hnumber
    split at hnumber
    · rename_i hspelled
      obtain rfl := Except.ok.inj hnumber
      simp [SpellsFinite, hspelled]
    · simp at hnumber
  | _ => simp [toNumber] at hnumber

/-- A list of numbers is finite if each of them is. -/
theorem everywhere_ofNumbers {numbers : List Binary64} :
    (ofNumbers numbers).Everywhere IsFinite ↔ ∀ number ∈ numbers, number.isFinite = true := by
  simp [ofNumbers, IsFinite]

/-- A map of numbers is finite if each that is present is. -/
theorem everywhere_ofNumberEntries {entries : List (String × Option Binary64)} :
    (ofNumberEntries entries).Everywhere IsFinite ↔
      ∀ entry ∈ entries, ∀ number ∈ entry.2, number.isFinite = true := by
  rw [ofNumberEntries, everywhere_isFinite_object, List.forall_mem_filterMap]
  refine forall₂_congr fun ⟨key, number⟩ _ => ?_
  cases number <;> simp [IsFinite]

/-- The numbers that are read off items are finite unless one of these spells another one. -/
theorem isFinite_iff_of_toNumbers {what : Quantity} {items : List Value}
    {numbers : List Binary64} (hitems : ∀ item ∈ items, item.Everywhere IsFinite)
    (hnumbers : toNumbers what items = .ok numbers) :
    (ofNumbers numbers).Everywhere IsFinite ↔ ∀ item ∈ items, item.SpellsFinite := by
  rw [everywhere_ofNumbers]
  induction items generalizing numbers with
  | nil =>
    obtain rfl := Except.ok.inj hnumbers
    simp
  | cons item rest ih =>
    obtain ⟨hitem, hrest⟩ := List.forall_mem_cons.mp hitems
    obtain ⟨number, others, hnumber, hothers, rfl⟩ := toNumbers_cons_eq_ok_iff.mp hnumbers
    rw [List.forall_mem_cons, List.forall_mem_cons, isFinite_iff_of_toNumber hitem hnumber,
      ih hrest hothers]

/-- The number under a key is finite unless a text under that key spells another one. -/
theorem isFinite_iff_of_numberAt {what : Quantity} {key : String} {entries : PropertyBag}
    {number : Option Binary64} (hentries : ∀ entry ∈ entries, entry.2.Everywhere IsFinite)
    (hnumber : numberAt what key entries = .ok number) :
    (∀ found ∈ number, found.isFinite = true) ↔
      ∀ source ∈ entries.lookup key, source.SpellsFinite := by
  unfold numberAt at hnumber
  cases hfound : entries.lookup key with
  | none =>
    rw [hfound] at hnumber
    obtain rfl := Except.ok.inj hnumber
    simp
  | some value =>
    rw [hfound] at hnumber
    obtain ⟨found, hread, rfl⟩ := map_eq_ok_iff.mp hnumber
    have hvalue := hentries (key, value) (Entries.mem_of_lookup hfound)
    simpa using isFinite_iff_of_toNumber hvalue hread

/-- The numbers under several keys are finite unless a text under one of them spells another. -/
theorem isFinite_iff_of_numbersAt {what : Quantity} {entries : PropertyBag}
    {numbers : List (String × Option Binary64)}
    (hentries : ∀ entry ∈ entries, entry.2.Everywhere IsFinite)
    (hnumbers : ∀ number ∈ numbers, numberAt what number.1 entries = .ok number.2) :
    (ofNumberEntries numbers).Everywhere IsFinite ↔
      ∀ source ∈ (Entries.keys numbers).filterMap fun key => entries.lookup key,
        source.SpellsFinite := by
  rw [everywhere_ofNumberEntries, List.forall_mem_filterMap, Entries.keys, List.forall_mem_map]
  exact forall₂_congr fun number hnumber =>
    isFinite_iff_of_numberAt hentries (hnumbers number hnumber)

end Value

/-- A text that is read as a dimension is trimmed before. -/
theorem Dimension.ofText?_of_ofValue {text : String} {dimension : Dimension}
    (hread : ofValue (.string text) = .ok (some dimension)) :
    ofText? (trimmed text).toList = some dimension := by
  rw [trimmed, String.toList_ofList]
  rw [ofValue] at hread
  split at hread
  · contradiction
  · split at hread
    · rename_i hfound
      rw [hfound, ← Except.ok.inj hread]
    · simp at hread

/-- The value that a dimension is read off is its only source. -/
theorem Dimension.isFinite_toValue_iff {value : Value} {dimension : Dimension}
    (hvalue : value.Everywhere Value.IsFinite) (hread : ofValue value = .ok (some dimension)) :
    dimension.toValue.Everywhere Value.IsFinite ↔ value.SpellsFinite := by
  cases value with
  | int i =>
    obtain rfl := Option.some.inj (Except.ok.inj hread)
    exact iff_of_true (Value.everywhere_float.mpr (Value.isFinite_ofInt64 i)) trivial
  | float x =>
    obtain rfl := Option.some.inj (Except.ok.inj hread)
    exact iff_of_true hvalue trivial
  | string text =>
    rw [Value.SpellsFinite, ofText?_eq_points? (ofText?_of_ofValue hread)]
    cases dimension with
    | points x => simp [toValue, points?]
    | length x unit => simp [points?, Value.IsFinite]
  | _ => simp [ofValue] at hread

namespace Offset

/-- The parts of a value that an offset is read off. -/
def sources : Value → List Value
  | .array items => items.take 2
  | .object entries => ["x", "y"].filterMap fun key => entries.lookup key
  | _ => []

/-- An offset has finite numbers unless a source of it spells another one. -/
theorem isFinite_toValue_iff {value : Value} {offset : Offset}
    (hvalue : value.Everywhere Value.IsFinite) (hread : ofValue value = .ok (some offset)) :
    offset.toValue.Everywhere Value.IsFinite ↔ ∀ source ∈ sources value, source.SpellsFinite := by
  cases value with
  | array items =>
    match items, hvalue, hread with
    | first :: second :: rest, hvalue, hread =>
      obtain ⟨x, y, hx, hy, hsome⟩ := ofValue_list_eq_ok_iff.mp hread
      obtain rfl := Option.some.inj hsome
      rw [Value.everywhere_isFinite_array] at hvalue
      have hfirst := Value.isFinite_iff_of_toNumber (hvalue first (by simp)) hx
      have hsecond := Value.isFinite_iff_of_toNumber (hvalue second (by simp)) hy
      simp [toValue, sources, Value.everywhere_ofNumbers, hfirst, hsecond]
  | object entries =>
    obtain ⟨x, y, hx, hy, _, hsome⟩ := ofValue_object_eq_ok_iff.mp hread
    obtain rfl := Option.some.inj hsome
    rw [Value.everywhere_isFinite_object] at hvalue
    have hnumbers : ∀ number ∈ [("x", x), ("y", y)],
        Value.numberAt .offset number.1 entries = .ok number.2 := by
      simp [hx, hy]
    exact Value.isFinite_iff_of_numbersAt hvalue hnumbers
  | _ => simp [ofValue] at hread

end Offset

/-- An alignment by name has no sources, and any other those of its offset. -/
theorem Alignment.isFinite_toValue_iff {value : Value} {alignment : Alignment}
    (hvalue : value.Everywhere Value.IsFinite) (hread : ofValue value = .ok (some alignment)) :
    alignment.toValue.Everywhere Value.IsFinite ↔
      ∀ source ∈ Offset.sources value, source.SpellsFinite := by
  unfold ofValue at hread
  split at hread
  · obtain rfl := Option.some.inj (Except.ok.inj hread)
    simp [toValue, Offset.sources, Value.IsFinite]
  · obtain ⟨shift, hshift, rfl⟩ := optionMap_eq_ok_some_iff.mp hread
    exact Offset.isFinite_toValue_iff hvalue hshift

namespace Padding

/-- The parts of a value that a padding is read off. -/
def sources : Value → List Value
  | .array items => items
  | .object entries => ["left", "top", "right", "bottom"].filterMap fun key => entries.lookup key
  | _ => []

/-- The value of shorthand is the list that it is shorthand for. -/
theorem toValue_of_ofNumbers? {numbers : List Binary64} {padding : Padding}
    (hnumbers : ofNumbers? numbers = some padding) : padding.toValue = .ofNumbers numbers := by
  unfold ofNumbers? at hnumbers
  split at hnumbers
  · obtain rfl := Option.some.inj hnumbers
    rfl
  · obtain rfl := Option.some.inj hnumbers
    rfl
  · obtain rfl := Option.some.inj hnumbers
    rfl
  · contradiction

/-- A padding has finite numbers unless a source of it spells another one. -/
theorem isFinite_toValue_iff {value : Value} {padding : Padding}
    (hvalue : value.Everywhere Value.IsFinite) (hread : ofValue value = .ok (some padding)) :
    padding.toValue.Everywhere Value.IsFinite ↔
      ∀ source ∈ sources value, source.SpellsFinite := by
  cases value with
  | int i =>
    obtain rfl := Option.some.inj (Except.ok.inj hread)
    simpa [toValue, sources] using Value.isFinite_ofInt64 i
  | float x =>
    obtain rfl := Option.some.inj (Except.ok.inj hread)
    simpa [toValue, sources] using hvalue
  | array items =>
    obtain ⟨_, numbers, hnumbers, hpadding⟩ := ofValue_array_eq_ok_iff.mp hread
    rw [Value.everywhere_isFinite_array] at hvalue
    rw [toValue_of_ofNumbers? hpadding]
    exact Value.isFinite_iff_of_toNumbers hvalue hnumbers
  | object entries =>
    obtain ⟨left, top, right, bottom, hleft, htop, hright, hbottom, _, hsome⟩ :=
      ofValue_object_eq_ok_iff.mp hread
    obtain rfl := Option.some.inj hsome
    rw [Value.everywhere_isFinite_object] at hvalue
    have hnumbers : ∀ number ∈ [("left", left), ("top", top), ("right", right),
        ("bottom", bottom)], Value.numberAt .padding number.1 entries = .ok number.2 := by
      simp [hleft, htop, hright, hbottom]
    exact Value.isFinite_iff_of_numbersAt hvalue hnumbers
  | _ => simp [ofValue] at hread

end Padding

namespace AxisAmount

/-- The parts of a value that an amount is read off. -/
def sources (transform : AxisTransform) : Value → List Value
  | .array items => items
  | .object entries =>
    (entries.filter fun entry => transform.keys.contains entry.1).map Prod.snd
  | _ => []

/-- Coerced axes have finite numbers unless a text under an axis key spells another one. -/
theorem isFinite_iff_of_coerceAxes {transform : AxisTransform} {entries coerced : PropertyBag}
    (hentries : ∀ entry ∈ entries, entry.2.Everywhere Value.IsFinite)
    (hcoerced : coerceAxes transform entries = .ok coerced) :
    (∀ entry ∈ coerced, entry.2.Everywhere Value.IsFinite) ↔
      ∀ entry ∈ entries, transform.keys.contains entry.1 = true → entry.2.SpellsFinite := by
  induction entries generalizing coerced with
  | nil =>
    obtain rfl := Except.ok.inj hcoerced
    simp
  | cons first rest ih =>
    obtain ⟨key, value⟩ := first
    obtain ⟨hfirst, hrest⟩ := List.forall_mem_cons.mp hentries
    obtain ⟨found, others, hfound, hothers, rfl⟩ := coerceAxes_cons_eq_ok_iff.mp hcoerced
    rw [List.forall_mem_cons, List.forall_mem_cons, ih hrest hothers]
    refine and_congr_left' ?_
    unfold coerceAxis at hfound
    split at hfound
    · rename_i hkey
      obtain ⟨number, hnumber, rfl⟩ := map_eq_ok_iff.mp hfound
      rw [Value.everywhere_float, Value.isFinite_float_iff,
        Value.isFinite_iff_of_toNumber hfirst hnumber, imp_iff_right hkey]
    · rename_i hkey
      obtain rfl := Except.ok.inj hfound
      exact iff_of_true hfirst fun h => absurd h hkey

/-- An amount has finite numbers unless a source of it spells another one. -/
theorem isFinite_toValue_iff {transform : AxisTransform} {value : Value} {amount : AxisAmount}
    (hvalue : value.Everywhere Value.IsFinite)
    (hread : ofValue transform value = .ok (some amount)) :
    amount.toValue.Everywhere Value.IsFinite ↔
      ∀ source ∈ sources transform value, source.SpellsFinite := by
  cases value with
  | int i =>
    obtain rfl := Option.some.inj (Except.ok.inj hread)
    simpa [toValue, sources] using Value.isFinite_ofInt64 i
  | float x =>
    obtain rfl := Option.some.inj (Except.ok.inj hread)
    simpa [toValue, sources] using hvalue
  | array items =>
    obtain ⟨numbers, hnumbers, hsome⟩ := map_eq_ok_iff.mp hread
    obtain rfl := Option.some.inj hsome
    rw [Value.everywhere_isFinite_array] at hvalue
    exact Value.isFinite_iff_of_toNumbers hvalue hnumbers
  | object entries =>
    obtain ⟨coerced, hcoerced, hsome⟩ := map_eq_ok_iff.mp hread
    obtain rfl := Option.some.inj hsome
    rw [Value.everywhere_isFinite_object] at hvalue
    rw [toValue, Value.everywhere_isFinite_object, sources,
      List.forall_mem_map, List.forall_mem_filter]
    exact isFinite_iff_of_coerceAxes hvalue hcoerced
  | _ => simp [ofValue] at hread

end AxisAmount

namespace ColorMatrix

/-- The parts of a value that a color matrix is read off. -/
def sources : Value → List Value
  | .array items => items
  | _ => []

/-- A color matrix has finite numbers unless a source of it spells another one. -/
theorem isFinite_toValue_iff {value : Value} {matrix : ColorMatrix}
    (hvalue : value.Everywhere Value.IsFinite) (hread : ofValue value = .ok (some matrix)) :
    matrix.toValue.Everywhere Value.IsFinite ↔ ∀ source ∈ sources value, source.SpellsFinite := by
  cases value with
  | string name =>
    obtain rfl := Option.some.inj (Except.ok.inj hread)
    simp [toValue, sources, Value.IsFinite]
  | array items =>
    obtain ⟨entries, hentries, hlast⟩ := bind_eq_ok_iff.mp hread
    rw [Value.everywhere_isFinite_array] at hvalue
    split at hlast
    · obtain rfl := Option.some.inj (pure_eq_ok_iff.mp hlast)
      exact Value.isFinite_iff_of_toNumbers hvalue hentries
    · contradiction
  | _ => simp [ofValue] at hread

end ColorMatrix

/-- The parts of a value that a frame entry in a role is read off. -/
def FrameRole.sources : FrameRole → Value → List Value
  | dimension, value => [value]
  | alignment, value => Offset.sources value
  | layer, value => [value]

/-- A frame entry has finite numbers unless a source of it spells another one. -/
theorem FrameEntry.isFinite_toValue_iff {role : FrameRole} {value : Value} {entry : FrameEntry}
    (hvalue : value.Everywhere Value.IsFinite) (hread : ofValue role value = .ok (some entry)) :
    entry.toValue.Everywhere Value.IsFinite ↔
      ∀ source ∈ role.sources value, source.SpellsFinite := by
  cases role with
  | dimension =>
    obtain ⟨size, hsize, rfl⟩ := optionMap_eq_ok_some_iff.mp hread
    simpa [toValue, FrameRole.sources] using Dimension.isFinite_toValue_iff hvalue hsize
  | alignment =>
    obtain ⟨place, hplace, rfl⟩ := optionMap_eq_ok_some_iff.mp hread
    exact Alignment.isFinite_toValue_iff hvalue hplace
  | layer =>
    obtain ⟨z, hz, hsome⟩ := map_eq_ok_iff.mp hread
    obtain rfl := Option.some.inj hsome
    simpa [toValue, FrameRole.sources] using Value.isFinite_iff_of_toNumber hvalue hz

/-- Nothing is spelled by `null` in any role. -/
theorem FrameRole.spellsFinite_of_isNull {role : FrameRole} {value : Value}
    (hnull : value.isNull = true) : ∀ source ∈ role.sources value, source.SpellsFinite := by
  cases value with
  | null => cases role <;> simp [sources, Offset.sources, Value.SpellsFinite]
  | _ => contradiction

namespace Frame

/-- The parts of a value that a frame is read off. -/
def sources : Value → List Value
  | .object entries => entries.flatMap fun (key, value) =>
    (FrameRole.ofKey? key).elim [] fun role => role.sources value
  | _ => []

/-- The known entries of a frame have finite numbers unless a source of them spells another. -/
theorem isFinite_iff_of_sortEntries {entries : PropertyBag}
    {known : List (String × FrameEntry)} {unknown : List String}
    (hentries : ∀ entry ∈ entries, entry.2.Everywhere Value.IsFinite)
    (hsorted : sortEntries entries = .ok (known, unknown)) :
    (∀ entry ∈ known, entry.2.toValue.Everywhere Value.IsFinite) ↔
      ∀ entry ∈ entries, ∀ role ∈ FrameRole.ofKey? entry.1,
        ∀ source ∈ role.sources entry.2, source.SpellsFinite := by
  induction entries generalizing known unknown with
  | nil =>
    obtain ⟨rfl, rfl⟩ := Prod.mk.inj (Except.ok.inj hsorted)
    simp
  | cons first rest ih =>
    obtain ⟨key, value⟩ := first
    obtain ⟨hfirst, hrest⟩ := List.forall_mem_cons.mp hentries
    rw [List.forall_mem_cons]
    -- an entry that is left out adds nothing to either side
    cases hnull : value.isNull with
    | true =>
      rw [sortEntries_cons_of_isNull hnull] at hsorted
      rw [ih hrest hsorted]
      exact (and_iff_right fun _ _ => FrameRole.spellsFinite_of_isNull hnull).symm
    | false =>
      cases hrole : FrameRole.ofKey? key with
      | none =>
        obtain ⟨others, hothers, _⟩ := (sortEntries_cons_of_unknown hnull hrole).mp hsorted
        rw [ih hrest hothers]
        simp
      | some role =>
        obtain ⟨found, others, hfound, hothers, rfl⟩ :=
          (sortEntries_cons_of_known hnull hrole).mp hsorted
        rw [List.forall_mem_append, ih hrest hothers]
        cases found with
        | none => exact absurd hfound (FrameEntry.ofValue_ne_ok_none hnull)
        | some entry =>
          simpa using and_congr_left' (FrameEntry.isFinite_toValue_iff hfirst hfound)

/-- A frame has finite numbers unless a source of it spells another one. -/
theorem isFinite_toValue_iff {strict : Bool} {value : Value} {frame : Frame}
    (hvalue : value.Everywhere Value.IsFinite) (hread : ofValue strict value = .ok frame) :
    frame.toValue.Everywhere Value.IsFinite ↔ ∀ source ∈ sources value, source.SpellsFinite := by
  cases value with
  | null =>
    obtain rfl := Except.ok.inj hread
    simp [toValue, sources, Value.IsFinite]
  | object entries =>
    obtain ⟨unknown, hsorted, _⟩ := ofValue_object_eq_ok_iff.mp hread
    rw [Value.everywhere_isFinite_object] at hvalue
    rw [toValue, Value.everywhere_isFinite_object, List.forall_mem_map,
      isFinite_iff_of_sortEntries hvalue hsorted]
    simp only [sources, List.forall_mem_flatMap]
    refine forall₂_congr fun entry _ => ?_
    cases FrameRole.ofKey? entry.1 <;> simp
  | _ => contradiction

end Frame

namespace Normalizer

/-- The parts of a value that a normalizer reads numbers off. -/
def sources : Normalizer → Value → List Value
  | dimension, value => [value]
  | padding, value => Padding.sources value
  | alignment, value => Offset.sources value
  | offset, value => Offset.sources value
  | scale, value => AxisAmount.sources .scale value
  | skew, value => AxisAmount.sources .skew value
  | colorMatrix, value => ColorMatrix.sources value
  | frame, value => Frame.sources value

/-- What a normalizer gives has finite numbers unless a source of it spells another one. -/
theorem isFinite_apply_iff {normalizer : Normalizer} {strict : Bool} {value found : Value}
    (hvalue : value.Everywhere Value.IsFinite)
    (happlied : normalizer.apply strict value = .ok (some found)) :
    found.Everywhere Value.IsFinite ↔
      ∀ source ∈ normalizer.sources value, source.SpellsFinite := by
  cases normalizer with
  | frame =>
    obtain ⟨frame, hread, hsome⟩ := map_eq_ok_iff.mp happlied
    obtain rfl := Option.some.inj hsome
    exact Frame.isFinite_toValue_iff hvalue hread
  | dimension =>
    obtain ⟨size, hread, rfl⟩ := optionMap_eq_ok_some_iff.mp happlied
    simpa [sources] using Dimension.isFinite_toValue_iff hvalue hread
  | padding =>
    obtain ⟨room, hread, rfl⟩ := optionMap_eq_ok_some_iff.mp happlied
    exact Padding.isFinite_toValue_iff hvalue hread
  | alignment =>
    obtain ⟨place, hread, rfl⟩ := optionMap_eq_ok_some_iff.mp happlied
    exact Alignment.isFinite_toValue_iff hvalue hread
  | offset =>
    obtain ⟨shift, hread, rfl⟩ := optionMap_eq_ok_some_iff.mp happlied
    exact Offset.isFinite_toValue_iff hvalue hread
  | scale =>
    obtain ⟨amount, hread, rfl⟩ := optionMap_eq_ok_some_iff.mp happlied
    exact AxisAmount.isFinite_toValue_iff hvalue hread
  | skew =>
    obtain ⟨amount, hread, rfl⟩ := optionMap_eq_ok_some_iff.mp happlied
    exact AxisAmount.isFinite_toValue_iff hvalue hread
  | colorMatrix =>
    obtain ⟨matrix, hread, rfl⟩ := optionMap_eq_ok_some_iff.mp happlied
    exact ColorMatrix.isFinite_toValue_iff hvalue hread

end Normalizer

end ControlProps
