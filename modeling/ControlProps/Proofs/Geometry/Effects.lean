import ControlProps.Proofs.Geometry.Coercion

/-!
# What coercion changes

Coercion of a bag changes the entries that a normalizer governs, and these only. It drops `null`,
keeps the order of the keys, and fails at the first entry that its normalizer refuses.
-/

namespace ControlProps

namespace Normalizer

variable {normalizer : Normalizer} {key : String} {value : Value} {entry : String × Value}

/-- The keys of the properties that a normalizer is for. -/
def keys : Normalizer → List String
  | dimension => ["width", "height", "min_width", "min_height", "max_width", "max_height"]
  | padding => ["padding", "margin", "content_padding"]
  | alignment => ["alignment", "content_alignment"]
  | offset => ["offset", "translate", "origin", "pivot"]
  | scale => ["scale"]
  | skew => ["skew"]
  | colorMatrix => ["color_matrix"]
  | frame => ["frame"]

/-- A key of no normalizer has none. -/
theorem ofKey?_eq_none (hkey : ∀ normalizer : Normalizer, key ∉ normalizer.keys) :
    ofKey? key = none := by
  rw [ofKey?, if_neg, if_neg, if_neg, if_neg, if_neg, if_neg, if_neg, if_neg]
  · exact mt List.mem_singleton.mpr (hkey frame)
  · exact mt List.mem_singleton.mpr (hkey colorMatrix)
  · exact mt List.mem_singleton.mpr (hkey skew)
  · exact mt List.mem_singleton.mpr (hkey scale)
  · exact mt List.contains_iff_mem.mp (hkey offset)
  · exact mt List.contains_iff_mem.mp (hkey alignment)
  · exact mt List.contains_iff_mem.mp (hkey padding)
  · exact mt List.contains_iff_mem.mp (hkey dimension)

/-- The normalizer of a key is the one among whose keys it is. -/
theorem ofKey?_eq_some_iff : ofKey? key = some normalizer ↔ key ∈ normalizer.keys := by
  have htable (other : Normalizer) : ∀ key ∈ other.keys, ofKey? key = some other := by
    cases other <;> decide
  refine ⟨fun hkey => ?_, htable normalizer key⟩
  by_contra hnot
  have hnone : ofKey? key = none := by
    refine ofKey?_eq_none fun other hother => hnot ?_
    have hsame : some other = some normalizer := (htable other key hother).symm.trans hkey
    exact Option.some.inj hsame ▸ hother
  exact absurd (hkey.symm.trans hnone) nofun

/-- Whether a normalizer is applied to an entry: the entry is not `null`, its key is one of the
normalizer's, and under `frame` it is an object. -/
def Governs (normalizer : Normalizer) (entry : String × Value) : Prop :=
  entry.2.isNull = false ∧ entry.1 ∈ normalizer.keys ∧
    (normalizer = frame → ∃ entries, entry.2 = .object entries)

/-- The normalizer that governs an entry is the one that its property is subject to. -/
theorem governs_iff :
    normalizer.Governs entry ↔
      entry.2.isNull = false ∧ ofProperty? entry.1 entry.2 = some normalizer := by
  have hobject : entry.2.object?.isSome = true ↔ ∃ entries, entry.2 = .object entries := by
    cases entry.2 <;> simp [Value.object?]
  rw [Governs, ofProperty?_eq_some_iff, ofKey?_eq_some_iff, hobject]

end Normalizer

namespace PropertyBag

open Normalizer

variable {bag rest out : PropertyBag} {given found : String × Value} {error : CoercionError}

/-- Whether the normalizer that governs an entry, if there is one, accepts it. -/
def IsAccepted (given : String × Value) : Prop :=
  ∀ normalizer : Normalizer, normalizer.Governs given →
    ∃ found, normalizer.apply false given.2 = .ok (some found)

/-- Whether the normalizer that governs an entry refuses it, and the error tells its key and what
the normalizer found wrong. -/
def IsRefused (given : String × Value) (error : CoercionError) : Prop :=
  ∃ (normalizer : Normalizer) (cause : CoercionError), normalizer.Governs given ∧
    normalizer.apply false given.2 = .error cause ∧ error = .atProperty given.1 cause

/-- What coercion does to an entry: it stays under its key, as what the normalizer that governs it
makes of it, or else as it is. -/
structure IsRewritten (given found : String × Value) : Prop where
  key : found.1 = given.1
  governed (normalizer : Normalizer) (hgoverns : normalizer.Governs given) :
    normalizer.apply false given.2 = .ok (some found.2)
  free (hfree : ∀ normalizer : Normalizer, ¬normalizer.Governs given) : found.2 = given.2

/-- An entry that stays is accepted if it can be coerced. -/
theorem isAccepted_iff (hnull : given.2.isNull = false) :
    IsAccepted given ↔ ∃ found, coerceProperty given.1 given.2 = .ok (some found) := by
  simp only [IsAccepted, governs_iff, hnull, true_and]
  cases hsubject : ofProperty? given.1 given.2 with
  | none => simp [coerceProperty_of_none hsubject]
  | some normalizer => simp [coerceProperty_eq_ok_iff hsubject]

/-- An entry that stays is refused with the error of its coercion. -/
theorem isRefused_iff (hnull : given.2.isNull = false) :
    IsRefused given error ↔ coerceProperty given.1 given.2 = .error error := by
  simp only [IsRefused, governs_iff, hnull, true_and, coerceProperty]
  cases ofProperty? given.1 given.2 with
  | none => simp
  | some normalizer =>
    simp only [Option.some.injEq, mapError_eq_error_iff]
    constructor
    · rintro ⟨_, cause, rfl, hcause, rfl⟩
      exact ⟨cause, hcause, rfl⟩
    · rintro ⟨cause, hcause, rfl⟩
      exact ⟨normalizer, cause, rfl, hcause, rfl⟩

/-- An entry that stays is rewritten. -/
theorem isRewritten_iff (hnull : given.2.isNull = false) :
    IsRewritten given found ↔ Coerced given found := by
  constructor
  · rintro ⟨hkey, hgoverned, hfree⟩
    refine ⟨hkey, ?_⟩
    cases hsubject : ofProperty? given.1 given.2 with
    | none =>
      have hnone (normalizer : Normalizer) : ¬normalizer.Governs given := by
        simp [governs_iff, hsubject]
      rw [coerceProperty_of_none hsubject, hfree hnone]
    | some normalizer =>
      rw [coerceProperty_eq_ok_iff hsubject]
      exact hgoverned normalizer (governs_iff.mpr ⟨hnull, hsubject⟩)
  · rintro ⟨hkey, hvalue⟩
    refine ⟨hkey, fun normalizer hgoverns => ?_, fun hfree => ?_⟩
    · exact (coerceProperty_eq_ok_iff (governs_iff.mp hgoverns).2).mp hvalue
    · have hsubject : ofProperty? given.1 given.2 = none := by
        refine Option.eq_none_iff_forall_ne_some.mpr fun normalizer hsome => ?_
        exact hfree normalizer (governs_iff.mpr ⟨hnull, hsome⟩)
      rw [coerceProperty_of_none hsubject] at hvalue
      exact (Option.some.inj (Except.ok.inj hvalue)).symm

/-- Coercion fails at the first entry, or accepts it and fails further on. -/
theorem coerce_cons_eq_error_iff :
    coerce (given :: rest) = .error error ↔
      IsRefused given error ∨ IsAccepted given ∧ coerce rest = .error error := by
  cases hnull : given.2.isNull with
  | true =>
    have hfree (normalizer : Normalizer) : ¬normalizer.Governs given := by
      simp [governs_iff, hnull]
    rw [coerce, if_pos hnull]
    simp [IsRefused, IsAccepted, hfree]
  | false =>
    have hkept : ¬given.2.isNull = true := by simp [hnull]
    rw [coerce, if_neg hkept, bind_eq_error_iff, isRefused_iff hnull, isAccepted_iff hnull]
    refine or_congr_right ⟨?_, ?_⟩
    · rintro ⟨coerced, hcoerced, hrest⟩
      rcases bind_eq_error_iff.mp hrest with herror | ⟨_, _, hpure⟩
      · cases coerced with
        | none => exact absurd hcoerced (coerceProperty_ne_ok_none hnull)
        | some found => exact ⟨⟨found, hcoerced⟩, herror⟩
      · contradiction
    · rintro ⟨⟨found, hfound⟩, herror⟩
      exact ⟨some found, hfound, bind_eq_error_iff.mpr (.inl herror)⟩

/-- A bag is refused for the first entry that is not accepted. -/
theorem coerce_eq_error_iff :
    coerce bag = .error error ↔ ∃ before given after, bag = before ++ given :: after ∧
      (∀ earlier ∈ before, IsAccepted earlier) ∧ IsRefused given error := by
  induction bag with
  | nil => simp [coerce]
  | cons given rest ih => rw [coerce_cons_eq_error_iff, ih, exists_split_cons_iff]

/-- A bag gives those bags that consist of what its entries, `null` apart, are rewritten to. -/
theorem coerce_eq_ok_iff_isRewritten :
    coerce bag = .ok out ↔ List.Forall₂ IsRewritten bag.present out := by
  have hpairs {given found : String × Value} (hpair : (given, found) ∈ bag.present.zip out) :
      IsRewritten given found ↔ Coerced given found :=
    isRewritten_iff (mem_present_iff.mp (List.of_mem_zip hpair).1).2
  rw [coerce_eq_ok_iff, List.forall₂_iff_zip, List.forall₂_iff_zip]
  refine and_congr_right' ⟨fun h _ _ hpair => ?_, fun h _ _ hpair => ?_⟩
  · exact (hpairs hpair).mpr (h hpair)
  · exact (hpairs hpair).mp (h hpair)

/-- A bag is coerced if each of its entries is accepted. -/
theorem exists_coerce_iff : (∃ out, coerce bag = .ok out) ↔ ∀ given ∈ bag, IsAccepted given := by
  constructor
  · rintro ⟨out, hcoerced⟩ given hgiven normalizer hgoverns
    have hpresent := mem_present_iff.mpr ⟨hgiven, hgoverns.1⟩
    obtain ⟨found, _, hrewritten⟩ :=
      exists_mem_right_of_forall₂ (coerce_eq_ok_iff_isRewritten.mp hcoerced) hpresent
    exact ⟨found.2, hrewritten.governed normalizer hgoverns⟩
  · intro haccepted
    cases hcoerced : coerce bag with
    | ok out => exact ⟨out, rfl⟩
    | error error =>
      obtain ⟨before, given, after, rfl, _, normalizer, cause, hgoverns, hcause, _⟩ :=
        coerce_eq_error_iff.mp hcoerced
      obtain ⟨found, hfound⟩ := haccepted given (by simp) normalizer hgoverns
      exact absurd (hcause.symm.trans hfound) nofun

/-- Rewritten entries have the same keys in the same order. -/
theorem keys_of_isRewritten (hrewritten : List.Forall₂ IsRewritten bag out) :
    Entries.keys out = Entries.keys bag := by
  have hkeys : List.Forall₂ (· = ·) (Entries.keys bag) (Entries.keys out) := by
    rw [Entries.keys, Entries.keys, List.forall₂_map_left_iff, List.forall₂_map_right_iff]
    exact hrewritten.imp fun _ _ h => h.key.symm
  rw [List.forall₂_eq_eq_eq] at hkeys
  exact hkeys.symm

/--
**Coercion of bags** succeeds exactly if every entry that a normalizer governs is accepted by it.
Then the entries that are not `null` stay under their keys and in their order, each as what its
normalizer makes of it, and all others as they are. Otherwise the error names the first entry that
is refused, with what its normalizer found wrong. No normalizer makes nothing of what is not `null`.
-/
theorem coerce_changes_geometry_only (bag : PropertyBag) :
    ((∃ out, coerce bag = .ok out) ↔ ∀ given ∈ bag, IsAccepted given) ∧
      (∀ out, coerce bag = .ok out ↔ List.Forall₂ IsRewritten bag.present out) ∧
      (∀ out, coerce bag = .ok out → Entries.keys out = Entries.keys bag.present) ∧
      (∀ error, coerce bag = .error error ↔ ∃ before given after,
        bag = before ++ given :: after ∧ (∀ earlier ∈ before, IsAccepted earlier) ∧
          IsRefused given error) ∧
      ∀ (normalizer : Normalizer) (strict : Bool) (value : Value), value.isNull = false →
        normalizer.apply strict value ≠ .ok none := by
  refine ⟨exists_coerce_iff, fun _ => coerce_eq_ok_iff_isRewritten, fun out hcoerced => ?_,
    fun _ => coerce_eq_error_iff, fun _ _ _ => apply_ne_ok_none⟩
  exact keys_of_isRewritten (coerce_eq_ok_iff_isRewritten.mp hcoerced)

/-- A width between a label, which is copied, and a tooltip, which is dropped. -/
theorem coerce_changes_width_only :
    let bag : PropertyBag :=
      [("label", .string "OK"), ("width", .string "120"), ("tooltip", .null)]
    ∃ out, coerce bag = .ok out ∧ Entries.keys out = ["label", "width"] ∧
      List.Forall₂ IsRewritten [("label", .string "OK"), ("width", .string "120")] out := by
  intro bag
  have hsucceeds : (coerce bag).toBool = true := by decide +kernel
  obtain ⟨out, hcoerced⟩ := toBool_eq_true_iff.mp hsucceeds
  obtain ⟨_, hrewritten, hkeys, _⟩ := coerce_changes_geometry_only bag
  exact ⟨out, hcoerced, hkeys out hcoerced, (hrewritten out).mp hcoerced⟩

end PropertyBag

end ControlProps
