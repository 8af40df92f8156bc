import ControlProps.Proofs.Geometry.Numbers
import ControlProps.Proofs.Json.Numbers
import ControlProps.Proofs.Value.Identity

/-!
# Coerced bags in JSON

JSON has no form for a number that is not finite. No such number is in a bag that comes from JSON,
but coercion may bring one in, from a text that spells it. A coerced bag that is written and read
again is what it was if and only if no text of the given bag does that.
-/

namespace ControlProps

namespace Normalizer

variable {normalizer : Normalizer} {key : String} {value : Value}

/-- Nothing is read off `null`. -/
theorem spellsFinite_of_isNull (hnull : value.isNull = true) :
    ∀ source ∈ normalizer.sources value, source.SpellsFinite := by
  cases value with
  | null =>
    cases normalizer <;> simp [sources, Padding.sources, Offset.sources, AxisAmount.sources,
      ColorMatrix.sources, Frame.sources, Value.SpellsFinite]
  | _ => contradiction

/-- Nothing is read off a property that its normalizer passes over. -/
theorem sources_of_ofProperty?_eq_none (hkey : ofKey? key = some normalizer)
    (hnone : ofProperty? key value = none) : normalizer.sources value = [] := by
  -- only a frame passes over values, and it passes over those that are no objects
  have hframe : ¬(normalizer = frame → value.object?.isSome = true) := fun hobject =>
    Option.some_ne_none _ ((ofProperty?_eq_some_iff.mpr ⟨hkey, hobject⟩).symm.trans hnone)
  obtain ⟨rfl, hobject⟩ := Classical.not_imp.mp hframe
  cases value with
  | object entries => exact absurd rfl hobject
  | _ => rfl

end Normalizer

namespace PropertyBag

/-- Whether no text off which coercion reads a number spells one that is not finite. -/
def HasFiniteNumbers (bag : PropertyBag) : Prop :=
  ∀ entry ∈ bag, ∀ normalizer ∈ Normalizer.ofKey? entry.1,
    ∀ source ∈ normalizer.sources entry.2, source.SpellsFinite

instance (bag : PropertyBag) : Decidable bag.HasFiniteNumbers :=
  inferInstanceAs (Decidable (∀ entry ∈ bag, ∀ normalizer ∈ Normalizer.ofKey? entry.1,
    ∀ source ∈ normalizer.sources entry.2, source.SpellsFinite))

/-- A coerced property has finite numbers unless a source of it spells another one. -/
theorem isFinite_coerceProperty_iff {key : String} {value found : Value}
    (hvalue : value.Everywhere Value.IsFinite)
    (hcoerced : coerceProperty key value = .ok (some found)) :
    found.Everywhere Value.IsFinite ↔ ∀ normalizer ∈ Normalizer.ofKey? key,
      ∀ source ∈ normalizer.sources value, source.SpellsFinite := by
  cases hnormalizer : Normalizer.ofProperty? key value with
  | none =>
    rw [coerceProperty_of_none hnormalizer] at hcoerced
    obtain rfl := Option.some.inj (Except.ok.inj hcoerced)
    refine iff_of_true hvalue fun normalizer hkey => ?_
    rw [Normalizer.sources_of_ofProperty?_eq_none hkey hnormalizer]
    exact nofun
  | some normalizer =>
    rw [coerceProperty_eq_ok_iff hnormalizer] at hcoerced
    obtain ⟨hkey, _⟩ := Normalizer.ofProperty?_eq_some_iff.mp hnormalizer
    rw [Normalizer.isFinite_apply_iff hvalue hcoerced, hkey]
    simp

/-- A coerced bag has finite numbers unless a text of the given bag spells another one. -/
theorem isFinite_coerce_iff {bag out : PropertyBag}
    (hbag : ∀ entry ∈ bag, entry.2.Everywhere Value.IsFinite) (hcoerced : coerce bag = .ok out) :
    (Value.object out).Everywhere Value.IsFinite ↔ bag.HasFiniteNumbers := by
  rw [Value.everywhere_isFinite_object]
  constructor
  · intro hout given hgiven
    -- of a `null` entry nothing is left, but no number is read off it either
    cases hnull : given.2.isNull with
    | true => exact fun _ _ => Normalizer.spellsFinite_of_isNull hnull
    | false =>
      obtain ⟨found, hfound, _, hproperty⟩ :=
        exists_found_of_coerce hcoerced (mem_present_iff.mpr ⟨hgiven, hnull⟩)
      exact (isFinite_coerceProperty_iff (hbag given hgiven) hproperty).mp (hout found hfound)
  · intro hfinite found hfound
    obtain ⟨given, hpresent, _, hproperty⟩ := exists_given_of_coerce hcoerced hfound
    have hgiven := (mem_present_iff.mp hpresent).1
    exact (isFinite_coerceProperty_iff (hbag given hgiven) hproperty).mpr (hfinite given hgiven)

/-- **Coerced bags in JSON.** A bag that comes from JSON and is coerced comes back, written as JSON
and read again, exactly as it was if and only if no text off which coercion reads a number spells
one that is not finite. -/
theorem coerced_bag_comes_back_iff {json : Json} {bag out : PropertyBag}
    (hjson : json.hasNumbersInRange = true) (hbag : Value.bag? json = some bag)
    (hcoerced : bag.coerce = .ok out) :
    (Value.object out).reread = .object out ↔ bag.HasFiniteNumbers := by
  rw [Value.reread_eq_self_iff]
  refine isFinite_coerce_iff ?_ hcoerced
  have hvalue := Value.isFinite_ofJson hjson
  rwa [Value.bag?_eq_some_iff.mp hbag, Value.everywhere_isFinite_object] at hvalue

/-- A word for what is not a number and a number that overflows are lost in JSON. -/
theorem coerced_bag_does_not_come_back :
    let json : Json := .object [("padding", .array [.string "nan", .string "1e999"])]
    let bag : PropertyBag := [("padding", .array [.string "nan", .string "1e999"])]
    let out : PropertyBag := [("padding", .ofNumbers [.nan, .infinity false])]
    let lost : Value := .object [("padding", .array [.null, .null])]
    json.hasNumbersInRange = true ∧ Value.bag? json = some bag ∧ bag.coerce = .ok out ∧
      (Value.object out).reread = lost ∧ lost ≠ .object out := by
  decide +kernel

/-- Texts with exponents and with units come back, also within frames, and so does a word for
infinity off which no number is read. -/
theorem coerced_layout_comes_back :
    let members : List (String × Json) := [("title", .string "inf"), ("tooltip", .null),
      ("width", .string " 120 "), ("height", .string "50%"),
      ("margin", .array [.string "1e3", .int 2]), ("pivot", .object [("x", .string ".5")]),
      ("scale", .object [("x", .string "2"), ("label", .string "nan")]),
      ("frame", .object [("left", .string "1vw"), ("z", .string "+7"), ("note", .string "inf")])]
    let json : Json := .object members
    let bag : PropertyBag := Value.ofMembers members
    let out : PropertyBag := [("title", .string "inf"), ("width", .float 120),
      ("height", .string "50%"), ("margin", .ofNumbers [1000, 2]),
      ("pivot", .object [("x", .float (.ofDecimal false ⟨5, -1⟩))]),
      ("scale", .object [("x", .float 2), ("label", .string "nan")]),
      ("frame", .object [("left", .string "1vw"), ("z", .float 7)])]
    json.hasNumbersInRange = true ∧ Value.bag? json = some bag ∧ bag.coerce = .ok out ∧
      (Value.object out).reread = .object out := by
  intro members json bag out
  have hjson : json.hasNumbersInRange = true := by decide +kernel
  have hbag : Value.bag? json = some bag := rfl
  have hcoerced : bag.coerce = .ok out := by decide +kernel
  have hfinite : bag.HasFiniteNumbers := by decide +kernel
  exact ⟨hjson, hbag, hcoerced, (coerced_bag_comes_back_iff hjson hbag hcoerced).mpr hfinite⟩

end PropertyBag

end ControlProps
