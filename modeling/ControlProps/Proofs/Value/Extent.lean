import ControlProps.Proofs.Binary64.Extent
import ControlProps.Value

/-!
# Exact values of numbers of either kind

An integer and a float may denote the same number. Numbers are compared through the nearest floats,
which compare as the exact values do, unless an integer of more than 53 bits is rounded.
-/

namespace ControlProps.Value

variable {value a b : Value} {x y : Binary64} {e : Extent}

/-- The exact value of a number of either kind; nothing else has one. -/
def extent? : Value → Option Extent
  | int i => some (.ofInt i.toInt)
  | float x => x.extent?
  | _ => none

/-- Whether a value is an integer that is rounded to the given number. -/
def IsRounded (value : Value) (x : Binary64) : Prop :=
  ∃ i, value = int i ∧ Binary64.IsRounded i.toInt x

/-- An integer of 64 bits is below the magnitudes at which rounding could reach infinity. -/
theorem natAbs_toInt_lt (i : Int64) : i.toInt.natAbs < 2 ^ 64 := by
  have hleast := i.le_toInt
  have hmost := i.toInt_lt
  omega

/-- Whether a value is not an integer of more than 53 bits. -/
def IsWithin53Bits : Value → Prop
  | int i => i.toInt.natAbs ≤ 2 ^ 53
  | _ => True

/-- Integers of up to 53 bits are not rounded. -/
theorem IsWithin53Bits.not_isRounded (hbits : value.IsWithin53Bits) : ¬value.IsRounded x := by
  rintro ⟨i, rfl, hrounded⟩
  exact absurd (Binary64.lt_of_isRounded hrounded) (Nat.not_lt.mpr hbits)

/-- The nearest number has the exact value, or an integer is rounded to all that equals it. -/
theorem extent?_or_isRounded (hx : value.number? = some x) :
    x.extent? = value.extent? ∨ ∀ y, x.equals y = true → value.IsRounded y := by
  cases value with
  | int i =>
    obtain rfl := Option.some.inj hx
    by_cases hinteger : (Binary64.ofInt i.toInt).integer? = some i.toInt
    · exact .inl ((Binary64.integer?_ofInt_iff (natAbs_toInt_lt i)).mp hinteger)
    · exact .inr fun y hequals => ⟨i, rfl, hinteger, hequals⟩
  | float => exact .inl (congrArg _ (Option.some.inj hx).symm)
  | _ => simp [number?] at hx

/-- Only what is no number has no exact value. -/
theorem exists_extent? (hx : value.number? = some x) (hnan : value ≠ float .nan) :
    ∃ e, value.extent? = some e := by
  cases value with
  | int => exact ⟨_, rfl⟩
  | float => exact Binary64.exists_extent? fun h => hnan (congrArg float h)
  | _ => simp [number?] at hx

/-- A number is a float and stands for itself, or it is an integer and is taken as the nearest
float. -/
theorem number_cases (hx : value.number? = some x) (he : value.extent? = some e) :
    x.extent? = some e ∧ (∀ y, ¬value.IsRounded y) ∨
      ∃ i, value = int i ∧ Binary64.ofInt i.toInt = x ∧ .ofInt i.toInt = e := by
  cases value with
  | int i => exact .inr ⟨i, rfl, Option.some.inj hx, Option.some.inj he⟩
  | float =>
    obtain rfl := Option.some.inj hx
    exact .inl ⟨he, fun _ ⟨_, hint, _⟩ => nomatch hint⟩
  | _ => simp [number?] at hx

/-- A number is not below a bound exactly if its exact value reaches it or is rounded to it. -/
theorem not_isBelow_iff (hx : value.number? = some x) (he : value.extent? = some e) :
    ¬x.isBelow y = true ↔ (∀ f ∈ y.extent?, f ≤ e) ∨ value.IsRounded y := by
  cases hf : y.extent? with
  | none => simp [Binary64.isBelow, Option.map_eq_none_iff.mp hf]
  | some f =>
    simp only [Option.mem_some, forall_eq']
    rcases number_cases hx he with ⟨hx, hexact⟩ | ⟨i, rfl, rfl, rfl⟩
    · rw [Binary64.isBelow_iff_lt hx hf, Extent.not_lt, or_iff_left (hexact y)]
    · simpa [IsRounded] using Binary64.not_ofInt_isBelow_iff (natAbs_toInt_lt i) hf

/-- A number is not above a bound exactly if its exact value keeps to it or is rounded to it. -/
theorem not_isAbove_iff (hx : value.number? = some x) (he : value.extent? = some e) :
    ¬y.isBelow x = true ↔ (∀ f ∈ y.extent?, e ≤ f) ∨ value.IsRounded y := by
  cases hf : y.extent? with
  | none => simp [Binary64.isBelow, Option.map_eq_none_iff.mp hf]
  | some f =>
    simp only [Option.mem_some, forall_eq']
    rcases number_cases hx he with ⟨hx, hexact⟩ | ⟨i, rfl, rfl, rfl⟩
    · rw [Binary64.isBelow_iff_lt hf hx, Extent.not_lt, or_iff_left (hexact y)]
    · simpa [IsRounded] using Binary64.not_isBelow_ofInt_iff (natAbs_toInt_lt i) hf

/-- Numbers of one exact value have nearest numbers that are equal. -/
theorem equals_of_extent? (hx : a.number? = some x) (hy : b.number? = some y)
    (ha : a.extent? = some e) (hb : b.extent? = some e) : x.equals y = true := by
  rcases number_cases hx ha with ⟨hxe, _⟩ | ⟨i, rfl, rfl, hi⟩
  · rcases number_cases hy hb with ⟨hye, _⟩ | ⟨j, rfl, rfl, rfl⟩
    · exact Binary64.equals_iff_exists.mpr ⟨e, hxe, hye⟩
    · rw [Binary64.equals_comm]
      exact Binary64.ofInt_equals_of_extent? (natAbs_toInt_lt j) hxe
  · rcases number_cases hy hb with ⟨hye, _⟩ | ⟨j, rfl, rfl, hj⟩
    · exact Binary64.ofInt_equals_of_extent? (natAbs_toInt_lt i) (hi ▸ hye)
    · rw [Extent.ofInt_inj.mp (hi.trans hj.symm)]
      exact Binary64.equals_self_of_isFinite (Binary64.isFinite_ofInt (natAbs_toInt_lt j))

end ControlProps.Value
