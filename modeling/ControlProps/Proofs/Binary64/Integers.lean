import ControlProps.Binary64.Rounding
import Mathlib.Algebra.Group.Nat.Defs

/-!
# Integers among the numbers

Rounding fixes what needs no rounding: a ratio that equals a magnitude of the format has that
magnitude's rank as its nearest one. So an integer that is read off a number is rounded back to
that number.
-/

namespace ControlProps

/-- One is a whole number of least positive magnitudes. -/
theorem unitsPerOne_pos : 0 < unitsPerOne := by
  decide +kernel

/-- Below the second binade the magnitudes are one unit apart, and a rank is its own magnitude. -/
theorem unitsOfRank_of_lt {rank : Nat} (hrank : rank < 2 ^ 52) : unitsOfRank rank = rank := by
  have hspacing : spacing rank = 0 := by
    simp only [spacing, Nat.pow_eq]
    omega
  simp [unitsOfRank, hspacing]

/-- From the first full binade on, a magnitude has 53 significant bits. -/
theorem exists_significand {rank : Nat} (hrank : 2 ^ 52 ≤ rank) :
    ∃ significand, rank = spacing rank * 2 ^ 52 + significand ∧ 2 ^ 52 ≤ significand ∧
      significand < 2 ^ 53 ∧ unitsOfRank rank = significand * 2 ^ spacing rank := by
  refine ⟨rank - spacing rank * 2 ^ 52, ?_, ?_, ?_, rfl⟩ <;>
    simp only [spacing, Nat.pow_eq] <;> omega

/-- Only rank zero has magnitude zero. -/
theorem unitsOfRank_eq_zero_iff {rank : Nat} : unitsOfRank rank = 0 ↔ rank = 0 := by
  by_cases hrank : rank < 2 ^ 52
  · rw [unitsOfRank_of_lt hrank]
  · obtain ⟨significand, _, hleast, _, hunits⟩ := exists_significand (Nat.le_of_not_lt hrank)
    have hpos : 0 < significand * 2 ^ spacing rank :=
      Nat.mul_pos (by omega) (Nat.two_pow_pos _)
    omega

/-- A number of 53 bits that is shifted up has as many bits more. -/
theorem log2_significand {significand shift : Nat} (hleast : 2 ^ 52 ≤ significand)
    (hmost : significand < 2 ^ 53) : (significand * 2 ^ shift).log2 = 52 + shift := by
  have hpos : 0 < significand * 2 ^ shift := Nat.mul_pos (by omega) (Nat.two_pow_pos shift)
  have hlow : 52 + shift ≤ (significand * 2 ^ shift).log2 := by
    rw [Nat.le_log2 (Nat.ne_of_gt hpos), Nat.pow_add]
    exact Nat.mul_le_mul_right _ hleast
  have hhigh : (significand * 2 ^ shift).log2 < 53 + shift := by
    rw [Nat.log2_lt (Nat.ne_of_gt hpos), Nat.pow_add]
    exact Nat.mul_lt_mul_of_pos_right hmost (Nat.two_pow_pos shift)
  omega

/-- A number below a power of two has no more bits than the exponent says. -/
theorem log2_lt_of_lt {n bits : Nat} (hbits : 0 < bits) (hn : n < 2 ^ bits) : n.log2 < bits := by
  by_cases hzero : n = 0
  · simpa [hzero] using hbits
  · exact (Nat.log2_lt hzero).mpr hn

/-- Rounding with a step that divides the scaled ratio leaves no excess. -/
theorem nearestRank_of_step {numerator denominator significand : Nat} (hpos : 0 < denominator)
    (hscaled : numerator * unitsPerOne =
      significand * (denominator *
        2 ^ ((numerator * unitsPerOne / denominator).log2 - 52))) :
    nearestRank numerator denominator =
      ((numerator * unitsPerOne / denominator).log2 - 52) * 2 ^ 52 + significand := by
  generalize hshift : (numerator * unitsPerOne / denominator).log2 - 52 = shift at hscaled ⊢
  have hstep : 0 < denominator * 2 ^ shift := Nat.mul_pos hpos (Nat.two_pow_pos shift)
  have hbelow : numerator * unitsPerOne / (denominator * 2 ^ shift) = significand := by
    rw [hscaled, Nat.mul_div_cancel _ hstep]
  have hexcess : numerator * unitsPerOne % (denominator * 2 ^ shift) = 0 := by
    rw [hscaled, Nat.mul_mod_left]
  have hne : denominator * 2 ^ shift ≠ 0 := Nat.ne_of_gt hstep
  simp [nearestRank, hshift, hbelow, hexcess, Ne.symm hne]

/-- A ratio that equals a magnitude is rounded to that magnitude. -/
theorem nearestRank_of_exact {numerator denominator rank : Nat} (hpos : 0 < denominator)
    (hexact : numerator * unitsPerOne = unitsOfRank rank * denominator) :
    nearestRank numerator denominator = rank := by
  have hquotient : numerator * unitsPerOne / denominator = unitsOfRank rank := by
    rw [hexact, Nat.mul_div_cancel _ hpos]
  -- the number of bits of the magnitude tells how far apart its neighbours are
  by_cases hrank : rank < 2 ^ 52
  · rw [unitsOfRank_of_lt hrank] at hquotient hexact
    have hlog : rank.log2 - 52 = 0 := by
      have hbits : rank.log2 < 52 := log2_lt_of_lt (by decide) hrank
      omega
    have hstep : numerator * unitsPerOne =
        rank * (denominator * 2 ^ ((numerator * unitsPerOne / denominator).log2 - 52)) := by
      rw [hquotient, hlog, hexact, Nat.pow_zero, Nat.mul_one]
    simpa [hquotient, hlog] using nearestRank_of_step hpos hstep
  · obtain ⟨significand, hsum, hleast, hmost, hunits⟩ :=
      exists_significand (Nat.le_of_not_lt hrank)
    rw [hunits] at hquotient hexact
    have hlog : (significand * 2 ^ spacing rank).log2 - 52 = spacing rank := by
      rw [log2_significand hleast hmost, Nat.add_sub_cancel_left]
    have hstep : numerator * unitsPerOne = significand *
        (denominator * 2 ^ ((numerator * unitsPerOne / denominator).log2 - 52)) := by
      rw [hquotient, hlog, hexact, Nat.mul_assoc, Nat.mul_comm (2 ^ _)]
    rw [nearestRank_of_step hpos hstep, hquotient, hlog]
    exact hsum.symm

/-- Shifted down to its first 53 bits, a number has no more than these. -/
theorem div_two_pow_log2_lt (n : Nat) : n / 2 ^ (n.log2 - 52) < 2 ^ 53 := by
  rw [Nat.div_lt_iff_lt_mul (Nat.two_pow_pos _), ← Nat.pow_add]
  exact Nat.lt_of_lt_of_le Nat.lt_log2_self (Nat.pow_le_pow_right (by decide) (by omega))

/-- Rounding an integer of 64 bits does not reach infinity. -/
theorem nearestRank_lt_infinityRank {n : Nat} (hn : n < 2 ^ 64) :
    nearestRank n 1 < infinityRank := by
  have hscaled : n * unitsPerOne < 2 ^ 1138 := by
    have hpower : 2 ^ 64 * unitsPerOne ≤ 2 ^ 1138 := by decide +kernel
    exact Nat.lt_of_lt_of_le (Nat.mul_lt_mul_of_pos_right hn unitsPerOne_pos) hpower
  have hbits : (n * unitsPerOne).log2 < 1138 := log2_lt_of_lt (by decide) hscaled
  have hbelow := div_two_pow_log2_lt (n * unitsPerOne)
  simp only [nearestRank, Nat.div_one, Nat.one_mul, Nat.pow_eq, infinityRank]
  generalize n * unitsPerOne = units at hbits hbelow ⊢
  split <;> omega

namespace Binary64

/-- The numbers that equal themselves are all but the one that is not a number. -/
theorem equals_self_iff {x : Binary64} : x.equals x = true ↔ x ≠ nan := by
  cases x <;> simp [equals, place?]

/-- A finite number equals itself. -/
theorem equals_self_of_isFinite {x : Binary64} (hx : x.isFinite = true) : x.equals x = true := by
  rw [equals_self_iff]
  rintro rfl
  simp [isFinite] at hx

/-- A number that is not finite is no integer. -/
theorem integer?_of_not_isFinite {x : Binary64} (hx : x.isFinite = false) : x.integer? = none := by
  have hunits : x.units? = none := by
    cases x with
    | nan => rfl
    | signed negative rank => exact if_neg (of_decide_eq_false hx)
  rw [integer?, hunits]
  rfl

/-- The exact value of a number that is an integer is so many ones. -/
theorem units?_of_integer? {x : Binary64} {i : Int} (hx : x.integer? = some i) :
    x.units? = some (i * unitsPerOne) := by
  obtain ⟨units, hunits, hwhole⟩ := Option.bind_eq_some_iff.mp hx
  by_cases hmod : units % unitsPerOne = 0
  · rw [if_pos hmod] at hwhole
    obtain rfl := Option.some.inj hwhole
    rw [hunits, Int.ediv_mul_cancel (Int.dvd_of_emod_eq_zero hmod)]
  · rw [if_neg hmod] at hwhole
    contradiction

/-- What an integer among the numbers says of sign and rank. -/
theorem integer?_signed {negative : Bool} {rank : Fin (infinityRank + 1)} {i : Int}
    (hx : (signed negative rank).integer? = some i) :
    i * unitsPerOne = if negative then -(unitsOfRank rank : Int) else unitsOfRank rank := by
  have hunits := units?_of_integer? hx
  rw [units?] at hunits
  split at hunits
  · exact (Option.some.inj hunits).symm
  · contradiction

/-- A rank of the format with a sign is a number. -/
@[simp] theorem ofRank_val {negative : Bool} {rank : Fin (infinityRank + 1)} :
    ofRank negative rank.val = signed negative rank :=
  dif_pos rank.isLt

/-- An integer has the sign of its positive multiples. -/
theorem neg_iff_of_mul_eq {i : Int} {unit magnitude : Nat} {negative : Bool} (hunit : 0 < unit)
    (hmagnitude : magnitude ≠ 0)
    (hvalue : i * unit = if negative then -(magnitude : Int) else magnitude) :
    i < 0 ↔ negative = true := by
  rw [← Int.not_le, ← Int.mul_nonneg_iff_of_pos_right (Int.natCast_pos.mpr hunit), hvalue]
  cases negative with
  | false => simp
  | true =>
    simp only [if_true, iff_true]
    omega

/-- An integer that a number is equal to is rounded to its rank, with a sign of its own. -/
theorem ofInt_of_integer? {negative : Bool} {rank : Fin (infinityRank + 1)} {i : Int}
    (hx : (signed negative rank).integer? = some i) : ofInt i = signed (i < 0) rank := by
  have hexact : i.natAbs * unitsPerOne = unitsOfRank rank * 1 := by
    have habs := congrArg Int.natAbs (integer?_signed hx)
    rw [Int.natAbs_mul, Int.natAbs_natCast] at habs
    rw [habs, Nat.mul_one]
    cases negative <;> simp
  rw [ofInt, nearestRank_of_exact Nat.one_pos hexact, ofRank_val]

/-- An integer that a number is equal to is rounded to that number, up to the sign of zero. -/
theorem ofInt_equals_of_integer? {x : Binary64} {i : Int} (hx : x.integer? = some i) :
    (ofInt i).equals x = true := by
  cases x with
  | nan =>
    have hunits := units?_of_integer? hx
    contradiction
  | signed negative rank =>
    rw [ofInt_of_integer? hx]
    -- only for zero may the signs differ
    by_cases hzero : rank.val = 0
    · simp only [equals, place?, hzero, Int.natCast_zero, Int.neg_zero, ite_self, beq_self_eq_true]
    · have hne : unitsOfRank rank ≠ 0 := fun h => hzero (unitsOfRank_eq_zero_iff.mp h)
      simp only [equals, place?, neg_iff_of_mul_eq unitsPerOne_pos hne (integer?_signed hx),
        decide_eq_true_eq, beq_self_eq_true]

/-- An integer of 64 bits is rounded to a finite number. -/
theorem isFinite_ofInt {i : Int} (hi : i.natAbs < 2 ^ 64) : (ofInt i).isFinite = true := by
  have hrank := nearestRank_lt_infinityRank hi
  have hwithin : nearestRank i.natAbs 1 < infinityRank + 1 := Nat.lt_succ_of_lt hrank
  rw [ofInt, ofRank, dif_pos hwithin, isFinite]
  exact decide_eq_true hrank

/-- The two neighbours of the greatest integer of 64 bits are rounded alike. -/
theorem ofInt_maxValue : ofInt Int64.maxValue.toInt = ofInt (Int64.maxValue.toInt + 1) := by
  decide +kernel

end Binary64

end ControlProps
