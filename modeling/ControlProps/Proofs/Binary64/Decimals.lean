import ControlProps.Binary64.Shortest
import ControlProps.Proofs.Binary64.Integers

/-!
# Decimals among the numbers

The nearest rank of a decimal depends on its value alone, not on the zeros at the end of its
coefficient. The shortest decimal of a finite magnitude has that magnitude's rank: a candidate is
taken only if it does, and where there is none the exact expansion is.
-/

namespace ControlProps

/-- Rounding a ratio depends on its value only. -/
theorem nearestRank_mul_right (numerator denominator : Nat) {factor : Nat} (hfactor : 0 < factor) :
    nearestRank (numerator * factor) (denominator * factor) =
      nearestRank numerator denominator := by
  have hscaled : numerator * factor * unitsPerOne = numerator * unitsPerOne * factor :=
    Nat.mul_right_comm _ _ _
  have hratio : numerator * unitsPerOne * factor / (denominator * factor) =
      numerator * unitsPerOne / denominator := Nat.mul_div_mul_right _ _ hfactor
  simp only [nearestRank, hscaled, hratio]
  generalize (numerator * unitsPerOne / denominator).log2 - 52 = shift
  have hstep : denominator * factor * Nat.pow 2 shift = denominator * Nat.pow 2 shift * factor :=
    Nat.mul_right_comm _ _ _
  simp only [hstep, Nat.mul_div_mul_right _ _ hfactor, Nat.mul_mod_mul_right]
  generalize numerator * unitsPerOne % (denominator * Nat.pow 2 shift) = excess
  generalize denominator * Nat.pow 2 shift = step
  -- the comparison of the excess with the step is scaled on both sides
  have hexcess : 2 * (excess * factor) = 2 * excess * factor := (Nat.mul_assoc _ _ _).symm
  have hlt : step * factor < 2 * excess * factor ↔ step < 2 * excess :=
    Nat.mul_lt_mul_right hfactor
  have heq : (2 * excess * factor == step * factor) = (2 * excess == step) := by
    rw [Bool.eq_iff_iff, beq_iff_eq, beq_iff_eq, Nat.mul_left_inj (Nat.ne_of_gt hfactor)]
  simp only [hexcess, hlt, heq]

/-- A finite magnitude has less than `2 ^ 2098` units. -/
theorem unitsOfRank_lt {rank : Nat} (hrank : rank < infinityRank) :
    unitsOfRank rank < 2 ^ 2098 := by
  by_cases hfirst : rank < 2 ^ 52
  · rw [unitsOfRank_of_lt hfirst]
    have hpower : 2 ^ 52 < 2 ^ 2098 := by decide +kernel
    exact Nat.lt_trans hfirst hpower
  · obtain ⟨significand, _, _, hmost, hunits⟩ := exists_significand (Nat.le_of_not_lt hfirst)
    have hspacing : spacing rank ≤ 2045 := by
      simp only [infinityRank, spacing, Nat.pow_eq] at hrank ⊢
      omega
    calc unitsOfRank rank = significand * 2 ^ spacing rank := hunits
      _ < 2 ^ 53 * 2 ^ spacing rank := Nat.mul_lt_mul_of_pos_right hmost (Nat.two_pow_pos _)
      _ ≤ 2 ^ 53 * 2 ^ 2045 := Nat.mul_le_mul_left _ (Nat.pow_le_pow_right (by decide) hspacing)
      _ ≤ 2 ^ 2098 := by decide +kernel

namespace Decimal

/-- Numbers below a power of ten have no more digits than that power has zeros. -/
theorem digitCount_le_iff {n count : Nat} : digitCount n ≤ count ↔ n < 10 ^ count := by
  unfold digitCount
  split
  · rename_i hzero
    subst hzero
    simp only [Nat.zero_le, true_iff]
    exact Nat.pow_pos (by decide)
  · rename_i hne
    cases count with
    | zero =>
      have hpos : 0 < (Nat.toDigits 10 n).length := Nat.length_toDigits_pos
      simp only [Nat.pow_zero]
      omega
    | succ count => exact Nat.length_toDigits_le_iff (by decide) (Nat.succ_pos count)

/-- Each factor of ten adds a digit. -/
theorem digitCount_mul_pow {n : Nat} (hn : n ≠ 0) (zeros : Nat) :
    digitCount (n * 10 ^ zeros) = digitCount n + zeros := by
  have hpow : 0 < 10 ^ zeros := Nat.pow_pos (by decide)
  have hshift (count : Nat) :
      digitCount (n * 10 ^ zeros) ≤ count + zeros ↔ digitCount n ≤ count := by
    rw [digitCount_le_iff, digitCount_le_iff, Nat.pow_add, Nat.mul_lt_mul_right hpow]
  have hzeros : zeros ≤ digitCount (n * 10 ^ zeros) := by
    refine Nat.le_of_not_lt fun hless => ?_
    have hlt := digitCount_le_iff.mp (Nat.le_of_lt hless)
    have hle : 10 ^ zeros ≤ n * 10 ^ zeros := Nat.le_mul_of_pos_left _ (Nat.pos_of_ne_zero hn)
    exact absurd hlt (Nat.not_lt.mpr hle)
  have hupper := (hshift (digitCount n)).mpr (Nat.le_refl _)
  have hlower := (hshift (digitCount (n * 10 ^ zeros) - zeros)).mp (by omega)
  omega

/-- Zeros at the end of the coefficient may be counted in the exponent. -/
theorem nearestRank_mul_pow (coefficient zeros : Nat) (exponent : Int) :
    (Decimal.mk (coefficient * 10 ^ zeros) exponent).nearestRank =
      (Decimal.mk coefficient (exponent + zeros)).nearestRank := by
  by_cases hzero : coefficient = 0
  · simp [nearestRank, hzero]
  have hpow (count : Nat) : 0 < 10 ^ count := Nat.pow_pos (by decide)
  have hproduct : coefficient * 10 ^ zeros ≠ 0 :=
    Nat.mul_ne_zero hzero (Nat.ne_of_gt (hpow zeros))
  have hleading : exponent + (digitCount (coefficient * 10 ^ zeros) : Nat) =
      exponent + zeros + digitCount coefficient := by
    rw [digitCount_mul_pow hzero]
    omega
  simp only [nearestRank, hleading, hproduct, hzero, false_or, Nat.pow_eq]
  congr 2
  by_cases hexponent : 0 ≤ exponent
  · have hsum : (exponent + zeros).toNat = zeros + exponent.toNat := by omega
    rw [if_pos hexponent, if_pos (by omega), hsum, Nat.pow_add, Nat.mul_assoc]
  · rw [if_neg hexponent]
    -- the zeros may or may not make up for the places after the point
    by_cases hsum : 0 ≤ exponent + zeros
    · have hzeros : zeros = (exponent + zeros).toNat + (-exponent).toNat := by omega
      have hproduct : coefficient * 10 ^ zeros =
          coefficient * 10 ^ (exponent + zeros).toNat * 10 ^ (-exponent).toNat := by
        rw [Nat.mul_assoc, ← Nat.pow_add, ← hzeros]
      rw [if_pos hsum, hproduct, ← nearestRank_mul_right _ 1 (hpow (-exponent).toNat),
        Nat.one_mul]
    · have hplaces : (-exponent).toNat = (-(exponent + zeros)).toNat + zeros := by omega
      rw [if_neg hsum, hplaces, Nat.pow_add, nearestRank_mul_right _ _ (hpow zeros)]

/-- Between the bounds a decimal with places after the point is rounded as a ratio. -/
theorem nearestRank_of_places {coefficient places : Nat} (hcoefficient : coefficient ≠ 0)
    (hplaces : 0 < places) (hleast : places < digitCount coefficient + 324)
    (hmost : digitCount coefficient < places + 310) :
    (Decimal.mk coefficient (-places)).nearestRank =
      ControlProps.nearestRank coefficient (10 ^ places) := by
  simp only [nearestRank, Int.neg_neg, Int.toNat_natCast]
  rw [if_neg (by omega), if_neg (by omega), if_neg (by omega)]
  rfl

/-- Trimming zeros does not change what a decimal is rounded to. -/
theorem trimmed_nearestRank (fuel : Nat) (d : Decimal) :
    (d.trimmed fuel).nearestRank = d.nearestRank := by
  induction fuel generalizing d with
  | zero => rfl
  | succ fuel ih =>
    unfold trimmed
    split
    · rename_i hends
      have hcoefficient : d.coefficient / 10 * 10 ^ 1 = d.coefficient := by omega
      have hstep := nearestRank_mul_pow (d.coefficient / 10) 1 d.exponent
      rw [hcoefficient] at hstep
      rw [ih]
      exact hstep.symm
    · rfl

/-- A decimal that was chosen next to a magnitude reads back. -/
theorem neighbour?_nearestRank {tie : DecimalTie} {rank : Nat} {exponent : Int} {d : Decimal}
    (hchosen : neighbour? tie rank exponent = some d) : d.nearestRank = rank := by
  have hreads := List.find?_some hchosen
  exact eq_of_beq hreads

/-- The exact expansion of a finite magnitude reads back. -/
theorem exact_nearestRank {rank : Nat} (hpos : rank ≠ 0) (hfinite : rank < infinityRank) :
    (exact rank).nearestRank = rank := by
  have hunits : unitsOfRank rank ≠ 0 := fun h => hpos (unitsOfRank_eq_zero_iff.mp h)
  have hfive : 0 < Nat.pow 5 1074 := by decide +kernel
  have hten : 0 < 10 ^ 1074 := by decide +kernel
  have hpowers : Nat.pow 5 1074 * unitsPerOne = 10 ^ 1074 := by decide +kernel
  have hleast : ¬digitCount (unitsOfRank rank * Nat.pow 5 1074) ≤ 750 := by
    have hpower : 10 ^ 750 ≤ Nat.pow 5 1074 := by decide +kernel
    rw [digitCount_le_iff, Nat.not_lt]
    exact Nat.le_trans hpower (Nat.le_mul_of_pos_left _ (Nat.pos_of_ne_zero hunits))
  have hmost : digitCount (unitsOfRank rank * Nat.pow 5 1074) ≤ 1383 := by
    have hpower : 2 ^ 2098 * Nat.pow 5 1074 < 10 ^ 1383 := by decide +kernel
    rw [digitCount_le_iff]
    exact Nat.lt_trans (Nat.mul_lt_mul_of_pos_right (unitsOfRank_lt hfinite) hfive) hpower
  have hcoefficient : unitsOfRank rank * Nat.pow 5 1074 ≠ 0 :=
    Nat.mul_ne_zero hunits (Nat.ne_of_gt hfive)
  have hexact : unitsOfRank rank * Nat.pow 5 1074 * unitsPerOne = unitsOfRank rank * 10 ^ 1074 := by
    rw [Nat.mul_assoc, hpowers]
  have hratio : (Decimal.mk (unitsOfRank rank * Nat.pow 5 1074) (-(1074 : Nat))).nearestRank =
      ControlProps.nearestRank (unitsOfRank rank * Nat.pow 5 1074) (10 ^ 1074) :=
    nearestRank_of_places hcoefficient (by decide) (by omega) (by omega)
  rw [nearestRank_of_exact hten hexact] at hratio
  exact hratio

/-- The shortest decimal of a finite magnitude reads back. -/
theorem shortest_nearestRank (tie : DecimalTie) {rank : Nat} (hfinite : rank < infinityRank) :
    (shortest tie rank).nearestRank = rank := by
  unfold shortest
  split
  · rename_i hzero
    simp [nearestRank, hzero]
  · rename_i hpos
    rw [trimmed_nearestRank]
    cases hfound : (List.range 17).findSome? fun (more : Nat) =>
        neighbour? tie rank (leadingExponent (unitsOfRank rank) - more) with
    | none => exact exact_nearestRank hpos hfinite
    | some d =>
      obtain ⟨_, _, hchosen⟩ := List.exists_of_findSome?_eq_some hfound
      exact neighbour?_nearestRank hchosen

end Decimal

end ControlProps
