import ControlProps.Proofs.Binary64.Integers
import Mathlib.Order.Monotone.Basic

/-!
# Rounding keeps the order

Magnitudes ascend with their ranks, and the nearest rank of a ratio is one of the two ranks between
which the ratio lies. So a ratio that does not exceed a magnitude is not rounded to a greater rank,
and one that reaches a magnitude is not rounded to a smaller rank.
-/

namespace ControlProps

/-- A significand of 53 bits, shifted up, is the magnitude of the rank that it stands for; so is the
first significand of the next binade. -/
theorem unitsOfRank_significand {shift significand : Nat}
    (hleast : 2 ^ 52 ≤ significand ∨ shift = 0) (hmost : significand ≤ 2 ^ 53) :
    unitsOfRank (shift * 2 ^ 52 + significand) = significand * 2 ^ shift := by
  by_cases hnext : significand = 2 ^ 53
  · have hspacing : spacing (shift * 2 ^ 52 + significand) = shift + 1 := by
      simp only [spacing, Nat.pow_eq]
      omega
    have hrest : shift * 2 ^ 52 + significand - (shift + 1) * 2 ^ 52 = 2 ^ 52 := by omega
    have hdouble : significand * 2 ^ shift = 2 ^ 52 * 2 ^ (shift + 1) := by
      rw [hnext, ← Nat.pow_add, ← Nat.pow_add]
      congr 1
      omega
    simp only [unitsOfRank, hspacing, Nat.pow_eq, hrest, hdouble]
  · have hspacing : spacing (shift * 2 ^ 52 + significand) = shift := by
      simp only [spacing, Nat.pow_eq]
      omega
    simp only [unitsOfRank, hspacing, Nat.pow_eq, Nat.add_sub_cancel_left]

/-- Each magnitude is less than the next one. -/
theorem unitsOfRank_lt_succ (rank : Nat) : unitsOfRank rank < unitsOfRank (rank + 1) := by
  have hleast : 2 ^ 52 ≤ rank - spacing rank * 2 ^ 52 ∨ spacing rank = 0 := by
    simp only [spacing, Nat.pow_eq]
    omega
  have hmost : rank - spacing rank * 2 ^ 52 < 2 ^ 53 := by
    simp only [spacing, Nat.pow_eq]
    omega
  have hrank : spacing rank * 2 ^ 52 + (rank - spacing rank * 2 ^ 52) = rank := by
    simp only [spacing, Nat.pow_eq]
    omega
  have hhere := unitsOfRank_significand hleast (Nat.le_of_lt hmost)
  have hnext := unitsOfRank_significand (hleast.imp_left Nat.le_succ_of_le) hmost
  rw [hrank] at hhere
  rw [Nat.succ_eq_add_one, ← Nat.add_assoc, hrank] at hnext
  rw [hhere, hnext]
  exact Nat.mul_lt_mul_of_pos_right (Nat.lt_succ_self _) (Nat.two_pow_pos _)

/-- Magnitudes ascend with their ranks. -/
theorem unitsOfRank_strictMono : StrictMono unitsOfRank :=
  strictMono_nat_of_lt_succ unitsOfRank_lt_succ

/-- Shifted down to its first 53 bits, a number keeps all of them, unless it has fewer. -/
theorem le_div_two_pow_log2 (n : Nat) : 2 ^ 52 ≤ n / 2 ^ (n.log2 - 52) ∨ n.log2 - 52 = 0 := by
  by_cases hbits : n.log2 ≤ 52
  · right
    omega
  · left
    have hne : n ≠ 0 := by
      rintro rfl
      simp at hbits
    rw [Nat.le_div_iff_mul_le (Nat.two_pow_pos _), ← Nat.pow_add, ← Nat.le_log2 hne]
    omega

/-- A ratio lies between the magnitudes of two ranks that follow each other, and the nearest rank is
one of these, the upper one only if the ratio exceeds the lower magnitude. -/
theorem nearestRank_cases (numerator : Nat) {denominator : Nat} (hpos : 0 < denominator) :
    ∃ rank, unitsOfRank rank * denominator ≤ numerator * unitsPerOne ∧
      numerator * unitsPerOne < unitsOfRank (rank + 1) * denominator ∧
      (nearestRank numerator denominator = rank ∨
        nearestRank numerator denominator = rank + 1 ∧
          unitsOfRank rank * denominator < numerator * unitsPerOne) := by
  simp only [nearestRank, Nat.pow_eq]
  generalize numerator * unitsPerOne = scaled
  have hmost := div_two_pow_log2_lt (scaled / denominator)
  have hleast := le_div_two_pow_log2 (scaled / denominator)
  generalize (scaled / denominator).log2 - 52 = shift at *
  rw [Nat.div_div_eq_div_mul] at hmost hleast
  have hstep : 0 < denominator * 2 ^ shift := Nat.mul_pos hpos (Nat.two_pow_pos shift)
  have hsplit := Nat.div_add_mod scaled (denominator * 2 ^ shift)
  have hexcess := Nat.mod_lt scaled hstep
  generalize scaled / (denominator * 2 ^ shift) = below at *
  generalize scaled % (denominator * 2 ^ shift) = excess at *
  have hlower : unitsOfRank (shift * 2 ^ 52 + below) * denominator =
      denominator * 2 ^ shift * below := by
    rw [unitsOfRank_significand hleast (Nat.le_of_lt hmost), Nat.mul_comm, Nat.mul_comm below,
      Nat.mul_assoc]
  have hupper : unitsOfRank (shift * 2 ^ 52 + below + 1) * denominator =
      denominator * 2 ^ shift * below + denominator * 2 ^ shift := by
    rw [Nat.add_assoc, unitsOfRank_significand (hleast.imp_left Nat.le_succ_of_le) hmost,
      Nat.mul_comm, Nat.mul_comm (below + 1), ← Nat.mul_assoc, Nat.mul_succ]
  refine ⟨shift * 2 ^ 52 + below, by omega, by omega, ?_⟩
  split
  · rename_i hup
    -- the next rank is taken only for an excess of at least half a step
    have hhalf : denominator * 2 ^ shift ≤ 2 * excess := by
      simp only [Bool.or_eq_true, decide_eq_true_eq, Bool.and_eq_true, beq_iff_eq] at hup
      omega
    exact .inr ⟨(Nat.add_assoc _ _ _).symm, by omega⟩
  · exact .inl rfl

/-- What does not exceed a magnitude is not rounded to a greater rank. -/
theorem nearestRank_le {numerator denominator rank : Nat} (hpos : 0 < denominator)
    (hle : numerator * unitsPerOne ≤ unitsOfRank rank * denominator) :
    nearestRank numerator denominator ≤ rank := by
  obtain ⟨lower, hlower, _, hnearest⟩ := nearestRank_cases numerator hpos
  rcases hnearest with hsame | ⟨hnext, hmore⟩
  · rw [hsame, ← unitsOfRank_strictMono.le_iff_le]
    exact Nat.le_of_mul_le_mul_right (Nat.le_trans hlower hle) hpos
  · rw [hnext, Nat.succ_le_iff, ← unitsOfRank_strictMono.lt_iff_lt]
    exact Nat.lt_of_mul_lt_mul_right (Nat.lt_of_lt_of_le hmore hle)

/-- What reaches a magnitude is not rounded to a smaller rank. -/
theorem le_nearestRank {numerator denominator rank : Nat} (hpos : 0 < denominator)
    (hle : unitsOfRank rank * denominator ≤ numerator * unitsPerOne) :
    rank ≤ nearestRank numerator denominator := by
  obtain ⟨lower, _, hupper, hnearest⟩ := nearestRank_cases numerator hpos
  have hrank : rank ≤ lower := by
    rw [← Nat.lt_succ_iff, ← unitsOfRank_strictMono.lt_iff_lt]
    exact Nat.lt_of_mul_lt_mul_right (Nat.lt_of_le_of_lt hle hupper)
  rcases hnearest with hsame | ⟨hnext, _⟩ <;> omega

end ControlProps
