import ControlProps.Json.Reader
import ControlProps.Proofs.Binary64.Decimals
import ControlProps.Proofs.Binary64.Extent

/-!
# Floats that are read as the nearest number

A reader of JSON rounds the digits of a float and its power of ten before it multiplies them. Digits
of 53 bits are a number themselves, and so are the powers of ten up to `10 ^ 22`. With these only
the last step rounds, and what is read is the number that is nearest to the text.
-/

namespace ControlProps

section Steps

variable {m n : Nat}

/-- Whether a natural number is a magnitude, so that it is rounded to itself. -/
def IsMagnitude (n : Nat) : Prop := ∃ rank, unitsOfRank rank = n * unitsPerOne

/-- A magnitude is rounded to its own rank. -/
theorem IsMagnitude.unitsOfRank_nearestRank (hn : IsMagnitude n) :
    unitsOfRank (nearestRank n 1) = n * unitsPerOne := by
  obtain ⟨rank, hrank⟩ := hn
  rw [nearestRank_of_exact Nat.one_pos (by rw [hrank, Nat.mul_one]), hrank]

/-- Of the magnitudes only zero is rounded to zero. -/
theorem IsMagnitude.nearestRank_eq_zero_iff (hn : IsMagnitude n) : nearestRank n 1 = 0 ↔ n = 0 := by
  rw [← unitsOfRank_eq_zero_iff, hn.unitsOfRank_nearestRank, Nat.mul_eq_zero,
    or_iff_left (Nat.ne_of_gt unitsPerOne_pos)]

/-- Up to 53 bits, natural numbers are magnitudes. -/
theorem isMagnitude_of_le (hn : n ≤ 2 ^ 53) : IsMagnitude n := exists_unitsOfRank_eq hn

/-- The first powers of ten are magnitudes: without their factors of two they have up to 53 bits. -/
theorem isMagnitude_ten_pow {places : Nat} (hplaces : places ≤ 22) : IsMagnitude (10 ^ places) := by
  have hodd : 5 ^ places ≤ 2 ^ 53 :=
    Nat.le_trans (Nat.pow_le_pow_right (by decide) hplaces) (by decide)
  have hten : 10 ^ places = 5 ^ places * 2 ^ places := Nat.mul_pow 5 2 places
  obtain ⟨shift, hshift⟩ : ∃ shift, unitsPerOne = 2 ^ shift := ⟨1074, by decide +kernel⟩
  obtain ⟨rank, hrank⟩ := exists_unitsOfRank_eq_shifted hodd (places + shift)
  refine ⟨rank, ?_⟩
  rw [hrank, hshift, hten, Nat.pow_add, Nat.mul_assoc]

/-- The product of two magnitudes is rounded once. -/
theorem productRank_nearestRank (hm : IsMagnitude m) (hn : IsMagnitude n) :
    productRank (nearestRank m 1) (nearestRank n 1) = nearestRank (m * n) 1 := by
  have hpos : 0 < unitsPerOne * unitsPerOne := Nat.mul_pos unitsPerOne_pos unitsPerOne_pos
  rw [productRank, hm.unitsOfRank_nearestRank, hn.unitsOfRank_nearestRank,
    Nat.mul_mul_mul_comm, ← nearestRank_mul_right (m * n) 1 hpos, Nat.one_mul]

/-- The quotient of two magnitudes is rounded once. -/
theorem quotientRank_nearestRank (hm : IsMagnitude m) (hn : IsMagnitude n) :
    quotientRank (nearestRank m 1) (nearestRank n 1) = nearestRank m n := by
  rw [quotientRank, hm.unitsOfRank_nearestRank, hn.unitsOfRank_nearestRank,
    nearestRank_mul_right m n unitsPerOne_pos]

/-- Zero is rounded to zero. -/
theorem nearestRank_zero (n : Nat) : nearestRank 0 n = 0 := by
  simp [nearestRank]

end Steps

namespace Decimal

/-- Digits of 53 bits with a small power of ten are far from infinity. -/
theorem nearestRank_lt_infinityRank {coefficient places : Nat} (hdigits : coefficient ≤ 2 ^ 53)
    (hplaces : places ≤ 22) :
    ControlProps.nearestRank (coefficient * 10 ^ places) 1 < infinityRank := by
  have hmost : coefficient * 10 ^ places ≤ 2 ^ 53 * 10 ^ 22 :=
    Nat.mul_le_mul hdigits (Nat.pow_le_pow_right (by decide) hplaces)
  have hfinite : 2 ^ 53 * 10 ^ 22 * unitsPerOne ≤ unitsOfRank (infinityRank - 1) := by
    decide +kernel
  have hle : coefficient * 10 ^ places * unitsPerOne ≤ unitsOfRank (infinityRank - 1) * 1 := by
    rw [Nat.mul_one]
    exact Nat.le_trans (Nat.mul_le_mul_right _ hmost) hfinite
  have hpos : 0 < infinityRank := by decide
  exact Nat.lt_of_le_of_lt (nearestRank_le Nat.one_pos hle) (Nat.sub_lt hpos Nat.one_pos)

/-- Digits of 53 bits with a small power of ten are rounded as a ratio or an integer. -/
theorem nearestRank_of_le {coefficient : Nat} {exponent : Int} (hdigits : coefficient ≤ 2 ^ 53)
    (hplaces : exponent.natAbs ≤ 22) :
    (Decimal.mk coefficient exponent).nearestRank =
      if exponent < 0 then ControlProps.nearestRank coefficient (10 ^ exponent.natAbs)
      else ControlProps.nearestRank (coefficient * 10 ^ exponent.natAbs) 1 := by
  have hcount : digitCount coefficient ≤ 16 :=
    digitCount_le_iff.mpr (Nat.lt_of_le_of_lt hdigits (by decide))
  have hleast : ¬exponent + digitCount coefficient ≤ -324 := by omega
  have hmost : ¬310 ≤ exponent + digitCount coefficient := by omega
  simp only [nearestRank, hleast, or_false, if_neg hmost, Nat.pow_eq]
  by_cases hzero : coefficient = 0
  · rw [if_pos hzero, hzero, Nat.zero_mul, nearestRank_zero, nearestRank_zero, ite_self]
  · rw [if_neg hzero]
    by_cases hnegative : exponent < 0
    · have htoNat : (-exponent).toNat = exponent.natAbs := by omega
      rw [if_neg (by omega : ¬0 ≤ exponent), if_pos hnegative, htoNat]
    · have htoNat : exponent.toNat = exponent.natAbs := by omega
      rw [if_pos (by omega : 0 ≤ exponent), if_neg hnegative, htoNat]

/-- Digits of 53 bits with a small power of ten are not rounded before the last step. -/
theorem scaledRank?_of_le {d : Decimal} (hdigits : d.coefficient ≤ 2 ^ 53)
    (hplaces : d.exponent.natAbs ≤ 22) : d.scaledRank? = some d.nearestRank := by
  obtain ⟨coefficient, exponent⟩ := d
  dsimp only at hdigits hplaces
  have hcoefficient : IsMagnitude coefficient := isMagnitude_of_le hdigits
  have hpower : IsMagnitude (10 ^ exponent.natAbs) := isMagnitude_ten_pow hplaces
  simp only [nearestRank_of_le hdigits hplaces, scaledRank?, powerRank, Nat.pow_eq]
  by_cases hnegative : exponent < 0
  · have hsteps : (exponent.natAbs - 1) / greatestPower = 0 :=
      Nat.div_eq_of_lt (by rw [greatestPower]; omega)
    rw [if_pos hnegative, if_pos hnegative, hsteps, Nat.zero_mul, Nat.sub_zero, dividedByGreatest,
      quotientRank_nearestRank hcoefficient hpower]
  · have hpossible : ¬greatestPower < exponent.natAbs := by
      rw [greatestPower]
      omega
    have hfinite := nearestRank_lt_infinityRank hdigits hplaces
    rw [if_neg hnegative, if_neg hnegative, if_neg hpossible]
    simp only [productRank_nearestRank hcoefficient hpower, if_pos hfinite]
    split
    · rename_i hzero
      rw [hcoefficient.nearestRank_eq_zero_iff.mp hzero, Nat.zero_mul, nearestRank_zero]
    · rfl

/-- The value of digits behind those that have a value already. -/
def valueBehind (before : Nat) (digits : List Char) : Nat :=
  digits.foldl (fun value digit => 10 * value + (digit.toNat - '0'.toNat)) before

/-- More digits do not make a value smaller. -/
theorem le_valueBehind (before : Nat) (digits : List Char) :
    before ≤ valueBehind before digits := by
  induction digits generalizing before with
  | nil => exact Nat.le_refl before
  | cons digit rest ih =>
    have hstep : before ≤ 10 * before + (digit.toNat - '0'.toNat) := by omega
    exact Nat.le_trans hstep (ih _)

/-- All digits are joined if 64 bits hold their value. -/
theorem joinDigits_of_lt {before : Nat} {digits : List Char}
    (hsize : valueBehind before digits < UInt64.size) :
    joinDigits before digits = (valueBehind before digits, []) := by
  induction digits generalizing before with
  | nil => rfl
  | cons digit rest ih =>
    have hjoined := Nat.lt_of_le_of_lt (le_valueBehind _ rest) hsize
    rw [joinDigits, if_pos hjoined]
    exact ih hsize

/-- No digit is left out if 64 bits hold their value. -/
theorem ofLeadingDigits_of_lt {whole fraction : List Char} (exponent : Int)
    (hsize : digitsValue (whole ++ fraction) < UInt64.size) :
    ofLeadingDigits whole fraction exponent = ofDigits whole fraction exponent := by
  have hvalue : digitsValue (whole ++ fraction) = valueBehind (valueBehind 0 whole) fraction :=
    List.foldl_append
  rw [hvalue] at hsize
  have hfront := joinDigits_of_lt (Nat.lt_of_le_of_lt (le_valueBehind _ fraction) hsize)
  simp [ofLeadingDigits, ofDigits, hfront, joinDigits_of_lt hsize, hvalue]

end Decimal

/-- A float of up to 53 bits with up to 22 places is read as the number nearest to its text. -/
theorem finishFloat_of_le {whole fraction : List Char} {exponent : Int} (negative : Bool)
    (cursor : Cursor) (overflow : Position) (hdigits : digitsValue (whole ++ fraction) ≤ 2 ^ 53)
    (hplaces : (exponent - fraction.length).natAbs ≤ 22) :
    finishFloat negative (.ofLeadingDigits whole fraction exponent) cursor overflow =
      .ok (.float (.ofDecimal negative (.ofDigits whole fraction exponent)), cursor) := by
  have hsize : digitsValue (whole ++ fraction) < UInt64.size :=
    Nat.lt_of_le_of_lt hdigits (by decide)
  have hrank : (Decimal.ofDigits whole fraction exponent).scaledRank? =
      some (Decimal.ofDigits whole fraction exponent).nearestRank :=
    Decimal.scaledRank?_of_le hdigits hplaces
  rw [Decimal.ofLeadingDigits_of_lt exponent hsize, finishFloat, hrank, Binary64.ofDecimal]

/-- With more digits what is read may be a neighbour of the nearest number. -/
example : (Decimal.mk 51248178375505404 (-15)).scaledRank? =
    some ((Decimal.mk 51248178375505404 (-15)).nearestRank + 1) := by
  decide +kernel

end ControlProps
