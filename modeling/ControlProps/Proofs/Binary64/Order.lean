import ControlProps.Binary64.Basic

/-!
# Order and equality of numbers

Equality and order look at places only. So equal numbers, which may differ in the sign of zero, are
below and above the same numbers.
-/

namespace ControlProps.Binary64

/-- Equal numbers stand at the same place in the order. -/
theorem place?_eq_of_equals {x y : Binary64} (hequals : x.equals y = true) :
    x.place? = y.place? := by
  cases hx : x.place? with
  | none => simp [equals, hx] at hequals
  | some a =>
    cases hy : y.place? with
    | none => simp [equals, hx, hy] at hequals
    | some b =>
      have hab : a = b := by simpa [equals, hx, hy] using hequals
      rw [hab]

/-- Numeric equality is symmetric. -/
theorem equals_comm (x y : Binary64) : x.equals y = y.equals x := by
  unfold equals
  cases x.place? with
  | none => cases y.place? <;> rfl
  | some a =>
    cases y.place? with
    | none => rfl
    | some b => exact BEq.comm

/-- What equals one of two equal numbers equals the other. -/
theorem equals_congr_right {x y z : Binary64} (hequals : y.equals z = true) :
    x.equals y = x.equals z := by
  rw [equals, equals, place?_eq_of_equals hequals]

/-- What is below one of two equal numbers is below the other. -/
theorem isBelow_congr_right {x y z : Binary64} (hequals : y.equals z = true) :
    x.isBelow y = x.isBelow z := by
  rw [isBelow, isBelow, place?_eq_of_equals hequals]

/-- What is above one of two equal numbers is above the other. -/
theorem isBelow_congr_left {x y z : Binary64} (hequals : x.equals y = true) :
    x.isBelow z = y.isBelow z := by
  rw [isBelow, isBelow, place?_eq_of_equals hequals]

end ControlProps.Binary64
