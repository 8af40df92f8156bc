import ControlProps.Binary64.Rounding

/-!
# The shortest decimal that reads back

For one digit, two digits, and so on, the two decimals of that many digits around a magnitude
are read back; the first digit count at which one of them gives the magnitude again is used.
Where both do, the nearer one is taken. What is chosen reads back by construction.
-/

namespace ControlProps

/-- Which of two equally near decimals is chosen. -/
inductive DecimalTie where
  | toEven
  | upward
  deriving DecidableEq

namespace Decimal

/-- How many more digits after the point are needed until the value reaches one. -/
def leadingZeros (units : Nat) : Nat → Nat
  | 0 => 0
  | fuel + 1 => if unitsPerOne ≤ units then 0 else leadingZeros (units * 10) fuel + 1

/-- The exponent of the first digit of a positive magnitude. -/
def leadingExponent (units : Nat) : Int :=
  if unitsPerOne ≤ units then (digitCount (units / unitsPerOne) : Int) - 1
  else -(leadingZeros units 400 : Int)

/-- The same decimal without trailing zeros in its coefficient. -/
def trimmed (d : Decimal) : Nat → Decimal
  | 0 => d
  | fuel + 1 =>
    if d.coefficient ≠ 0 ∧ d.coefficient % 10 = 0 then
      trimmed ⟨d.coefficient / 10, d.exponent + 1⟩ fuel
    else d

/-- Of the two decimals around a magnitude with last digit at `10 ^ exponent`, the one chosen. -/
def neighbour? (tie : DecimalTie) (rank : Nat) (exponent : Int) : Option Decimal :=
  let numerator := unitsOfRank rank * Nat.pow 10 (-exponent).toNat
  let denominator := unitsPerOne * Nat.pow 10 exponent.toNat
  let below : Decimal := ⟨numerator / denominator, exponent⟩
  let above : Decimal := ⟨numerator / denominator + 1, exponent⟩
  let excess := 2 * (numerator % denominator)
  let preferAbove := denominator < excess ||
    (excess == denominator && (tie = .upward || below.coefficient % 2 == 1))
  let candidates := if preferAbove then [above, below] else [below, above]
  candidates.find? (fun d => d.nearestRank == rank)

/-- The exact decimal expansion of a magnitude. -/
def exact (rank : Nat) : Decimal := ⟨unitsOfRank rank * Nat.pow 5 1074, -1074⟩

/-- The shortest decimal that reads back to the magnitude of a finite rank. -/
def shortest (tie : DecimalTie) (rank : Nat) : Decimal :=
  if rank = 0 then ⟨0, 0⟩ else
    let leading := leadingExponent (unitsOfRank rank)
    let found := (List.range 17).findSome? fun (more : Nat) => neighbour? tie rank (leading - more)
    (found.getD (exact rank)).trimmed 2000

end Decimal

end ControlProps
