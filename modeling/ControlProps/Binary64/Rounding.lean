import ControlProps.Binary64.Basic

/-!
# Rounding to the nearest number

Ratios, integers and decimals are rounded to the nearest binary64 number; a value half way
between two neighbours goes to the one of even rank, and a value beyond the finite numbers to
infinity. All arithmetic is exact.
-/

namespace ControlProps

/-- The rank nearest to `numerator / denominator`, a half going to the even rank. -/
def nearestRank (numerator denominator : Nat) : Nat :=
  let scaled := numerator * unitsPerOne
  let shift := (scaled / denominator).log2 - 52
  let step := denominator * Nat.pow 2 shift
  let below := scaled / step
  let excess := 2 * (scaled % step)
  let roundsUp := step < excess || (excess == step && below % 2 == 1)
  shift * Nat.pow 2 52 + (if roundsUp then below + 1 else below)

/-- A decimal `coefficient * 10 ^ exponent`. -/
structure Decimal where
  coefficient : Nat
  exponent : Int
  deriving DecidableEq

namespace Decimal

/-- The number of decimal digits; zero has none. -/
def digitCount (n : Nat) : Nat := if n = 0 then 0 else (Nat.toDigits 10 n).length

/--
The nearest rank. Decimals from `10 ^ 309` on exceed every finite number, and those below
`10 ^ (-324)` are nearer to zero than to the least positive magnitude.
-/
def nearestRank (d : Decimal) : Nat :=
  let leading := d.exponent + digitCount d.coefficient
  if d.coefficient = 0 ∨ leading ≤ -324 then 0
  else if 310 ≤ leading then infinityRank
  else if 0 ≤ d.exponent then
    ControlProps.nearestRank (d.coefficient * Nat.pow 10 d.exponent.toNat) 1
  else ControlProps.nearestRank d.coefficient (Nat.pow 10 (-d.exponent).toNat)

end Decimal

namespace Binary64

/-- The nearest number to an integer. -/
def ofInt (i : Int) : Binary64 := ofRank (i < 0) (nearestRank i.natAbs 1)

/-- The nearest number to a decimal of the given sign. -/
def ofDecimal (negative : Bool) (d : Decimal) : Binary64 := ofRank negative d.nearestRank

instance (n : Nat) : OfNat Binary64 n := ⟨ofInt n⟩

end Binary64

end ControlProps
