import ControlProps.Binary64.Text

/-!
# Floats of JSON text

A reader of JSON does not round a decimal as a whole. It keeps the leading digits that fit 64 bits,
and multiplies the number nearest to them by a power of ten or divides it by one. Each of these
steps rounds, so what is read need not be the number that is nearest to the text.
-/

namespace ControlProps

/-- The rank nearest to the product of two finite magnitudes, which are given by their ranks. -/
def productRank (a b : Nat) : Nat :=
  nearestRank (unitsOfRank a * unitsOfRank b) (unitsPerOne * unitsPerOne)

/-- The rank nearest to the quotient of two finite magnitudes, the second of them not zero. -/
def quotientRank (a b : Nat) : Nat := nearestRank (unitsOfRank a) (unitsOfRank b)

namespace Decimal

/-- The greatest exponent of a power of ten that is finite. -/
def greatestPower : Nat := 308

/-- The rank nearest to a power of ten. -/
def powerRank (exponent : Nat) : Nat := ControlProps.nearestRank (Nat.pow 10 exponent) 1

/-- Digits joined to those before them as long as 64 bits hold the number, and the others. -/
def joinDigits (before : Nat) : List Char → Nat × List Char
  | [] => (before, [])
  | digit :: rest =>
    let joined := 10 * before + (digit.toNat - '0'.toNat)
    if joined < UInt64.size then joinDigits joined rest else (before, digit :: rest)

/--
The leading digits of a number, times a power of ten. Other digits before the point count as zeros,
and other digits behind it not at all.
-/
def ofLeadingDigits (whole fraction : List Char) (exponent : Int) : Decimal :=
  let (front, skipped) := joinDigits 0 whole
  let (coefficient, ignored) := joinDigits front fraction
  ⟨coefficient, exponent + skipped.length - (fraction.length - ignored.length)⟩

/-- A magnitude divided several times by the greatest power of ten, but no more once it is zero. -/
def dividedByGreatest : Nat → Nat → Nat
  | 0, rank => rank
  | count + 1, rank =>
    if rank = 0 then 0
    else dividedByGreatest count (quotientRank rank (powerRank greatestPower))

/-- The rank of the coefficient with its power of ten multiplied in; none if this is not finite. -/
def scaledRank? (d : Decimal) : Option Nat :=
  let rank := ControlProps.nearestRank d.coefficient 1
  let places := d.exponent.natAbs
  if d.exponent < 0 then
    let count := (places - 1) / greatestPower
    let divisor := powerRank (places - count * greatestPower)
    some (quotientRank (dividedByGreatest count rank) divisor)
  else if rank = 0 then some 0
  else if greatestPower < places then none
  else
    let product := productRank rank (powerRank places)
    if product < infinityRank then some product else none

end Decimal

end ControlProps
