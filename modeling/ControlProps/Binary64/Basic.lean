/-!
# Binary64 numbers

The magnitudes of the format, in ascending order from zero to infinity, are numbered
0, 1, 2, …. This number, the rank, carries the order; the value follows from it: every
finite magnitude is a whole multiple of the least positive one, `2 ^ (-1074)`.
-/

namespace ControlProps

/-- The rank of infinity; every smaller rank is a finite magnitude. -/
def infinityRank : Nat := 0x7FF * Nat.pow 2 52

/-- A number of the binary64 format: not a number, or a sign with the rank of a magnitude. -/
inductive Binary64 where
  | nan
  | signed (negative : Bool) (rank : Fin (infinityRank + 1))
  deriving DecidableEq

/-- How many of the least positive magnitudes make one. -/
def unitsPerOne : Nat := Nat.pow 2 1074

/-- The magnitudes of one binade are `2 ^ spacing rank` least magnitudes apart. -/
def spacing (rank : Nat) : Nat := rank / Nat.pow 2 52 - 1

/-- The magnitude of a rank, counted in least positive magnitudes. -/
def unitsOfRank (rank : Nat) : Nat :=
  (rank - spacing rank * Nat.pow 2 52) * Nat.pow 2 (spacing rank)

namespace Binary64

/-- Positive zero. -/
def zero : Binary64 := signed false 0

/-- The number of the same magnitude and the other sign. -/
def negate : Binary64 → Binary64
  | nan => nan
  | signed negative rank => signed (!negative) rank

/-- The infinity of the given sign. -/
def infinity (negative : Bool) : Binary64 := signed negative (Fin.last infinityRank)

/-- The magnitude of the given rank, or infinity where the ranks end. -/
def ofRank (negative : Bool) (rank : Nat) : Binary64 :=
  if h : rank < infinityRank + 1 then signed negative ⟨rank, h⟩ else infinity negative

/-- Neither an infinity nor not a number. -/
def isFinite : Binary64 → Bool
  | nan => false
  | signed _ rank => rank.val < infinityRank

/-- Where a number stands in the order: both zeros at 0, the infinities at the two ends. -/
def place? : Binary64 → Option Int
  | nan => none
  | signed negative rank => some (if negative then -(rank.val : Int) else rank.val)

/-- Numeric equality: the zeros are equal, and not a number equals nothing. -/
def equals (x y : Binary64) : Bool :=
  match x.place?, y.place? with
  | some a, some b => a == b
  | _, _ => false

/-- Numeric order; not a number is neither below nor above anything. -/
def isBelow (x y : Binary64) : Bool :=
  match x.place?, y.place? with
  | some a, some b => a < b
  | _, _ => false

/-- The exact value of a finite number, counted in least positive magnitudes. -/
def units? : Binary64 → Option Int
  | nan => none
  | signed negative rank =>
    if rank.val < infinityRank then
      some (if negative then -(unitsOfRank rank : Int) else unitsOfRank rank)
    else none

/-- The integer that a number is equal to, if there is one. -/
def integer? (x : Binary64) : Option Int :=
  x.units?.bind fun units =>
    if units % unitsPerOne = 0 then some (units / unitsPerOne) else none

end Binary64

end ControlProps
