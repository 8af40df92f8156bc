import ControlProps.Proofs.Binary64.Order
import ControlProps.Proofs.Binary64.Rounding

/-!
# Exact values

A number that is one has an exact value: a whole number of least positive magnitudes, or an end of
the scale. Numbers compare as their exact values do. An integer is rounded before it is compared;
rounding keeps the order, so the only number that it can be taken for is the nearest one.
-/

namespace ControlProps

/-- An exact value: an end of the scale, or how many of the least positive magnitudes it is. -/
inductive Extent where
  | negativeInfinity
  | units (count : Int)
  | infinity
  deriving DecidableEq

namespace Extent

variable {a b : Extent} {m n : Int}

/-- The exact value of an integer. -/
def ofInt (i : Int) : Extent := units (i * unitsPerOne)

/-- The order of exact values, from one end of the scale to the other. -/
def isAtMost : Extent → Extent → Bool
  | negativeInfinity, _ => true
  | _, infinity => true
  | units m, units n => m ≤ n
  | _, _ => false

instance : LE Extent := ⟨fun a b => a.isAtMost b = true⟩

instance : LT Extent := ⟨fun a b => ¬b ≤ a⟩

instance (a b : Extent) : Decidable (a ≤ b) := inferInstanceAs (Decidable (a.isAtMost b = true))

@[simp] theorem units_le_iff : units m ≤ units n ↔ m ≤ n := decide_eq_true_iff

@[simp] theorem units_lt_iff : units m < units n ↔ m < n :=
  (not_congr units_le_iff).trans Int.not_le

/-- Nothing is less than the lower end. -/
theorem negativeInfinity_le (a : Extent) : negativeInfinity ≤ a := rfl

/-- Nothing is greater than the upper end. -/
theorem le_infinity (a : Extent) : a ≤ infinity := by cases a <;> rfl

/-- What can be counted is less than the upper end. -/
theorem units_lt_infinity (count : Int) : units count < infinity := Bool.false_ne_true

/-- What can be counted is greater than the lower end. -/
theorem negativeInfinity_lt_units (count : Int) : negativeInfinity < units count :=
  Bool.false_ne_true

/-- The ends differ. -/
theorem negativeInfinity_lt_infinity : negativeInfinity < infinity := Bool.false_ne_true

/-- Of two exact values, one is at most as great as the other. -/
theorem le_total (a b : Extent) : a ≤ b ∨ b ≤ a := by
  cases a with
  | negativeInfinity => exact .inl (negativeInfinity_le b)
  | infinity => exact .inr (le_infinity b)
  | units m =>
    cases b with
    | negativeInfinity => exact .inr (negativeInfinity_le _)
    | infinity => exact .inl (le_infinity _)
    | units n => simpa using Int.le_total m n

theorem le_of_eq (h : a = b) : a ≤ b := h ▸ or_self_iff.mp (le_total a a)

theorem not_lt : ¬a < b ↔ b ≤ a := Decidable.not_not

theorem le_of_lt (h : a < b) : a ≤ b := (le_total a b).resolve_right h

theorem ne_of_lt (h : a < b) : a ≠ b := fun heq => h (le_of_eq heq.symm)

/-- Integers have different exact values. -/
theorem ofInt_inj {i j : Int} : ofInt i = ofInt j ↔ i = j := by
  rw [ofInt, ofInt, units.injEq]
  exact Int.mul_eq_mul_right_iff (Int.natCast_ne_zero.mpr (Nat.ne_of_gt unitsPerOne_pos))

end Extent

/-- The exact value of the finite number at a place of the order. -/
def unitsAt (place : Int) : Int :=
  if place < 0 then -(unitsOfRank place.natAbs : Int) else unitsOfRank place.natAbs

/-- A rank without sign is the place of its magnitude. -/
theorem unitsAt_natCast (rank : Nat) : unitsAt rank = unitsOfRank rank :=
  if_neg (Int.not_lt.mpr (Int.natCast_nonneg rank))

/-- A rank with a sign is the place of the negative magnitude; zero is the same with a sign. -/
theorem unitsAt_neg_natCast (rank : Nat) : unitsAt (-(rank : Int)) = -(unitsOfRank rank : Int) := by
  by_cases hzero : rank = 0
  · simp [hzero, unitsAt, unitsOfRank_eq_zero_iff.mpr rfl]
  · have hbelow : -(rank : Int) < 0 := by omega
    rw [unitsAt, if_pos hbelow, Int.natAbs_neg, Int.natAbs_natCast]

/-- Places on both sides of zero have opposite exact values. -/
theorem unitsAt_neg (place : Int) : unitsAt (-place) = -unitsAt place := by
  obtain ⟨rank, rfl | rfl⟩ := place.eq_nat_or_neg
  · rw [unitsAt_neg_natCast, unitsAt_natCast]
  · rw [Int.neg_neg, unitsAt_neg_natCast, unitsAt_natCast, Int.neg_neg]

/-- The exact values of finite numbers are ordered as their places. -/
theorem unitsAt_le_iff {p q : Int} : unitsAt p ≤ unitsAt q ↔ p ≤ q := by
  refine (strictMono_int_of_lt_succ fun place => ?_).le_iff_le
  by_cases hnegative : place < 0
  · have hnext : place.natAbs = (place + 1).natAbs + 1 := by omega
    have hless := unitsOfRank_lt_succ (place + 1).natAbs
    rw [← hnext] at hless
    by_cases hlast : place + 1 < 0
    · rw [unitsAt, unitsAt, if_pos hnegative, if_pos hlast]
      omega
    · rw [unitsAt, unitsAt, if_pos hnegative, if_neg hlast]
      omega
  · have hnext : (place + 1).natAbs = place.natAbs + 1 := by omega
    have hless := unitsOfRank_lt_succ place.natAbs
    rw [← hnext] at hless
    rw [unitsAt, unitsAt, if_neg hnegative, if_neg (by omega)]
    omega

/-- The exact value at a place of the order. -/
def extentAt (place : Int) : Extent :=
  if place = -infinityRank then .negativeInfinity
  else if place = infinityRank then .infinity
  else .units (unitsAt place)

/-- Between the infinities, the exact value at a place is that of its units. -/
theorem extentAt_of_lt {place : Int} (hfinite : place.natAbs < infinityRank) :
    extentAt place = .units (unitsAt place) := by
  rw [extentAt, if_neg (by omega), if_neg (by omega)]

/-- A place is one of the ends, or an exact value can be counted there. -/
theorem extentAt_cases {place : Int} (hplace : place.natAbs ≤ infinityRank) :
    place = -infinityRank ∧ extentAt place = .negativeInfinity ∨
      place.natAbs < infinityRank ∧ extentAt place = .units (unitsAt place) ∨
      place = infinityRank ∧ extentAt place = .infinity := by
  have hpositive : 0 < infinityRank := by decide
  rcases Int.lt_trichotomy place.natAbs infinityRank with hfinite | hend | hbeyond
  · exact .inr (.inl ⟨by omega, extentAt_of_lt (by omega)⟩)
  · rcases Int.natAbs_eq place with hupper | hlower
    · have hplace : place = infinityRank := by omega
      exact .inr (.inr ⟨hplace, by rw [extentAt, if_neg (by omega), if_pos hplace]⟩)
    · have hplace : place = -infinityRank := by omega
      exact .inl ⟨hplace, if_pos hplace⟩
  · omega

/-- From one infinity to the other, exact values are ordered as their places. -/
theorem extentAt_le_iff {p q : Int} (hp : p.natAbs ≤ infinityRank) (hq : q.natAbs ≤ infinityRank) :
    extentAt p ≤ extentAt q ↔ p ≤ q := by
  have hpositive : 0 < infinityRank := by decide
  rcases extentAt_cases hp with ⟨_, hpe⟩ | ⟨_, hpe⟩ | ⟨_, hpe⟩ <;>
    rcases extentAt_cases hq with ⟨_, hqe⟩ | ⟨_, hqe⟩ | ⟨_, hqe⟩ <;>
    rw [hpe, hqe]
  · exact iff_of_true (Extent.negativeInfinity_le _) (by omega)
  · exact iff_of_true (Extent.negativeInfinity_le _) (by omega)
  · exact iff_of_true (Extent.negativeInfinity_le _) (by omega)
  · exact iff_of_false (Extent.negativeInfinity_lt_units _) (by omega)
  · exact Extent.units_le_iff.trans unitsAt_le_iff
  · exact iff_of_true (Extent.le_infinity _) (by omega)
  · exact iff_of_false Extent.negativeInfinity_lt_infinity (by omega)
  · exact iff_of_false (Extent.units_lt_infinity _) (by omega)
  · exact iff_of_true (Extent.le_infinity _) (by omega)

/-- Every significand of up to 53 bits, shifted up, is a magnitude. -/
theorem exists_unitsOfRank_eq_shifted {significand : Nat} (hmost : significand ≤ 2 ^ 53)
    (shift : Nat) : ∃ rank, unitsOfRank rank = significand * 2 ^ shift := by
  induction shift generalizing significand with
  | zero => exact ⟨_, unitsOfRank_significand (.inr rfl) hmost⟩
  | succ shift ih =>
    by_cases hleast : 2 ^ 52 ≤ significand
    · exact ⟨_, unitsOfRank_significand (.inl hleast) hmost⟩
    · obtain ⟨rank, hrank⟩ := @ih (significand * 2) (by omega)
      refine ⟨rank, ?_⟩
      rw [hrank, Nat.pow_succ, Nat.mul_assoc, Nat.mul_comm 2]

/-- Up to 53 bits, so many ones are a magnitude. -/
theorem exists_unitsOfRank_eq {n : Nat} (hmost : n ≤ 2 ^ 53) :
    ∃ rank, unitsOfRank rank = n * unitsPerOne := by
  obtain ⟨shift, hshift⟩ : ∃ shift, unitsPerOne = 2 ^ shift := ⟨1074, by decide +kernel⟩
  rw [hshift]
  exact exists_unitsOfRank_eq_shifted hmost shift

namespace Binary64

variable {x y : Binary64} {a b : Extent}

/-- The exact value of a number that is one. -/
def extent? (x : Binary64) : Option Extent := x.place?.map extentAt

/-- Places of the order lie between the infinities. -/
theorem natAbs_place?_le {place : Int} (hplace : x.place? = some place) :
    place.natAbs ≤ infinityRank := by
  cases x with
  | nan => contradiction
  | signed negative rank =>
    have hrank := rank.isLt
    have hsigned : (if negative then -(rank.val : Int) else rank.val) = place :=
      Option.some.inj hplace
    split at hsigned <;> omega

/-- The exact value of a finite number is that of its units. -/
theorem extent?_of_units? {units : Int} (hx : x.units? = some units) :
    x.extent? = some (.units units) := by
  cases x with
  | nan => contradiction
  | signed negative rank =>
    by_cases hfinite : rank.val < infinityRank
    · have hunits : (if negative then -(unitsOfRank rank : Int) else unitsOfRank rank) = units := by
        rw [units?, if_pos hfinite] at hx
        exact Option.some.inj hx
      have hplace : (if negative then -(rank.val : Int) else rank.val).natAbs < infinityRank := by
        split <;> omega
      rw [extent?, place?, Option.map_some, extentAt_of_lt hplace, ← hunits]
      cases negative with
      | false => simp only [Bool.false_eq_true, if_false, unitsAt_natCast]
      | true => simp only [if_true, unitsAt_neg_natCast]
    · rw [units?, if_neg hfinite] at hx
      contradiction

/-- Only what is no number has no exact value. -/
theorem exists_extent? (hx : x ≠ nan) : ∃ a, x.extent? = some a := by
  cases x with
  | nan => contradiction
  | signed negative rank => exact ⟨_, rfl⟩

/-- A number is below another one if it stands at a lower place. -/
theorem isBelow_iff_place_lt {p q : Int} (hp : x.place? = some p) (hq : y.place? = some q) :
    x.isBelow y = true ↔ p < q := by
  simp [isBelow, hp, hq]

/-- Numbers are equal if they stand at the same place. -/
theorem equals_iff_place_eq {p q : Int} (hp : x.place? = some p) (hq : y.place? = some q) :
    x.equals y = true ↔ p = q := by
  simp [equals, hp, hq]

/-- A number is below another one if its exact value is less. -/
theorem isBelow_iff_lt (hx : x.extent? = some a) (hy : y.extent? = some b) :
    x.isBelow y = true ↔ a < b := by
  obtain ⟨p, hp, rfl⟩ := Option.map_eq_some_iff.mp hx
  obtain ⟨q, hq, rfl⟩ := Option.map_eq_some_iff.mp hy
  rw [isBelow_iff_place_lt hp hq, ← Int.not_le]
  exact not_congr (extentAt_le_iff (natAbs_place?_le hq) (natAbs_place?_le hp)).symm

/-- Numbers are equal if they have the same exact value. -/
theorem equals_iff_eq (hx : x.extent? = some a) (hy : y.extent? = some b) :
    x.equals y = true ↔ a = b := by
  obtain ⟨p, hp, rfl⟩ := Option.map_eq_some_iff.mp hx
  obtain ⟨q, hq, rfl⟩ := Option.map_eq_some_iff.mp hy
  rw [equals_iff_place_eq hp hq]
  refine ⟨congrArg extentAt, fun hsame => Int.le_antisymm ?_ ?_⟩
  · exact (extentAt_le_iff (natAbs_place?_le hp) (natAbs_place?_le hq)).mp (Extent.le_of_eq hsame)
  · exact (extentAt_le_iff (natAbs_place?_le hq) (natAbs_place?_le hp)).mp
      (Extent.le_of_eq hsame.symm)

/-- Numbers that are equal have an exact value in common, and numbers that have one are equal. -/
theorem equals_iff_exists : x.equals y = true ↔ ∃ a, x.extent? = some a ∧ y.extent? = some a := by
  constructor
  · intro hequals
    have hplace := place?_eq_of_equals hequals
    have hx : x ≠ nan := by
      rintro rfl
      simp [equals, place?] at hequals
    obtain ⟨a, ha⟩ := exists_extent? hx
    exact ⟨a, ha, by rw [extent?, ← hplace]; exact ha⟩
  · rintro ⟨a, hx, hy⟩
    exact (equals_iff_eq hx hy).mpr rfl

/-- An integer of 64 bits is rounded to the nearest rank, with its own sign. -/
theorem place?_ofInt {i : Int} (hi : i.natAbs < 2 ^ 64) :
    (ofInt i).place? =
      some (if i < 0 then -(nearestRank i.natAbs 1 : Int) else nearestRank i.natAbs 1) := by
  have hwithin : nearestRank i.natAbs 1 < infinityRank + 1 :=
    Nat.lt_succ_of_lt (nearestRank_lt_infinityRank hi)
  rw [ofInt, ofRank, dif_pos hwithin, place?]
  simp only [decide_eq_true_eq]

/-- An integer that does not exceed the number at a place is not rounded to a greater place. -/
theorem place_ofInt_le {i place p : Int} (hi : i.natAbs < 2 ^ 64)
    (hp : (ofInt i).place? = some p) (hle : i * unitsPerOne ≤ unitsAt place) : p ≤ place := by
  rw [place?_ofInt hi] at hp
  obtain rfl := Option.some.inj hp
  by_cases hnegative : i < 0
  · rw [if_pos hnegative]
    by_cases hplace : place < 0
    · have hmagnitude : unitsOfRank place.natAbs * 1 ≤ i.natAbs * unitsPerOne := by
        have habs : -(i.natAbs : Int) = i := by omega
        have hunits : i * unitsPerOne = -((i.natAbs * unitsPerOne : Nat) : Int) := by
          rw [Int.natCast_mul, ← Int.neg_mul, habs]
        rw [unitsAt, if_pos hplace, hunits] at hle
        omega
      have hrank := le_nearestRank Nat.one_pos hmagnitude
      omega
    · omega
  · rw [if_neg hnegative]
    have habs : (i.natAbs : Int) = i := by omega
    have hunits : i * unitsPerOne = ((i.natAbs * unitsPerOne : Nat) : Int) := by
      rw [Int.natCast_mul, habs]
    have hplace : ¬place < 0 := by
      intro hplace
      have hbelow := (not_congr unitsAt_le_iff).mpr (Int.not_le.mpr hplace)
      have hzero : unitsAt 0 = 0 := by simp [unitsAt, unitsOfRank_eq_zero_iff.mpr rfl]
      omega
    have hmagnitude : i.natAbs * unitsPerOne ≤ unitsOfRank place.natAbs * 1 := by
      rw [unitsAt, if_neg hplace, hunits] at hle
      omega
    have hrank := nearestRank_le Nat.one_pos hmagnitude
    omega

/-- The opposite integer is rounded to the opposite place. -/
theorem place?_ofInt_neg {i p : Int} (hi : i.natAbs < 2 ^ 64) (hp : (ofInt i).place? = some p) :
    (ofInt (-i)).place? = some (-p) := by
  rw [place?_ofInt hi] at hp
  obtain rfl := Option.some.inj hp
  rw [place?_ofInt (by rwa [Int.natAbs_neg]), Int.natAbs_neg]
  by_cases hzero : i = 0
  · have hrank : nearestRank 0 1 = 0 :=
      nearestRank_of_exact Nat.one_pos (by simp [unitsOfRank_eq_zero_iff.mpr rfl])
    simp [hzero, hrank]
  · by_cases hnegative : i < 0
    · rw [if_pos hnegative, if_neg (by omega), Int.neg_neg]
    · rw [if_neg hnegative, if_pos (by omega)]

/-- An integer that reaches the number at a place is not rounded to a smaller place. -/
theorem le_place_ofInt {i place p : Int} (hi : i.natAbs < 2 ^ 64)
    (hp : (ofInt i).place? = some p) (hle : unitsAt place ≤ i * unitsPerOne) : place ≤ p := by
  have hneg : -i * unitsPerOne ≤ unitsAt (-place) := by
    rw [unitsAt_neg, Int.neg_mul]
    omega
  have hplace := place_ofInt_le (by rwa [Int.natAbs_neg]) (place?_ofInt_neg hi hp) hneg
  omega

/-- A finite number has units. -/
theorem exists_units?_of_isFinite (hx : x.isFinite = true) : ∃ units, x.units? = some units := by
  cases x with
  | nan => contradiction
  | signed negative rank =>
    rw [isFinite, decide_eq_true_eq] at hx
    rw [units?, if_pos hx]
    exact ⟨_, rfl⟩

/-- A number of so many ones is an integer. -/
theorem integer?_of_units? {i : Int} (hx : x.units? = some (i * unitsPerOne)) :
    x.integer? = some i := by
  have hone : (unitsPerOne : Int) ≠ 0 := Int.natCast_ne_zero.mpr (Nat.ne_of_gt unitsPerOne_pos)
  generalize hunits : i * (unitsPerOne : Int) = units at hx
  have hmod : units % unitsPerOne = 0 := by rw [← hunits, Int.mul_emod_left]
  have hdiv : units / unitsPerOne = i := by rw [← hunits, Int.mul_ediv_cancel _ hone]
  rw [integer?, hx, Option.bind_some, if_pos hmod, hdiv]

/-- An integer is a number of the format if the nearest number has the integer's exact value. -/
theorem integer?_ofInt_iff {i : Int} (hi : i.natAbs < 2 ^ 64) :
    (ofInt i).integer? = some i ↔ (ofInt i).extent? = some (.ofInt i) := by
  constructor
  · intro hinteger
    exact extent?_of_units? (units?_of_integer? hinteger)
  · intro hextent
    obtain ⟨units, hunits⟩ := exists_units?_of_isFinite (isFinite_ofInt hi)
    rw [extent?_of_units? hunits, Option.some_inj, Extent.ofInt, Extent.units.injEq] at hextent
    exact integer?_of_units? (hextent ▸ hunits)

/-- An integer has the exact value of the magnitude to which it is equal. -/
theorem extent?_ofInt {i : Int} {rank : Nat} (hi : i.natAbs < 2 ^ 64)
    (hrank : i.natAbs * unitsPerOne = unitsOfRank rank) :
    (ofInt i).extent? = some (.ofInt i) := by
  have hnearest : nearestRank i.natAbs 1 = rank :=
    nearestRank_of_exact Nat.one_pos (hrank.trans (Nat.mul_one _).symm)
  have hfinite : rank < infinityRank := hnearest ▸ nearestRank_lt_infinityRank hi
  have hplace : (ofInt i).place? = some (if i < 0 then -(rank : Int) else rank) :=
    hnearest ▸ place?_ofInt hi
  have hunits : unitsAt (if i < 0 then -(rank : Int) else rank) = i * unitsPerOne := by
    by_cases hnegative : i < 0
    · have habs : -(i.natAbs : Int) = i := by omega
      rw [if_pos hnegative, unitsAt_neg_natCast, ← hrank, Int.natCast_mul, ← Int.neg_mul, habs]
    · have habs : (i.natAbs : Int) = i := by omega
      rw [if_neg hnegative, unitsAt_natCast, ← hrank, Int.natCast_mul, habs]
  have hbelow : (if i < 0 then -(rank : Int) else rank).natAbs < infinityRank := by split <;> omega
  rw [extent?, hplace, Option.map_some, extentAt_of_lt hbelow, hunits, Extent.ofInt]

/-- Integers of up to 53 bits are numbers of the format. -/
theorem integer?_ofInt {i : Int} (hi : i.natAbs ≤ 2 ^ 53) : (ofInt i).integer? = some i := by
  have hbits : i.natAbs < 2 ^ 64 := by omega
  obtain ⟨rank, hrank⟩ := exists_unitsOfRank_eq hi
  exact (integer?_ofInt_iff hbits).mpr (extent?_ofInt hbits hrank.symm)

/-- An integer that is rounded to a lower place is less than what stands at the higher one. -/
theorem ofInt_lt_extentAt {i p place : Int} (hi : i.natAbs < 2 ^ 64)
    (hp : (ofInt i).place? = some p) (hless : p < place) : .ofInt i < extentAt place := by
  have hplace := natAbs_place?_le hp
  rw [extentAt, if_neg (by omega)]
  split
  · exact Extent.units_lt_infinity _
  · rw [Extent.ofInt, Extent.units_lt_iff]
    by_contra hnot
    have hge := le_place_ofInt hi hp (Int.not_lt.mp hnot)
    omega

/-- An integer that is rounded to a higher place is greater than what stands at the lower one. -/
theorem extentAt_lt_ofInt {i p place : Int} (hi : i.natAbs < 2 ^ 64)
    (hp : (ofInt i).place? = some p) (hless : place < p) : extentAt place < .ofInt i := by
  have hplace := natAbs_place?_le hp
  rw [extentAt]
  split
  · exact Extent.negativeInfinity_lt_units _
  · rw [if_neg (by omega), Extent.ofInt, Extent.units_lt_iff]
    by_contra hnot
    have hle := place_ofInt_le hi hp (Int.not_lt.mp hnot)
    omega

/-- A number of an integer's exact value is the nearest one to that integer. -/
theorem ofInt_equals_of_extent? {i : Int} (hi : i.natAbs < 2 ^ 64)
    (hx : x.extent? = some (.ofInt i)) : (ofInt i).equals x = true := by
  obtain ⟨p, hp⟩ : ∃ p, (ofInt i).place? = some p := ⟨_, place?_ofInt hi⟩
  obtain ⟨place, hplace, hextent⟩ := Option.map_eq_some_iff.mp hx
  rw [equals_iff_place_eq hp hplace]
  rcases Int.lt_trichotomy p place with hless | heq | hgreater
  · exact absurd hextent.symm (Extent.ne_of_lt (ofInt_lt_extentAt hi hp hless))
  · exact heq
  · exact absurd hextent (Extent.ne_of_lt (extentAt_lt_ofInt hi hp hgreater))

/-- Whether an integer, being no number of the format itself, is rounded to the given number. -/
def IsRounded (i : Int) (x : Binary64) : Prop :=
  (ofInt i).integer? ≠ some i ∧ (ofInt i).equals x = true

/-- Integers of up to 53 bits are not rounded. -/
theorem lt_of_isRounded {i : Int} (h : IsRounded i x) : 2 ^ 53 < i.natAbs := by
  by_contra hnot
  exact h.1 (integer?_ofInt (Nat.le_of_not_lt hnot))

/-- An integer whose nearest number is the given one has that number's exact value or is rounded. -/
theorem eq_or_isRounded_of_equals {i : Int} (hi : i.natAbs < 2 ^ 64) (hx : x.extent? = some a)
    (hequals : (ofInt i).equals x = true) : a = .ofInt i ∨ IsRounded i x := by
  by_cases hinteger : (ofInt i).integer? = some i
  · left
    exact ((equals_iff_eq ((integer?_ofInt_iff hi).mp hinteger) hx).mp hequals).symm
  · exact .inr ⟨hinteger, hequals⟩

/-- The nearest number to an integer is not below another one exactly if the integer is not less
than that or is rounded to it. -/
theorem not_ofInt_isBelow_iff {i : Int} (hi : i.natAbs < 2 ^ 64) (hx : x.extent? = some a) :
    ¬(ofInt i).isBelow x = true ↔ a ≤ .ofInt i ∨ IsRounded i x := by
  obtain ⟨p, hp⟩ : ∃ p, (ofInt i).place? = some p := ⟨_, place?_ofInt hi⟩
  obtain ⟨place, hplace, rfl⟩ := Option.map_eq_some_iff.mp hx
  rw [isBelow_iff_place_lt hp hplace]
  rcases Int.lt_trichotomy p place with hless | rfl | hgreater
  · refine iff_of_false (not_not.mpr hless) ?_
    rintro (hle | ⟨_, hequals⟩)
    · exact absurd (ofInt_lt_extentAt hi hp hless) (Extent.not_lt.mpr hle)
    · exact absurd ((equals_iff_place_eq hp hplace).mp hequals) (Int.ne_of_lt hless)
  · have hequals := (equals_iff_place_eq hp hplace).mpr rfl
    exact iff_of_true (Int.lt_irrefl p)
      ((eq_or_isRounded_of_equals hi hx hequals).imp_left Extent.le_of_eq)
  · exact iff_of_true (Int.not_lt.mpr (Int.le_of_lt hgreater))
      (.inl (Extent.le_of_lt (extentAt_lt_ofInt hi hp hgreater)))

/-- A number is not below the nearest one to an integer exactly if the integer is not greater than
that number or is rounded to it. -/
theorem not_isBelow_ofInt_iff {i : Int} (hi : i.natAbs < 2 ^ 64) (hx : x.extent? = some a) :
    ¬x.isBelow (ofInt i) = true ↔ .ofInt i ≤ a ∨ IsRounded i x := by
  obtain ⟨p, hp⟩ : ∃ p, (ofInt i).place? = some p := ⟨_, place?_ofInt hi⟩
  obtain ⟨place, hplace, rfl⟩ := Option.map_eq_some_iff.mp hx
  rw [isBelow_iff_place_lt hplace hp]
  rcases Int.lt_trichotomy p place with hless | rfl | hgreater
  · exact iff_of_true (Int.not_lt.mpr (Int.le_of_lt hless))
      (.inl (Extent.le_of_lt (ofInt_lt_extentAt hi hp hless)))
  · have hequals := (equals_iff_place_eq hp hplace).mpr rfl
    exact iff_of_true (Int.lt_irrefl p)
      ((eq_or_isRounded_of_equals hi hx hequals).imp_left fun h => Extent.le_of_eq h.symm)
  · refine iff_of_false (not_not.mpr hgreater) ?_
    rintro (hle | ⟨_, hequals⟩)
    · exact absurd (extentAt_lt_ofInt hi hp hgreater) (Extent.not_lt.mpr hle)
    · exact absurd ((equals_iff_place_eq hp hplace).mp hequals) (Int.ne_of_gt hgreater)

end Binary64

end ControlProps
