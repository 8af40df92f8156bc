import ControlProps.Proofs.Value.Extent
import ControlProps.Proofs.Value.Shapes

/-!
# Loose equality

Values that are loosely equal have one shape and equal nearest numbers. This is an equivalence
wherever numbers are equal to themselves, and the order of keys does not matter to it. Numbers are
loosely equal if they have one exact value, but also if an integer is rounded to the other number.
-/

namespace ControlProps.Value

variable {a b : Value}

/-- Numbers with the same exact value. -/
def SameExtent (a b : Value) : Prop := ∃ e, a.extent? = some e ∧ b.extent? = some e

/-- The same leaf that is no number, or numbers with the same exact value. -/
def SameExactly (a b : Value) : Prop := (a.number? = none ∧ a = b) ∨ SameExtent a b

/-- Numbers of which one is an integer that is rounded to the number nearest to the other one. -/
def Collides (a b : Value) : Prop :=
  (∃ y, b.number? = some y ∧ a.IsRounded y) ∨ ∃ x, a.number? = some x ∧ b.IsRounded x

/-- Integers of up to 53 bits are not taken for other numbers. -/
theorem not_collides (ha : a.IsWithin53Bits) (hb : b.IsWithin53Bits) : ¬a.Collides b := by
  rintro (⟨_, _, hrounded⟩ | ⟨_, _, hrounded⟩)
  · exact ha.not_isRounded hrounded
  · exact hb.not_isRounded hrounded

/-- What has an exact value has a nearest number. -/
theorem exists_number? {e : Extent} (ha : a.extent? = some e) : ∃ x, a.number? = some x := by
  cases a with
  | int => exact ⟨_, rfl⟩
  | float => exact ⟨_, rfl⟩
  | _ => simp [extent?] at ha

/-- Nearest numbers are equal. -/
theorem sameNearestNumber_iff_exists :
    sameNearestNumber a b = true ↔
      ∃ x y, a.number? = some x ∧ b.number? = some y ∧ x.equals y = true := by
  unfold sameNearestNumber
  cases a.number? <;> cases b.number? <;> simp

/-- The nearest numbers are equal if the exact values are the same or an integer is rounded. -/
theorem sameNearestNumber_iff : sameNearestNumber a b = true ↔ SameExtent a b ∨ Collides a b := by
  rw [sameNearestNumber_iff_exists]
  constructor
  · rintro ⟨x, y, hx, hy, hequals⟩
    rcases extent?_or_isRounded hx with ha | ha
    · rcases extent?_or_isRounded hy with hb | hb
      · obtain ⟨e, hxe, hye⟩ := Binary64.equals_iff_exists.mp hequals
        exact .inl ⟨e, ha ▸ hxe, hb ▸ hye⟩
      · exact .inr (.inr ⟨x, hx, hb x (Binary64.equals_comm x y ▸ hequals)⟩)
    · exact .inr (.inl ⟨y, hy, ha y hequals⟩)
  · rintro (⟨e, ha, hb⟩ | ⟨y, hy, i, rfl, hi⟩ | ⟨x, hx, i, rfl, hi⟩)
    · obtain ⟨x, hx⟩ := exists_number? ha
      obtain ⟨y, hy⟩ := exists_number? hb
      exact ⟨x, y, hx, hy, equals_of_extent? hx hy ha hb⟩
    · exact ⟨Binary64.ofInt i.toInt, y, rfl, hy, hi.2⟩
    · refine ⟨x, Binary64.ofInt i.toInt, hx, rfl, ?_⟩
      rw [Binary64.equals_comm]
      exact hi.2

/-- Integers have the same exact value only if they are the same. -/
theorem sameExtent_int_iff {i j : Int64} : SameExtent (int i) (int j) ↔ i = j := by
  constructor
  · rintro ⟨e, hi, hj⟩
    have hsame : Extent.ofInt i.toInt = .ofInt j.toInt := Option.some.inj (hi.trans hj.symm)
    exact Int64.toInt_inj.mp (Extent.ofInt_inj.mp hsame)
  · rintro rfl
    exact ⟨.ofInt i.toInt, rfl, rfl⟩

/-- An integer is nearest to the same number as itself. -/
theorem sameNearestNumber_int (i : Int64) : sameNearestNumber (int i) (int i) = true :=
  sameNearestNumber_iff.mpr (.inl (sameExtent_int_iff.mpr rfl))

/-- Integers are loosely equal if they are the same or one is rounded to what is nearest to both. -/
theorem int_looselyEquals_int_iff {i j : Int64} :
    (int i).looselyEquals (int j) = true ↔ i = j ∨ Collides (int i) (int j) := by
  rw [looselyEquals, equalBy_of_number? rfl, sameNearestNumber_iff, sameExtent_int_iff]

/-- Exactly the same integers are one integer. -/
theorem alike_int_iff {i j : Int64} : AlikeBy SameExactly (int i) (int j) ↔ i = j := by
  have hleaf : SameExactly (int i) (int j) ↔ i = j := by
    simp [SameExactly, number?, sameExtent_int_iff]
  constructor
  · intro h
    cases h with
    | leaf _ _ hsame => exact hleaf.mp hsame
  · exact fun h => .leaf trivial trivial (hleaf.mpr h)

/-- Leaves with equal nearest numbers are exactly the same, or an integer is rounded. -/
theorem leafBy_sameNearestNumber_iff :
    LeafBy sameNearestNumber a b ↔ SameExactly a b ∨ Collides a b := by
  rw [LeafBy, sameNearestNumber_iff, SameExactly, or_assoc]

/-- Values are loosely equal if they have one shape and equal nearest numbers. -/
theorem looselyEquals_iff_alike (ha : a.DistinctKeys) (hb : b.DistinctKeys) :
    a.looselyEquals b = true ↔ AlikeBy (LeafBy sameNearestNumber) a b :=
  equalBy_iff_alike isOfNumbers_sameNearestNumber ha hb

/-- Loose equality is symmetric. -/
theorem looselyEquals_comm (ha : a.DistinctKeys) (hb : b.DistinctKeys) :
    a.looselyEquals b = b.looselyEquals a := by
  have hsymm (a b : Value) (h : LeafBy sameNearestNumber a b) : LeafBy sameNearestNumber b a := by
    rcases h with ⟨hnone, rfl⟩ | hsame
    · exact .inl ⟨hnone, rfl⟩
    · obtain ⟨x, y, hx, hy, hequals⟩ := sameNearestNumber_iff_exists.mp hsame
      rw [Binary64.equals_comm] at hequals
      exact .inr (sameNearestNumber_iff_exists.mpr ⟨y, x, hy, hx, hequals⟩)
  rw [Bool.eq_iff_iff, looselyEquals_iff_alike ha hb, looselyEquals_iff_alike hb ha]
  exact ⟨fun h => h.symm hsymm, fun h => h.symm hsymm⟩

/-- A value without a part that is no number is loosely equal to itself. -/
theorem looselyEquals_self (hkeys : a.DistinctKeys)
    (hnumbers : a.Everywhere (· ≠ float .nan)) : a.looselyEquals a = true := by
  refine (looselyEquals_iff_alike hkeys hkeys).mpr (.refl (fun place part hpart => ?_) hkeys)
  cases part with
  | int i => exact .inr (sameNearestNumber_int i)
  | float x =>
    have hne : x ≠ .nan := fun h => hnumbers place _ hpart (congrArg float h)
    exact .inr (Binary64.equals_self_iff.mpr hne)
  | _ => exact .inl ⟨rfl, rfl⟩

/-- Values that are equal are also loosely equal. -/
theorem looselyEquals_of_equals (ha : a.DistinctKeys) (hb : b.DistinctKeys)
    (hequal : a.equals b = true) : a.looselyEquals b = true := by
  have halike := (equalBy_iff_alike isOfNumbers_sameNumberAndKind ha hb).mp hequal
  refine (looselyEquals_iff_alike ha hb).mpr (halike.mono fun a b => .imp_right fun hsame => ?_)
  cases a with
  | int i =>
    cases b with
    | int j =>
      obtain rfl : i = j := by simpa [sameNumberAndKind] using hsame
      exact sameNearestNumber_int i
    | _ => simp [sameNumberAndKind] at hsame
  | float =>
    cases b with
    | float => exact hsame
    | _ => simp [sameNumberAndKind] at hsame
  | _ => simp [sameNumberAndKind] at hsame

/-- The order of keys on either side does not matter to loose equality. -/
theorem looselyEquals_eq_of_reordered {a' b' : Value} (ha : a.DistinctKeys) (ha' : a'.DistinctKeys)
    (hb : b.DistinctKeys) (hreordered : a.Reordered a') (hreordered' : b.Reordered b') :
    a.looselyEquals b = a'.looselyEquals b' :=
  calc
    a.looselyEquals b = b.looselyEquals a := looselyEquals_comm ha hb
    _ = b.looselyEquals a' := looselyEquals_eq_of_alike (hreordered.mono fun _ _ => .inl) b
    _ = a'.looselyEquals b := looselyEquals_comm hb ha'
    _ = a'.looselyEquals b' := looselyEquals_eq_of_alike (hreordered'.mono fun _ _ => .inl) a'

/-- A value whose objects repeat no key and whose numbers are equal to themselves. -/
def Comparable := {value : Value // value.DistinctKeys ∧ value.Everywhere (· ≠ float .nan)}

/-- **Loose equality** is an equivalence on values without parts that are no numbers. Equal values
are loosely equal, and so is what results from them if keys are put in another order. -/
theorem loose_equality_is_congruent :
    Equivalence (fun a b : Comparable => a.1.looselyEquals b.1 = true) ∧
      (∀ a b : Comparable, a.1.equals b.1 = true → a.1.looselyEquals b.1 = true) ∧
      ∀ a a' b b' : Comparable, a.1.Reordered a'.1 → b.1.Reordered b'.1 →
        a.1.looselyEquals b.1 = a'.1.looselyEquals b'.1 := by
  refine ⟨⟨?refl, ?symm, ?trans⟩, ?equals, ?reordered⟩
  case refl => exact fun a => looselyEquals_self a.2.1 a.2.2
  case symm =>
    intro a b hab
    rw [looselyEquals_comm b.2.1 a.2.1]
    exact hab
  case trans =>
    intro a b c hab hbc
    rw [← looselyEquals_eq_of_alike (alike_of_looselyEquals b.2.1 c.2.1 hbc)]
    exact hab
  case equals => exact fun a b => looselyEquals_of_equals a.2.1 b.2.1
  case reordered =>
    exact fun a a' b b' => looselyEquals_eq_of_reordered a.2.1 a'.2.1 b.2.1

/-- An integer and a float under the same key, next to another key before or behind them. -/
theorem loose_equality_of_sizes :
    let size := object [("w", int 1), ("h", null)]
    let turned := object [("h", null), ("w", int 1)]
    let measured := object [("w", float (.ofInt 1)), ("h", null)]
    size.Reordered turned ∧ size.equals turned = true ∧ size.looselyEquals turned = true ∧
      turned.looselyEquals measured = true := by
  intro size turned measured
  have hsize : size.DistinctKeys ∧ size.Everywhere (· ≠ float .nan) := by
    simp [size, DistinctKeys, HasDistinctKeys, Entries.keys]
  have hturned : turned.DistinctKeys ∧ turned.Everywhere (· ≠ float .nan) := by
    simp [turned, DistinctKeys, HasDistinctKeys, Entries.keys]
  have hone : Binary64.ofInt 1 ≠ .nan := by decide +kernel
  have hmeasured : measured.DistinctKeys ∧ measured.Everywhere (· ≠ float .nan) := by
    simp [measured, DistinctKeys, HasDistinctKeys, Entries.keys, hone]
  have hreordered : size.Reordered turned := reordered_of_perm hsize.1 (.swap _ _ _)
  have hself : measured.Reordered measured := reordered_of_perm hmeasured.1 (.refl _)
  have hequal : size.equals turned = true := by decide +kernel
  have hloose : size.looselyEquals measured = true := by decide +kernel
  obtain ⟨_, hequals, horder⟩ := loose_equality_is_congruent
  have hsame := horder ⟨size, hsize⟩ ⟨turned, hturned⟩ ⟨measured, hmeasured⟩ ⟨measured, hmeasured⟩
    hreordered hself
  exact ⟨hreordered, hequal, hequals ⟨size, hsize⟩ ⟨turned, hturned⟩ hequal, hsame ▸ hloose⟩

end ControlProps.Value
