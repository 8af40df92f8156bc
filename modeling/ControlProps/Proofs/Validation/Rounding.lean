import ControlProps.Engine.Patterns
import ControlProps.Proofs.Validation.Bags
import ControlProps.Proofs.Value.Equality

/-!
# Exact values and rounded integers

A range is meant for the numbers whose exact values lie between its bounds, and a literal for those
that have its own exact value. Both are compared with the nearest float of a number. For an integer
of more than 53 bits that may be another number, and what is no number lies beyond no bound.
-/

namespace ControlProps

/-- Whether an exact value lies between those bounds that are present and are numbers. -/
def Extent.IsWithin (min max : Option Binary64) (e : Extent) : Prop :=
  (∀ bound ∈ min, ∀ f ∈ bound.extent?, f ≤ e) ∧ ∀ bound ∈ max, ∀ f ∈ bound.extent?, e ≤ f

namespace Schema

section

variable {strict integer : Bool} {levels : Nat} {min max : Option Binary64} {value : Value}

/-- What a range admits in kind is not `null` and has a nearest number. -/
theorem exists_number?_of_admits
    (hkind : (if integer then Kind.integer else .number).admits value = true) :
    value ≠ .null ∧ ∃ x, value.number? = some x := by
  cases value <;> cases integer <;> simp_all [Kind.admits, Value.kind, Value.number?]

variable [PatternEngine]

/-- A range of its kind describes a number whose exact value keeps to both bounds or is rounded to
the one to which it does not keep. -/
theorem conforms_range_iff_extent? {x : Binary64} {e : Extent}
    (hkind : (if integer then Kind.integer else .number).admits value = true)
    (hx : value.number? = some x) (he : value.extent? = some e) :
    (range min max integer).Conforms strict value ↔
      (∀ bound ∈ min, (∀ f ∈ bound.extent?, f ≤ e) ∨ value.IsRounded bound) ∧
        ∀ bound ∈ max, (∀ f ∈ bound.extent?, e ≤ f) ∨ value.IsRounded bound := by
  have hnull := (exists_number?_of_admits hkind).1
  rw [conforms_range_iff, or_iff_right hnull, and_iff_right hkind]
  simp only [hx, Option.some.injEq, forall_eq', Value.not_isBelow_iff hx he,
    Value.not_isAbove_iff hx he]

/-- What is no number is described by every range for floats. -/
theorem conforms_range_of_nan
    (hkind : (if integer then Kind.integer else .number).admits (.float .nan) = true) :
    (range min max integer).Conforms strict (.float .nan) := by
  refine conforms_range_iff.mpr (.inr ⟨hkind, fun x hx => ?_⟩)
  obtain rfl := Option.some.inj hx
  simp [Binary64.isBelow, Binary64.place?]

/--
**Ranges.** A number of the kind that a range asks for is in order exactly if its exact value lies
between the bounds, but for a bound to which it is rounded, or if it is no number. So there is
nothing wrong with an exact value between the bounds, and with integers of up to 53 bits and floats
that are numbers nothing else is in order.
-/
theorem range_accepts_iff
    (hkind : (if integer then Kind.integer else .number).admits value = true) :
    ((range min max integer).walk strict (levels + 1) value = .clean ↔
      value = .float .nan ∨ ∃ e, value.extent? = some e ∧
        (∀ bound ∈ min, (∀ f ∈ bound.extent?, f ≤ e) ∨ value.IsRounded bound) ∧
        ∀ bound ∈ max, (∀ f ∈ bound.extent?, e ≤ f) ∨ value.IsRounded bound) ∧
      ((∃ e, value.extent? = some e ∧ e.IsWithin min max) →
        (range min max integer).walk strict (levels + 1) value = .clean) ∧
      (value ≠ .float .nan → value.IsWithin53Bits →
        ((range min max integer).walk strict (levels + 1) value = .clean ↔
          ∃ e, value.extent? = some e ∧ e.IsWithin min max)) := by
  have hheight : (range min max integer).height < levels + 1 := Nat.succ_pos levels
  rw [walk_eq_clean_iff_conforms hheight]
  obtain ⟨x, hx⟩ := (exists_number?_of_admits hkind).2
  by_cases hnan : value = .float .nan
  · subst hnan
    have hconforms : (range min max integer).Conforms strict (.float .nan) :=
      conforms_range_of_nan hkind
    exact ⟨iff_of_true hconforms (.inl rfl), fun _ => hconforms, fun h => absurd rfl h⟩
  · obtain ⟨e, he⟩ := Value.exists_extent? hx hnan
    rw [conforms_range_iff_extent? hkind hx he]
    simp only [hnan, he, Option.some.injEq, exists_eq_left', false_or, true_and, Extent.IsWithin]
    refine ⟨?within, fun _ hbits => ?exact⟩
    case within =>
      rintro ⟨hmin, hmax⟩
      exact ⟨fun bound hbound => .inl (hmin bound hbound),
        fun bound hbound => .inl (hmax bound hbound)⟩
    case exact => simp only [hbits.not_isRounded, or_false]

end

/-- An integer at its maximum, which is in order and lies between the bounds. -/
theorem range_accepts_maximum :
    let maximum := Binary64.ofInt 10
    Kind.integer.admits (.int 10) = true ∧
      (range (some .zero) (some maximum) true).walk true 1 (.int 10) = .clean ∧
      (Extent.ofInt 10).IsWithin (some .zero) (some maximum) := by
  intro maximum
  have hkind : (if true then Kind.integer else .number).admits (.int 10) = true := rfl
  have hconforms : (range (some .zero) (some maximum) true).Conforms true (.int 10) := by
    decide +kernel
  have hclean := (walk_eq_clean_iff_conforms (Nat.succ_pos 0)).mpr hconforms
  have hbits : (Value.int 10).IsWithin53Bits := (by decide : (10 : Int64).toInt.natAbs ≤ 2 ^ 53)
  obtain ⟨e, he, hwithin⟩ := ((range_accepts_iff hkind).2.2 (by simp) hbits).mp hclean
  exact ⟨hkind, hclean, Option.some.inj he ▸ hwithin⟩

/-- The least integer that is rounded is in order though it is greater than the maximum, and what
is no number is in order in a range of one number. -/
theorem range_accepts_beyond_bounds :
    let maximum := Binary64.ofInt 9007199254740992
    let value := Value.int 9007199254740993
    maximum.extent? = some (.ofInt 9007199254740992) ∧
      value.extent? = some (.ofInt 9007199254740993) ∧
      Extent.ofInt 9007199254740992 < .ofInt 9007199254740993 ∧
      (range none (some maximum) true).walk true 1 value = .clean ∧
      Value.extent? (.float .nan) = none ∧
      (range (some .zero) (some .zero) false).walk true 1 (.float .nan) = .clean := by
  intro maximum value
  have hinteger : maximum.integer? = some 9007199254740992 :=
    Binary64.integer?_ofInt (by decide)
  have hmaximum : maximum.extent? = some (.ofInt 9007199254740992) :=
    (Binary64.integer?_ofInt_iff (by decide)).mp hinteger
  have hrounded : (range none (some maximum) true).Conforms true value := by decide +kernel
  have hnan : (range (some .zero) (some .zero) false).Conforms true (.float .nan) := by
    decide +kernel
  have hless : Extent.ofInt 9007199254740992 < .ofInt 9007199254740993 :=
    Extent.units_lt_iff.mpr (Int.mul_lt_mul_of_pos_right (by decide)
      (Int.natCast_pos.mpr unitsPerOne_pos))
  exact ⟨hmaximum, rfl, hless, (walk_eq_clean_iff_conforms (Nat.succ_pos 0)).mpr hrounded, rfl,
    (walk_eq_clean_iff_conforms (Nat.succ_pos 0)).mpr hnan⟩

section

variable [PatternEngine] {strict : Bool}

/-- Literals that are integers describe those to which they are loosely equal. -/
theorem conforms_integers_iff {literals : List Int64} {i : Int64} :
    (enumeration (literals.map .int)).Conforms strict (.int i) ↔
      i ∈ literals ∨ ∃ j ∈ literals, Value.Collides (.int j) (.int i) := by
  have hloose : (∃ j ∈ literals, (Value.int j).looselyEquals (.int i) = true) ↔
      i ∈ literals ∨ ∃ j ∈ literals, Value.Collides (.int j) (.int i) := by
    simp only [Value.int_looselyEquals_int_iff, and_or_left, exists_or, exists_eq_right]
  rw [Conforms, ← hloose]
  simp

/--
**Literals.** Values are loosely equal exactly if they have one shape and, place by place, the same
leaf or numbers of one exact value, but for integers that are rounded to the number nearest to what
is at their place. So what is exactly equal is loosely equal, and nothing else is if all integers
have up to 53 bits. Of integers, an enumeration accepts its literals and those that collide with
one.
-/
theorem loosely_equals_iff_exact_or_rounded {a b : Value} (ha : a.DistinctKeys)
    (hb : b.DistinctKeys) :
    (a.looselyEquals b = true ↔
        Value.AlikeBy (fun a b => a.SameExactly b ∨ a.Collides b) a b) ∧
      (Value.AlikeBy Value.SameExactly a b → a.looselyEquals b = true) ∧
      (a.Everywhere Value.IsWithin53Bits → b.Everywhere Value.IsWithin53Bits →
        (a.looselyEquals b = true ↔ Value.AlikeBy Value.SameExactly a b)) ∧
      ∀ (strict : Bool) (levels : Nat) (literals : List Int64) (i : Int64),
        (enumeration (literals.map .int)).walk strict (levels + 1) (.int i) = .clean ↔
          i ∈ literals ∨ ∃ j ∈ literals, Value.Collides (.int j) (.int i) := by
  have hloose : a.looselyEquals b = true ↔
      Value.AlikeBy (fun a b => a.SameExactly b ∨ a.Collides b) a b := by
    simp only [Value.looselyEquals_iff_alike ha hb, ← Value.leafBy_sameNearestNumber_iff]
  refine ⟨hloose, ?exact, fun habits hbbits => ?bits, fun strict levels literals i => ?integers⟩
  case exact => exact fun h => hloose.mpr (h.mono fun _ _ => .inl)
  case bits =>
    refine hloose.trans ⟨fun h => ?_, fun h => h.mono fun _ _ => .inl⟩
    refine h.mono_of_everywhere habits hbbits fun a b ha hb hrelated => ?_
    exact hrelated.resolve_right (Value.not_collides ha hb)
  case integers =>
    rw [walk_eq_clean_iff_conforms (Nat.succ_pos levels), conforms_integers_iff]

end

/-- An integer and a float that is equal to it, each under the same key. -/
theorem loosely_equals_whole_float :
    let a := Value.object [("n", .int 1)]
    let b := Value.object [("n", .float (.ofInt 1))]
    a.DistinctKeys ∧ b.DistinctKeys ∧ a.looselyEquals b = true ∧
      Value.AlikeBy Value.SameExactly a b := by
  intro a b
  have ha : a.DistinctKeys := by
    simp [a, Value.DistinctKeys, Value.HasDistinctKeys, Entries.keys]
  have hb : b.DistinctKeys := by
    simp [b, Value.DistinctKeys, Value.HasDistinctKeys, Entries.keys]
  have hone : (Value.int 1).IsWithin53Bits := (by decide : (1 : Int64).toInt.natAbs ≤ 2 ^ 53)
  have habits : a.Everywhere Value.IsWithin53Bits := by
    simp only [a, Value.everywhere_object, List.forall_mem_singleton, Value.everywhere_int, hone]
    exact ⟨trivial, trivial⟩
  have hbbits : b.Everywhere Value.IsWithin53Bits := by
    simp only [b, Value.everywhere_object, List.forall_mem_singleton, Value.everywhere_float]
    exact ⟨trivial, trivial⟩
  have hloose : a.looselyEquals b = true := by decide +kernel
  obtain ⟨_, _, hexact, _⟩ := loosely_equals_iff_exact_or_rounded ha hb
  exact ⟨ha, hb, hloose, (hexact habits hbbits).mp hloose⟩

/-- The least integer that is rounded is loosely equal to its predecessor, so that it is accepted
where only its predecessor is allowed. -/
theorem looselyEquals_predecessor :
    let value := Value.int 9007199254740993
    let literal := Value.int 9007199254740992
    literal.looselyEquals value = true ∧ ¬Value.AlikeBy Value.SameExactly literal value ∧
      (enumeration [literal]).walk true 1 value = .clean := by
  intro value literal
  have hloose : literal.looselyEquals value = true := by decide +kernel
  have hconforms : (enumeration [literal]).Conforms true value := by decide +kernel
  have hdifferent : ¬Value.AlikeBy Value.SameExactly literal value := by
    rw [Value.alike_int_iff]
    decide
  exact ⟨hloose, hdifferent, (walk_eq_clean_iff_conforms (Nat.succ_pos 0)).mpr hconforms⟩

end Schema

end ControlProps
