import ControlProps.Proofs.Geometry.Dimension
import Mathlib.Tactic.ByContra

/-!
# Texts of dimensions and of numbers

Numbers have texts of two kinds. The text of a dimension without unit is also that of its number.
The text of a length is that of no number, and words and exponents are in no text of a dimension.
-/

namespace ControlProps

namespace Dimension

/-- What a text begins with if a magnitude is split off it. -/
theorem exists_cons_of_splitMagnitude? {text rest : List Char} {d : Decimal}
    (hsplit : splitMagnitude? text = some (d, rest)) :
    ∃ c others, text = c :: others ∧ (c.isDigit = true ∨ c = '.') := by
  cases text with
  | nil => simp [splitMagnitude?] at hsplit
  | cons c others =>
    refine ⟨c, others, rfl, ?_⟩
    by_contra hneither
    obtain ⟨hdigit, hpoint⟩ := not_or.mp hneither
    simp [splitMagnitude?, hdigit, hpoint] at hsplit

/-- A magnitude that is split off a text is one that a number text may begin with. -/
theorem exists_splitPoint?_of_splitMagnitude? {text rest : List Char} {d : Decimal}
    (hsplit : splitMagnitude? text = some (d, rest)) :
    ∃ whole fraction, Binary64.splitPoint? text = some (whole, fraction, rest) ∧
      Decimal.ofDigits whole fraction 0 = d := by
  unfold splitMagnitude? at hsplit
  split at hsplit
  · rename_i hrest
    dsimp only at hsplit
    split at hsplit
    · contradiction
    · rename_i hfraction
      obtain ⟨rfl, rfl⟩ := Prod.mk.inj (Option.some.inj hsplit)
      exact ⟨_, _, by simp [Binary64.splitPoint?, hrest, hfraction], rfl⟩
  · rename_i hpoint
    dsimp only at hsplit
    split at hsplit
    · contradiction
    · rename_i hwhole
      obtain ⟨rfl, rfl⟩ := Prod.mk.inj (Option.some.inj hsplit)
      refine ⟨text.takeWhile Char.isDigit, [], ?_, rfl⟩
      unfold Binary64.splitPoint?
      split
      · rename_i others hothers
        exact absurd hothers (hpoint others)
      · exact if_neg hwhole

end Dimension

namespace Binary64

/-- Digits and points have no case. -/
theorem toLower_of_isDigit_or_point {c : Char} (hc : c.isDigit = true ∨ c = '.') :
    c.toLower = c := by
  have hmost : c.toNat ≤ 57 := by
    rcases hc with hdigit | rfl
    · exact (toNat_of_isDigit hdigit).2
    · decide
  refine dif_neg fun hupper => ?_
  have hleast : 65 ≤ c.toNat := UInt32.le_iff_toNat_le.mp hupper.1
  omega

/-- A text that begins, behind its sign, with a digit or a point is no word. -/
theorem ofText?_of_splitSign {text : String} {negative : Bool} {c : Char} {others : List Char}
    (hsign : splitSign text.toList = (negative, c :: others))
    (hfirst : c.isDigit = true ∨ c = '.') :
    ofText? text = (magnitude? (c :: others)).map (ofDecimal negative) := by
  have hlower : c.toLower ≠ 'i' ∧ c.toLower ≠ 'n' := by
    rw [toLower_of_isDigit_or_point hfirst]
    constructor <;> rintro rfl <;> simp at hfirst
  rw [ofText?, hsign]
  simp [hlower.1, hlower.2]

end Binary64

/-- The number of a dimension without unit. -/
def Dimension.points? : Dimension → Option Binary64
  | points value => some value
  | length _ _ => none

/-- The text of a dimension without unit is the text of its number; no other is that of a number. -/
theorem Dimension.ofText?_eq_points? {text : String} {dimension : Dimension}
    (hread : ofText? text.toList = some dimension) :
    Binary64.ofText? text = dimension.points? := by
  rw [ofText?] at hread
  rcases hsign : Binary64.splitSign text.toList with ⟨negative, unsigned⟩
  simp only [hsign] at hread
  cases hsplit : splitMagnitude? unsigned with
  | none => simp [hsplit] at hread
  | some found =>
    obtain ⟨d, suffix⟩ := found
    simp only [hsplit] at hread
    obtain ⟨c, others, rfl, hfirst⟩ := exists_cons_of_splitMagnitude? hsplit
    obtain ⟨whole, fraction, hpoint, rfl⟩ := exists_splitPoint?_of_splitMagnitude? hsplit
    rw [Binary64.ofText?_of_splitSign hsign hfirst, Binary64.magnitude?, hpoint]
    cases suffix with
    | nil =>
      obtain rfl := Option.some.inj hread
      rfl
    | cons first rest =>
      -- a number text may only go on with an exponent, and no suffix begins like one
      obtain ⟨unit, hunit, rfl⟩ := Option.map_eq_some_iff.mp hread
      obtain ⟨mark, behind, hsuffix, hmark⟩ := unit.exists_suffix_mark
      rw [LengthUnit.suffix_of_ofSuffix? hunit] at hsuffix
      obtain ⟨rfl, rfl⟩ := List.cons.inj hsuffix
      simp only [if_neg hmark, Option.map_none, points?]

end ControlProps
