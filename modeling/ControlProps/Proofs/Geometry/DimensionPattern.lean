import ControlProps.Proofs.Geometry.DimensionTexts
import ControlProps.SharedSchemas

/-!
# The pattern of dimension texts

What the notation of its source says: the pattern accepts a sign, a number and the suffix of a unit
from one end to the other, with the decimal digits of any script. An engine that keeps to the
notation accepts the text of every finite length.
-/

namespace ControlProps.SharedSchemas

variable [SharedPatterns]

/-- The engine takes the pattern of dimension texts as its notation says. -/
def DimensionPatternIsExact : Prop :=
  ∀ text, dimensionPattern.matchesStart text = true ↔ DimensionText isDecimalDigit text.toList

/-- The text of a length is accepted exactly if its number is finite. -/
theorem DimensionPatternIsExact.matchesStart_length_iff (hpattern : DimensionPatternIsExact)
    {number : Binary64} {unit : LengthUnit} :
    dimensionPattern.matchesStart (Dimension.length number unit).toText = true ↔
      number.isFinite = true := by
  rw [hpattern]
  constructor
  · intro htext
    by_contra hnumber
    exact Dimension.not_dimensionText_toText unit (by simpa using hnumber) htext
  · intro hfinite
    obtain ⟨negative, text, d, htext, hspelled, _⟩ := Dimension.exists_spelled_length unit hfinite
    have hsign : IsSign (Binary64.signText negative) := by
      cases negative with
      | false => exact .inl rfl
      | true => exact .inr (.inr rfl)
    have hnumber := hspelled.numberText.imp fun _ _ => isDecimalDigit_of_isDigit
    rw [htext]
    exact .mk hsign hnumber (.inr ⟨unit, rfl⟩)

end ControlProps.SharedSchemas
