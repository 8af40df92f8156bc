import ControlProps.Engine.Patterns
import ControlProps.Proofs.Engine.Matching
import ControlProps.Proofs.Geometry.DimensionPattern

/-!
# The expression of dimension texts

Each part of the expression has a language of its own, and in sequence between the anchors they make
up the dimension texts. So the engine of expressions takes the pattern as its notation says.
-/

namespace ControlProps.Expression

variable {body : Expression} {l : Language Char} {chars : List Char}

/-- One character as an expression. -/
theorem describes_single (c : Char) : (one (.single c)).Describes {[c]} := by
  refine (Describes.char (.single c)).congr fun chars => ?_
  constructor
  · rintro ⟨d, hd, rfl⟩
    rw [beq_iff_eq.mp hd]
    rfl
  · rintro rfl
    exact ⟨c, beq_self_eq_true c, rfl⟩

/-- A literal matches its text. -/
theorem describes_literal (text : String) : (literal text).Describes {text.toList} := by
  have hfold (chars : List Char) (front : Expression) (read : List Char)
      (hfront : front.Describes {read}) :
      ((chars.map fun c => one (.single c)).foldl .sequence front).Describes {read ++ chars} := by
    induction chars generalizing front read with
    | nil => simpa using hfront
    | cons c rest ih =>
      have hnext : (sequence front (one (.single c))).Describes {read ++ [c]} := by
        refine (hfront.sequence (describes_single c)).congr fun chars => ?_
        rw [Language.mem_mul]
        constructor
        · rintro ⟨_, rfl, _, rfl, rfl⟩
          rfl
        · rintro rfl
          exact ⟨read, rfl, [c], rfl, rfl⟩
      have hrest := ih _ _ hnext
      rw [List.append_assoc] at hrest
      exact hrest
  exact hfold text.toList .empty [] .nothing

/-- What may be absent matches nothing or what it matches when it is there. -/
theorem describes_optional (hbody : body.Describes l) : (optional body).Describes (1 + l) := by
  refine (hbody.repeated 0 (some 1)).congr fun chars => ?_
  rw [Language.mem_add]
  constructor
  · rintro ⟨more, hmore, hchars⟩
    match more, hmore 1 rfl with
    | 0, _ => exact .inl (by simpa using hchars)
    | 1, _ => exact .inr (by simpa using hchars)
  · rintro (hnone | hchars)
    · exact ⟨0, by simp, by simpa using hnone⟩
    · exact ⟨1, by simp, by simpa using hchars⟩

/-- Digits are a run of them. -/
theorem describes_digits : digits.Describes (textsWith (IsRun isDecimalDigit)) := by
  refine ((Describes.char .digit).repeated 1 none).congr fun chars => ?_
  constructor
  · rintro ⟨more, _, hchars⟩
    obtain ⟨hlength, hall⟩ := mem_singles_pow_iff.mp hchars
    exact ⟨List.ne_nil_of_length_pos (by omega), hall⟩
  · rintro ⟨hnonempty, hall⟩
    have hlength := List.length_pos_iff.mpr hnonempty
    exact ⟨chars.length - 1, by simp, mem_singles_pow_iff.mpr ⟨by omega, hall⟩⟩

/-- A sign that may be absent. -/
theorem describes_sign : (optional sign).Describes (textsWith IsSign) := by
  refine (describes_optional (Describes.char _)).congr fun chars => or_congr_right ?_
  constructor
  · rintro ⟨c, hc, rfl⟩
    have hsign : c = '+' ∨ c = '-' := by simpa [CharSet.contains] using hc
    exact hsign.imp (congrArg ([·])) (congrArg ([·]))
  · rintro (rfl | rfl)
    · exact ⟨'+', rfl, rfl⟩
    · exact ⟨'-', rfl, rfl⟩

/-- A point and digits. -/
theorem describes_fraction : fraction.Describes <| textsWith fun chars =>
    ∃ digits, IsRun isDecimalDigit digits ∧ chars = '.' :: digits := by
  refine ((Describes.nothing.sequence (describes_single '.')).sequence describes_digits).congr
    fun chars => ?_
  rw [one_mul, Language.mem_mul]
  constructor
  · rintro ⟨_, rfl, digits, hdigits, rfl⟩
    exact ⟨digits, hdigits, rfl⟩
  · rintro ⟨digits, hdigits, rfl⟩
    exact ⟨['.'], rfl, digits, hdigits, rfl⟩

/-- A number text. -/
theorem describes_number : number.Describes (textsWith (NumberText isDecimalDigit)) := by
  refine (((Describes.nothing.sequence describes_digits).sequence
    (describes_optional describes_fraction)).alternatives describes_fraction).congr fun chars => ?_
  rw [one_mul, Language.mem_add, Language.mem_mul]
  constructor
  · rintro (⟨whole, hwhole, _, rfl | ⟨digits, hdigits, rfl⟩, rfl⟩ | ⟨digits, hdigits, rfl⟩)
    · rw [List.append_nil]
      exact .whole hwhole
    · exact .fraction hwhole.2 hdigits
    · have hnone : ∀ c ∈ ([] : List Char), isDecimalDigit c = true := by simp
      exact .fraction hnone hdigits
  · intro hnumber
    cases hnumber with
    | whole hdigits => exact .inl ⟨chars, hdigits, [], .inl rfl, List.append_nil chars⟩
    | @fraction whole digits hwhole hdigits =>
      by_cases hempty : whole = []
      · exact .inr ⟨digits, hdigits, by rw [hempty, List.nil_append]⟩
      · exact .inl ⟨whole, ⟨hempty, hwhole⟩, '.' :: digits, .inr ⟨digits, hdigits, rfl⟩, rfl⟩

/-- The suffix of a unit. -/
theorem describes_unit :
    unit.Describes (textsWith fun chars => ∃ unit : LengthUnit, chars = unit.suffix.toList) := by
  refine ((describes_literal "%").alternatives ((describes_literal "px").alternatives
    ((describes_literal "vw").alternatives ((describes_literal "vh").alternatives
      ((describes_literal "vmin").alternatives (describes_literal "vmax")))))).congr fun chars => ?_
  constructor
  · rintro (hunit | hunit | hunit | hunit | hunit | hunit)
    · exact ⟨.percent, hunit⟩
    · exact ⟨.px, hunit⟩
    · exact ⟨.vw, hunit⟩
    · exact ⟨.vh, hunit⟩
    · exact ⟨.vmin, hunit⟩
    · exact ⟨.vmax, hunit⟩
  · rintro ⟨unit, rfl⟩
    cases unit with
    | percent => exact .inl rfl
    | px => exact .inr (.inl rfl)
    | vw => exact .inr (.inr (.inl rfl))
    | vh => exact .inr (.inr (.inr (.inl rfl)))
    | vmin => exact .inr (.inr (.inr (.inr (.inl rfl))))
    | vmax => exact .inr (.inr (.inr (.inr (.inr rfl))))

/-- A sign, a number and the suffix of a unit are a dimension text. -/
theorem describes_dimensionText :
    (sequence (sequence (optional sign) number) (optional unit)).Describes
      (textsWith (DimensionText isDecimalDigit)) := by
  refine ((describes_sign.sequence describes_number).sequence
    (describes_optional describes_unit)).congr fun chars => ?_
  simp only [Language.mem_mul]
  constructor
  · rintro ⟨_, ⟨sign, hsign, number, hnumber, rfl⟩, suffix, hsuffix, rfl⟩
    rw [List.append_assoc]
    exact .mk hsign hnumber hsuffix
  · rintro ⟨hsign, hnumber, hsuffix⟩
    exact ⟨_, ⟨_, hsign, _, hnumber, rfl⟩, _, hsuffix, List.append_assoc _ _ _⟩

/-- The anchors make the whole text a dimension text. -/
theorem exists_matches_dimension_iff {text : Array Char} :
    (∃ last, dimension.Matches text 0 last) ↔ DimensionText isDecimalDigit text.toList := by
  have hinner (last : Nat) : dimension.Matches text 0 last ↔
      (sequence (sequence (optional sign) number) (optional unit)).Matches text 0 last ∧
        text.size ≤ last := by
    constructor
    · rintro ⟨_, ⟨back, ⟨front, ⟨_, ⟨_, rfl, rfl, _⟩, hsign⟩, hnumber⟩, hunit⟩, rfl, hend⟩
      exact ⟨⟨back, ⟨front, hsign, hnumber⟩, hunit⟩, of_decide_eq_true hend⟩
    · rintro ⟨⟨back, ⟨front, hsign, hnumber⟩, hunit⟩, hend⟩
      exact ⟨last, ⟨back, ⟨front, ⟨0, ⟨0, rfl, rfl, rfl⟩, hsign⟩, hnumber⟩, hunit⟩, rfl,
        decide_eq_true hend⟩
  simp only [hinner, describes_dimensionText text]
  constructor
  · rintro ⟨last, ⟨chars, hchars, hspans⟩, hend⟩
    rw [← Spans.whole_iff.mp ⟨last, hspans, hend⟩]
    exact hchars
  · intro htext
    obtain ⟨last, hspans, hend⟩ := Spans.whole_iff.mpr (Eq.refl text.toList)
    exact ⟨last, ⟨_, htext, hspans⟩, hend⟩

/-- The engine of expressions takes the pattern of dimension texts as its notation says. -/
theorem dimensionPatternIsExact : SharedSchemas.DimensionPatternIsExact := by
  intro text
  rw [Pattern.matchesStart, beq_iff_eq]
  exact find?_eq_some_zero_iff.trans exists_matches_dimension_iff

end ControlProps.Expression
