import ControlProps.Geometry.Dimension
import ControlProps.Proofs.Binary64.Text
import ControlProps.Proofs.Except

/-!
# Dimensions read back

The value of a dimension stands for that dimension again, if the number of a length is finite. The
text of an infinite length is no dimension: its number is spelled by a word.
-/

namespace ControlProps

/-- Digits are not white space. -/
theorem isBlank_of_isDigit {c : Char} (hc : c.isDigit = true) : isBlank c = false := by
  have hbounds := toNat_of_isDigit hc
  have hall : ∀ n : Nat, n < 58 → 48 ≤ n → withinBoundaries n blankBoundaries = false := by
    decide
  exact hall c.toNat (by omega) hbounds.1

/-- Nothing is trimmed off a text that neither begins nor ends with white space. -/
theorem trimBlanks_eq_self_of_ends {text : List Char}
    (hfirst : ∀ c ∈ text.head?, isBlank c = false)
    (hlast : ∀ c ∈ text.getLast?, isBlank c = false) : trimBlanks text = text := by
  have hkept {chars : List Char} (hchars : ∀ c ∈ chars.head?, isBlank c = false) :
      chars.dropWhile isBlank = chars := by
    cases chars with
    | nil => rfl
    | cons c rest => simp [hchars c rfl]
  rw [← List.head?_reverse] at hlast
  rw [trimBlanks, hkept hfirst, hkept hlast, List.reverse_reverse]

/-- Nothing is trimmed off a text without white space. -/
theorem trimBlanks_eq_self {text : List Char} (htext : ∀ c ∈ text, isBlank c = false) :
    trimBlanks text = text :=
  trimBlanks_eq_self_of_ends (fun c hc => htext c (List.mem_of_mem_head? hc))
    fun c hc => htext c (List.mem_of_mem_getLast? hc)

namespace LengthUnit

/-- A unit is known by its suffix. -/
@[simp] theorem ofSuffix?_suffix (unit : LengthUnit) :
    ofSuffix? unit.suffix.toList = some unit := by
  cases unit <;> decide +kernel

/-- No digit and no point begins a suffix. -/
theorem exists_suffix_cons (unit : LengthUnit) :
    ∃ c rest, unit.suffix.toList = c :: rest ∧ c.isDigit = false ∧ c ≠ '.' := by
  cases unit <;> exact ⟨_, _, rfl, by decide⟩

/-- No suffix begins like an exponent. -/
theorem exists_suffix_mark (unit : LengthUnit) :
    ∃ mark rest, unit.suffix.toList = mark :: rest ∧ ¬(mark = 'e' ∨ mark = 'E') := by
  cases unit <;> exact ⟨_, _, rfl, by decide⟩

/-- A unit that is known by a suffix has this suffix. -/
theorem suffix_of_ofSuffix? {suffix : List Char} {unit : LengthUnit}
    (hunit : ofSuffix? suffix = some unit) : unit.suffix.toList = suffix := by
  have hfound := List.find?_some hunit
  exact eq_of_beq hfound

/-- A suffix has no white space. -/
theorem isBlank_of_mem_suffix {unit : LengthUnit} {c : Char} (hc : c ∈ unit.suffix.toList) :
    isBlank c = false := by
  have hall : unit.suffix.toList.all (fun c => !isBlank c) = true := by
    cases unit <;> decide +kernel
  simpa using List.all_eq_true.mp hall c hc

end LengthUnit

namespace Dimension

/-- The number of a dimension, with or without a unit. -/
def magnitude : Dimension → Binary64
  | points value => value
  | length magnitude _ => magnitude

/-- Whether a text goes on with neither a digit nor a point. -/
def EndsMagnitude (rest : List Char) : Prop := ∀ c ∈ rest.head?, c.isDigit = false ∧ c ≠ '.'

/-- Behind the end there is neither. -/
theorem endsMagnitude_nil : EndsMagnitude [] := by simp [EndsMagnitude]

/-- No suffix begins with one of them. -/
theorem endsMagnitude_suffix (unit : LengthUnit) : EndsMagnitude unit.suffix.toList := by
  obtain ⟨c, rest, hsuffix, hfirst⟩ := unit.exists_suffix_cons
  rw [hsuffix]
  rintro _ ⟨⟩
  exact hfirst

/-- Digits are split off what is behind them. -/
theorem splitMagnitude?_whole {digits rest : List Char} (hdigits : IsDigits digits)
    (hrest : EndsMagnitude rest) :
    splitMagnitude? (digits ++ rest) = some (Decimal.ofDigits digits [] 0, rest) := by
  obtain ⟨htaken, hdropped⟩ :=
    takeWhile_dropWhile_append hdigits.2 fun c hc => (hrest c hc).1
  rw [splitMagnitude?, htaken, hdropped]
  cases rest with
  | nil => simp [hdigits.1]
  | cons c others => simp [hdigits.1, (hrest c rfl).2]

/-- Digits around a point are split off what is behind them. -/
theorem splitMagnitude?_fraction {whole fraction rest : List Char}
    (hwhole : ∀ c ∈ whole, c.isDigit = true) (hfraction : IsDigits fraction)
    (hrest : EndsMagnitude rest) :
    splitMagnitude? (whole ++ '.' :: (fraction ++ rest)) =
      some (Decimal.ofDigits whole fraction 0, rest) := by
  have hpoint : ∀ c ∈ ('.' :: (fraction ++ rest)).head?, c.isDigit = false := by
    rintro _ ⟨⟩
    rfl
  obtain ⟨htaken, hdropped⟩ := takeWhile_dropWhile_append hwhole hpoint
  obtain ⟨htakenBehind, hdroppedBehind⟩ :=
    takeWhile_dropWhile_append hfraction.2 fun c hc => (hrest c hc).1
  rw [splitMagnitude?, htaken, hdropped]
  simp [htakenBehind, hdroppedBehind, hfraction.1]

/-- A spelled decimal is split off the suffix behind it. -/
theorem splitMagnitude?_of_spelled {text rest : List Char} {d : Decimal}
    (hspelled : d.Spelled text) (hrest : EndsMagnitude rest) :
    splitMagnitude? (text ++ rest) = some (d, rest) := by
  cases hspelled with
  | whole hdigits => exact splitMagnitude?_whole hdigits hrest
  | fraction hwhole hfraction =>
    rw [List.append_assoc, List.cons_append]
    exact splitMagnitude?_fraction hwhole.2 hfraction hrest

/-- The text of a finite length: a sign, a decimal that is rounded to its number, and a suffix. -/
theorem exists_spelled_length {number : Binary64} (unit : LengthUnit)
    (hfinite : number.isFinite = true) :
    ∃ negative text d, (length number unit).toText.toList =
        Binary64.signText negative ++ (text ++ unit.suffix.toList) ∧
      d.Spelled text ∧ Binary64.ofDecimal negative d = number := by
  cases number with
  | nan => contradiction
  | signed negative rank =>
    obtain ⟨text, d, htext, hspelled, hvalue⟩ := Binary64.exists_spelled_toText hfinite
    refine ⟨negative, text, d, ?_, hspelled, hvalue⟩
    rw [toText, String.toList_append, htext, List.append_assoc]

/-- A sign and a magnitude that are split off the suffix of a unit spell a length. -/
theorem ofText?_of_suffix {text unsigned : List Char} {negative : Bool} {d : Decimal}
    {unit : LengthUnit} (hsign : Binary64.splitSign text = (negative, unsigned))
    (hmagnitude : splitMagnitude? unsigned = some (d, unit.suffix.toList)) :
    ofText? text = some (length (Binary64.ofDecimal negative d) unit) := by
  obtain ⟨c, rest, hsuffix, _⟩ := unit.exists_suffix_cons
  have hunit := unit.ofSuffix?_suffix
  rw [hsuffix] at hmagnitude hunit
  rw [ofText?, hsign]
  simp only [hmagnitude, hunit, Option.map_some]

/-- The text of a finite length spells that length. -/
theorem ofText?_toText {number : Binary64} {unit : LengthUnit} (hfinite : number.isFinite = true) :
    ofText? (length number unit).toText.toList = some (length number unit) := by
  obtain ⟨negative, text, d, htext, hspelled, hvalue⟩ := exists_spelled_length unit hfinite
  have hsign : Binary64.splitSign (length number unit).toText.toList =
      (negative, text ++ unit.suffix.toList) := by
    rw [htext, Binary64.splitSign_signText negative hspelled]
  have hmagnitude := splitMagnitude?_of_spelled hspelled (endsMagnitude_suffix unit)
  rw [ofText?_of_suffix hsign hmagnitude, hvalue]

/-- The text of a finite length has no white space. -/
theorem isBlank_of_mem_toText {number : Binary64} {unit : LengthUnit}
    (hfinite : number.isFinite = true) {c : Char}
    (hc : c ∈ (length number unit).toText.toList) : isBlank c = false := by
  obtain ⟨negative, text, d, htext, hspelled, _⟩ := exists_spelled_length unit hfinite
  rw [htext] at hc
  rcases List.mem_append.mp hc with hsign | hrest
  · cases negative with
    | true =>
      rw [List.mem_singleton.mp hsign]
      rfl
    | false => contradiction
  · rcases List.mem_append.mp hrest with hnumber | hsuffix
    · rcases hspelled.isDigit_or_eq_point hnumber with hdigit | rfl
      · exact isBlank_of_isDigit hdigit
      · rfl
    · exact LengthUnit.isBlank_of_mem_suffix hsuffix

@[simp] theorem toValue_length (number : Binary64) (unit : LengthUnit) :
    (length number unit).toValue = .string (length number unit).toText := rfl

/-- The value of a dimension stands for that dimension, if the number of a length is finite. -/
theorem ofValue_toValue {dimension : Dimension}
    (hfinite : ∀ number unit, dimension = length number unit → number.isFinite = true) :
    ofValue dimension.toValue = .ok (some dimension) := by
  cases dimension with
  | points value => rfl
  | length number unit =>
    have hnumber := hfinite number unit rfl
    have htrimmed : trimBlanks (length number unit).toText.toList =
        (length number unit).toText.toList :=
      trimBlanks_eq_self fun _ => isBlank_of_mem_toText hnumber
    have hread : ofText? (length number unit).toText.toList = some (length number unit) :=
      ofText?_toText hnumber
    rw [toValue_length, ofValue, htrimmed]
    split
    · rename_i hempty
      rw [hempty] at hread
      contradiction
    · rw [hread]

end Dimension

/-- Whether the number of a dimension text is finite: it does not overflow. -/
def Value.HasFiniteDimension : Value → Prop
  | .string text => ∀ dimension, Dimension.ofValue (.string text) = .ok (some dimension) →
    dimension.magnitude.isFinite = true
  | _ => True

/-- Whether a dimension text overflows is seen by reading it. -/
instance (value : Value) : Decidable value.HasFiniteDimension :=
  match value with
  | .string text =>
    match hread : Dimension.ofValue (.string text) with
    | .ok (some dimension) =>
      decidable_of_iff (dimension.magnitude.isFinite = true) (by
        constructor
        · intro hfinite other hother
          obtain rfl := Option.some.inj (Except.ok.inj (hread.symm.trans hother))
          exact hfinite
        · intro hfinite
          exact hfinite dimension hread)
    | .ok none => .isTrue fun _ hother => nomatch hread.symm.trans hother
    | .error _ => .isTrue fun _ hother => nomatch hread.symm.trans hother
  | .null | .bool _ | .int _ | .float _ | .array _ | .object _ => .isTrue trivial

namespace Dimension

/-- A length that was read from a text has a finite number, unless the text overflows. -/
theorem isFinite_of_ofValue {value : Value} {number : Binary64} {unit : LengthUnit}
    (hvalue : ofValue value = .ok (some (length number unit)))
    (hfinite : value.HasFiniteDimension) : number.isFinite = true := by
  cases value with
  | string text => exact hfinite _ hvalue
  | _ => simp [ofValue] at hvalue

/-- The value of a dimension that was read stands for it again, unless its text overflows. -/
theorem ofValue_toValue_of_ofValue {value : Value} {dimension : Dimension}
    (hvalue : ofValue value = .ok (some dimension)) (hfinite : value.HasFiniteDimension) :
    ofValue dimension.toValue = .ok (some dimension) := by
  apply ofValue_toValue
  rintro number unit rfl
  exact isFinite_of_ofValue hvalue hfinite

end Dimension

end ControlProps
