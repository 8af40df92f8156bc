import ControlProps.Proofs.Geometry.Dimension
import ControlProps.Text.Digit
import Mathlib.Data.List.TakeWhile

/-!
# The form of dimension texts

A dimension text is a sign that may be absent, a number with or without a point, and a suffix that
may be absent. What counts as a digit is left open: a text is read as a dimension exactly if it has
this form with the digits of ASCII.
-/

namespace ControlProps

/-- A digit of ASCII is a decimal digit. -/
theorem isDecimalDigit_of_isDigit {c : Char} (hc : c.isDigit = true) :
    isDecimalDigit c = true := by
  have hbounds := toNat_of_isDigit hc
  have hascii : c.toNat < 128 := by omega
  rw [isDecimalDigit, if_pos hascii, hc]

/-- One digit or more. -/
def IsRun (digit : Char → Bool) (text : List Char) : Prop :=
  text ≠ [] ∧ ∀ c ∈ text, digit c = true

/-- Digits with or without a point among them, which has one behind it. -/
inductive NumberText (digit : Char → Bool) : List Char → Prop
  | whole {digits : List Char} (hdigits : IsRun digit digits) : NumberText digit digits
  | fraction {whole fraction : List Char} (hwhole : ∀ c ∈ whole, digit c = true)
    (hfraction : IsRun digit fraction) : NumberText digit (whole ++ '.' :: fraction)

/-- What may stand before a number. -/
def IsSign (text : List Char) : Prop := text = [] ∨ text = ['+'] ∨ text = ['-']

/-- What may stand behind a number. -/
def IsSuffix (text : List Char) : Prop :=
  text = [] ∨ ∃ unit : LengthUnit, text = unit.suffix.toList

/-- A number between a sign and a suffix. -/
inductive DimensionText (digit : Char → Bool) : List Char → Prop
  | mk {sign number suffix : List Char} (hsign : IsSign sign) (hnumber : NumberText digit number)
    (hsuffix : IsSuffix suffix) : DimensionText digit (sign ++ (number ++ suffix))

variable {digit also : Char → Bool} {text number suffix : List Char}

namespace NumberText

/-- A number text begins with a digit or a point. -/
theorem exists_cons (hnumber : NumberText digit number) :
    ∃ c rest, number = c :: rest ∧ (digit c = true ∨ c = '.') := by
  cases hnumber with
  | whole hdigits =>
    obtain ⟨c, rest, rfl⟩ := List.exists_cons_of_ne_nil hdigits.1
    exact ⟨c, rest, rfl, .inl (hdigits.2 c (by simp))⟩
  | @fraction whole fraction hwhole _ =>
    cases whole with
    | nil => exact ⟨'.', fraction, rfl, .inr rfl⟩
    | cons c rest => exact ⟨c, _, rfl, .inl (hwhole c (by simp))⟩

/-- The characters of a number text. -/
theorem digit_or_eq_point (hnumber : NumberText digit number) {c : Char} (hc : c ∈ number) :
    digit c = true ∨ c = '.' := by
  cases hnumber with
  | whole hdigits => exact .inl (hdigits.2 c hc)
  | fraction hwhole hfraction =>
    rcases List.mem_append.mp hc with hc | hc
    · exact .inl (hwhole c hc)
    · rcases List.mem_cons.mp hc with hc | hc
      · exact .inr hc
      · exact .inl (hfraction.2 c hc)

/-- A number text stays one if all its digits are digits in another sense, too. -/
theorem imp (hnumber : NumberText digit number)
    (himp : ∀ c ∈ number, digit c = true → also c = true) : NumberText also number := by
  cases hnumber with
  | whole hdigits => exact .whole ⟨hdigits.1, fun c hc => himp c hc (hdigits.2 c hc)⟩
  | fraction hwhole hfraction =>
    refine .fraction (fun c hc => himp c (by simp [hc]) (hwhole c hc)) ⟨hfraction.1, ?_⟩
    exact fun c hc => himp c (by simp [hc]) (hfraction.2 c hc)

end NumberText

/-- A spelled decimal is a number text. -/
theorem Decimal.Spelled.numberText {d : Decimal} (hspelled : d.Spelled text) :
    NumberText Char.isDigit text := by
  cases hspelled with
  | whole hdigits => exact .whole hdigits
  | fraction hwhole hfraction => exact .fraction hwhole.2 hfraction

/-- No decimal digit is a sign. -/
theorem IsSign.isDecimalDigit_eq_false (hsign : IsSign text) {c : Char} (hc : c ∈ text) :
    isDecimalDigit c = false := by
  rcases hsign with rfl | rfl | rfl
  · simp at hc
  · obtain rfl := List.mem_singleton.mp hc
    rfl
  · obtain rfl := List.mem_singleton.mp hc
    rfl

/-- No decimal digit is in a suffix. -/
theorem IsSuffix.isDecimalDigit_eq_false (hsuffix : IsSuffix text) {c : Char} (hc : c ∈ text) :
    isDecimalDigit c = false := by
  rcases hsuffix with rfl | ⟨unit, rfl⟩
  · simp at hc
  · have hall : unit.suffix.toList.all (fun c => !isDecimalDigit c) = true := by
      cases unit <;> decide +kernel
    simpa using List.all_eq_true.mp hall c hc

/-- A dimension text stays one if all its digits are digits in another sense, too. -/
theorem DimensionText.imp (htext : DimensionText digit text)
    (himp : ∀ c ∈ text, digit c = true → also c = true) : DimensionText also text := by
  obtain ⟨hsign, hnumber, hsuffix⟩ := htext
  exact .mk hsign (hnumber.imp fun c hc => himp c (by simp [hc])) hsuffix

/-- The dimension texts in ASCII are those in any script whose digits are all in ASCII. -/
theorem dimensionText_isDigit_iff :
    DimensionText Char.isDigit text ↔
      DimensionText isDecimalDigit text ∧
        ∀ c ∈ text, isDecimalDigit c = true → c.isDigit = true := by
  constructor
  · intro htext
    refine ⟨htext.imp fun _ _ => isDecimalDigit_of_isDigit, fun c hc hdecimal => ?_⟩
    obtain ⟨hsign, hnumber, hsuffix⟩ := htext
    rcases List.mem_append.mp hc with hc | hc
    · simp [hsign.isDecimalDigit_eq_false hc] at hdecimal
    · rcases List.mem_append.mp hc with hc | hc
      · rcases hnumber.digit_or_eq_point hc with hdigit | rfl
        · exact hdigit
        · contradiction
      · simp [hsuffix.isDecimalDigit_eq_false hc] at hdecimal
  · rintro ⟨htext, hascii⟩
    exact htext.imp hascii

/-- Behind its sign, a dimension text begins with a digit or a point. -/
theorem DimensionText.exists_cons (htext : DimensionText digit text) :
    ∃ sign c rest, text = sign ++ c :: rest ∧ IsSign sign ∧ (digit c = true ∨ c = '.') := by
  obtain ⟨hsign, hnumber, _⟩ := htext
  obtain ⟨c, rest, rfl, hc⟩ := hnumber.exists_cons
  exact ⟨_, c, _, rfl, hsign, hc⟩

/-- What begins with a letter, with or without a minus before it, is no dimension text. -/
theorem not_dimensionText_of_word {c : Char} {rest : List Char} (negative : Bool)
    (hminus : digit '-' = false) (hdigit : digit c = false) (hc : c ∉ ['+', '-', '.']) :
    ¬DimensionText digit (Binary64.signText negative ++ c :: rest) := by
  intro htext
  obtain ⟨sign, first, behind, hsplit, hsign, hfirst⟩ := htext.exists_cons
  cases negative with
  | true =>
    rcases hsign with rfl | rfl | rfl
    · obtain ⟨rfl, _⟩ := List.cons.inj hsplit
      simp [hminus] at hfirst
    · simp [Binary64.signText] at hsplit
    · obtain ⟨_, hsplit⟩ := List.cons.inj hsplit
      obtain ⟨rfl, _⟩ := List.cons.inj hsplit
      simp_all
  | false =>
    rcases hsign with rfl | rfl | rfl
    · obtain ⟨rfl, _⟩ := List.cons.inj hsplit
      simp_all
    · obtain ⟨rfl, _⟩ := List.cons.inj hsplit
      simp at hc
    · obtain ⟨rfl, _⟩ := List.cons.inj hsplit
      simp at hc

/-- A number that is not finite is spelled by a word, with or without a minus before it. -/
theorem Binary64.exists_word_of_not_isFinite {number : Binary64}
    (hnumber : number.isFinite = false) :
    ∃ negative word, number.toText.toList = signText negative ++ word ∧
      (word = "inf".toList ∨ word = "NaN".toList) := by
  cases number with
  | nan => exact ⟨false, _, rfl, .inr rfl⟩
  | signed negative rank =>
    have hrank : ¬rank.val < infinityRank := of_decide_eq_false hnumber
    refine ⟨negative, _, ?_, .inl rfl⟩
    rw [toText, if_neg hrank]
    cases negative <;> rfl

/-- A sign is split off what is behind it, if that does not begin with a sign. -/
theorem exists_splitSign_append {sign : List Char} (hsign : IsSign sign)
    (hnumber : NumberText Char.isDigit number) (suffix : List Char) :
    ∃ negative, Binary64.splitSign (sign ++ (number ++ suffix)) = (negative, number ++ suffix) := by
  rcases hsign with rfl | rfl | rfl
  · obtain ⟨c, rest, rfl, hc⟩ := hnumber.exists_cons
    refine ⟨false, ?_⟩
    rw [List.nil_append, List.cons_append]
    unfold Binary64.splitSign
    split
    · rename_i heq
      obtain ⟨rfl, _⟩ := List.cons.inj heq
      simp at hc
    · rename_i heq
      obtain ⟨rfl, _⟩ := List.cons.inj heq
      simp at hc
    · rfl
  · exact ⟨false, rfl⟩
  · exact ⟨true, rfl⟩

/-- What is split off a text is a sign. -/
theorem exists_sign_of_splitSign {unsigned : List Char} {negative : Bool}
    (hsplit : Binary64.splitSign text = (negative, unsigned)) :
    ∃ sign, IsSign sign ∧ text = sign ++ unsigned := by
  unfold Binary64.splitSign at hsplit
  split at hsplit
  · obtain ⟨_, rfl⟩ := Prod.mk.inj hsplit
    exact ⟨['-'], .inr (.inr rfl), rfl⟩
  · obtain ⟨_, rfl⟩ := Prod.mk.inj hsplit
    exact ⟨['+'], .inr (.inl rfl), rfl⟩
  · obtain ⟨_, rfl⟩ := Prod.mk.inj hsplit
    exact ⟨[], .inl rfl, rfl⟩

namespace Dimension

/-- A number text is split off what is behind it, if that goes on with neither a digit nor a
point. -/
theorem exists_splitMagnitude?_append (hnumber : NumberText Char.isDigit number)
    (hsuffix : EndsMagnitude suffix) :
    ∃ d, splitMagnitude? (number ++ suffix) = some (d, suffix) := by
  cases hnumber with
  | whole hdigits => exact ⟨_, splitMagnitude?_whole hdigits hsuffix⟩
  | fraction hwhole hfraction =>
    rw [List.append_assoc, List.cons_append]
    exact ⟨_, splitMagnitude?_fraction hwhole hfraction hsuffix⟩

/-- What is split off a text is a number text. -/
theorem exists_numberText_of_splitMagnitude? {d : Decimal}
    (hsplit : splitMagnitude? text = some (d, suffix)) :
    ∃ number, text = number ++ suffix ∧ NumberText Char.isDigit number := by
  have hdigits {chars : List Char} : ∀ c ∈ chars.takeWhile Char.isDigit, c.isDigit = true :=
    fun _ => List.mem_takeWhile_imp
  have hparts := text.takeWhile_append_dropWhile (p := Char.isDigit)
  unfold splitMagnitude? at hsplit
  dsimp only at hsplit
  split at hsplit
  · rename_i rest hrest
    split at hsplit
    · contradiction
    · rename_i hfraction
      obtain ⟨_, rfl⟩ := Prod.mk.inj (Option.some.inj hsplit)
      refine ⟨text.takeWhile Char.isDigit ++ '.' :: rest.takeWhile Char.isDigit, ?_,
        .fraction hdigits ⟨by simpa using hfraction, hdigits⟩⟩
      rw [List.append_assoc, List.cons_append, List.takeWhile_append_dropWhile, ← hrest, hparts]
  · split at hsplit
    · contradiction
    · rename_i hwhole
      obtain ⟨_, rfl⟩ := Prod.mk.inj (Option.some.inj hsplit)
      exact ⟨text.takeWhile Char.isDigit, hparts.symm, .whole ⟨by simpa using hwhole, hdigits⟩⟩

/-- The texts that are read as dimensions are the dimension texts in ASCII. -/
theorem exists_ofText?_iff :
    (∃ dimension, ofText? text = some dimension) ↔ DimensionText Char.isDigit text := by
  constructor
  · rintro ⟨dimension, hread⟩
    rw [ofText?] at hread
    rcases hsplit : Binary64.splitSign text with ⟨negative, unsigned⟩
    obtain ⟨sign, hsign, rfl⟩ := exists_sign_of_splitSign hsplit
    simp only [hsplit] at hread
    cases hmagnitude : splitMagnitude? unsigned with
    | none => simp [hmagnitude] at hread
    | some found =>
      obtain ⟨d, suffix⟩ := found
      obtain ⟨number, rfl, hnumber⟩ := exists_numberText_of_splitMagnitude? hmagnitude
      refine .mk hsign hnumber ?_
      cases suffix with
      | nil => exact .inl rfl
      | cons c rest =>
        simp only [hmagnitude] at hread
        obtain ⟨unit, hunit, _⟩ := Option.map_eq_some_iff.mp hread
        exact .inr ⟨unit, (LengthUnit.suffix_of_ofSuffix? hunit).symm⟩
  · rintro ⟨hsign, hnumber, hsuffix⟩
    rcases hsuffix with rfl | ⟨unit, rfl⟩
    · obtain ⟨negative, hsplit⟩ := exists_splitSign_append hsign hnumber []
      obtain ⟨d, hmagnitude⟩ := exists_splitMagnitude?_append hnumber endsMagnitude_nil
      refine ⟨points (Binary64.ofDecimal negative d), ?_⟩
      rw [ofText?, hsplit]
      simp only [hmagnitude]
    · obtain ⟨negative, hsplit⟩ := exists_splitSign_append hsign hnumber unit.suffix.toList
      obtain ⟨d, hmagnitude⟩ := exists_splitMagnitude?_append hnumber (endsMagnitude_suffix unit)
      exact ⟨_, ofText?_of_suffix hsplit hmagnitude⟩

/-- A text is read as a dimension if what is left without white space at its ends is one. -/
theorem exists_ofValue_string_iff {text : String} :
    (∃ size, ofValue (.string text) = .ok size) ↔
      DimensionText Char.isDigit (trimBlanks text.toList) := by
  rw [← exists_ofText?_iff, ofValue]
  split
  · rename_i hempty
    have hnone : ofText? [] = none := rfl
    simp [hempty, hnone]
  · cases ofText? (trimBlanks text.toList) with
    | none => simp
    | some dimension => simp

/-- Whether the number of a length, if this is one, is finite. -/
def HasFiniteLength (size : Dimension) : Prop :=
  ∀ number unit, size = length number unit → number.isFinite = true

@[simp] theorem hasFiniteLength_points (value : Binary64) : (points value).HasFiniteLength := nofun

@[simp] theorem hasFiniteLength_length_iff {number : Binary64} {unit : LengthUnit} :
    (length number unit).HasFiniteLength ↔ number.isFinite = true := by
  refine ⟨fun hfinite => hfinite number unit rfl, fun hfinite => ?_⟩
  rintro _ _ ⟨⟩
  exact hfinite

/-- The text of a length whose number is not finite is no dimension text. -/
theorem not_dimensionText_toText {number : Binary64} (unit : LengthUnit)
    (hnumber : number.isFinite = false) :
    ¬DimensionText isDecimalDigit (length number unit).toText.toList := by
  obtain ⟨negative, word, htext, hword⟩ := Binary64.exists_word_of_not_isFinite hnumber
  rw [toText, String.toList_append, htext, List.append_assoc]
  rcases hword with rfl | rfl
  · exact not_dimensionText_of_word negative rfl rfl (by decide)
  · exact not_dimensionText_of_word negative rfl rfl (by decide)

/-- No white space is in the text of such a length either. -/
theorem isBlank_of_mem_word {number : Binary64} {unit : LengthUnit}
    (hnumber : number.isFinite = false) {c : Char}
    (hc : c ∈ (length number unit).toText.toList) : isBlank c = false := by
  obtain ⟨negative, word, htext, hword⟩ := Binary64.exists_word_of_not_isFinite hnumber
  rw [toText, String.toList_append, htext] at hc
  rcases List.mem_append.mp hc with hc | hc
  · have hall : (Binary64.signText negative ++ word).all (fun c => !isBlank c) = true := by
      rcases hword with rfl | rfl <;> cases negative <;> decide +kernel
    simpa using List.all_eq_true.mp hall c hc
  · exact LengthUnit.isBlank_of_mem_suffix hc

/-- The text of such a length is refused. -/
theorem ofValue_toValue_of_not_isFinite {number : Binary64} (unit : LengthUnit)
    (hnumber : number.isFinite = false) :
    ofValue (length number unit).toValue =
      .error (.invalid .dimension (length number unit).toText) := by
  have htrimmed : trimBlanks (length number unit).toText.toList =
      (length number unit).toText.toList :=
    trimBlanks_eq_self fun _ => isBlank_of_mem_word hnumber
  have hunread : ofText? (length number unit).toText.toList = none := by
    rw [← Option.not_isSome_iff_eq_none, Option.isSome_iff_exists, exists_ofText?_iff]
    intro htext
    exact not_dimensionText_toText unit hnumber (htext.imp fun _ _ => isDecimalDigit_of_isDigit)
  rw [toValue_length, ofValue, htrimmed]
  split
  · rename_i hempty
    obtain ⟨c, rest, hsuffix, _⟩ := unit.exists_suffix_cons
    rw [toText, String.toList_append, hsuffix] at hempty
    simp at hempty
  · rw [hunread]

/-- A one with many zeros behind it, in some unit. -/
def overflowingText (zeros : Nat) (unit : LengthUnit) : String :=
  String.ofList ('1' :: List.replicate zeros '0' ++ unit.suffix.toList)

/-- Such a text has the form of a dimension text. -/
theorem dimensionText_overflowingText (zeros : Nat) (unit : LengthUnit) :
    DimensionText Char.isDigit (overflowingText zeros unit).toList := by
  have hdigits : IsRun Char.isDigit ('1' :: List.replicate zeros '0') :=
    ⟨List.cons_ne_nil _ _, List.forall_mem_cons.mpr ⟨rfl, fun _ => isDigit_of_mem_zeros⟩⟩
  rw [overflowingText, String.toList_ofList]
  exact .mk (.inl rfl) (.whole hdigits) (.inr ⟨unit, rfl⟩)

/-- With more zeros than a finite number can have, it is read as an infinite length. -/
theorem ofValue_overflowingText {zeros : Nat} (hzeros : 309 ≤ zeros) (unit : LengthUnit) :
    ofValue (.string (overflowingText zeros unit)) =
      .ok (some (length (Binary64.infinity false) unit)) := by
  have hdigits : IsDigits ('1' :: List.replicate zeros '0') :=
    ⟨List.cons_ne_nil _ _, List.forall_mem_cons.mpr ⟨rfl, fun _ => isDigit_of_mem_zeros⟩⟩
  have hread : ofText? (overflowingText zeros unit).toList =
      some (length (Binary64.infinity false) unit) := by
    have hsign := @Binary64.splitSign_signText _ unit.suffix.toList _ false (.whole hdigits)
    have hmagnitude := splitMagnitude?_of_spelled (.whole hdigits) (endsMagnitude_suffix unit)
    rw [overflowingText, String.toList_ofList, ← Binary64.ofDecimal_overflow false hzeros]
    exact ofText?_of_suffix hsign hmagnitude
  have hblank : ∀ c ∈ (overflowingText zeros unit).toList, isBlank c = false := by
    rw [overflowingText, String.toList_ofList]
    intro c hc
    rcases List.mem_append.mp hc with hc | hc
    · exact isBlank_of_isDigit (hdigits.2 c hc)
    · exact LengthUnit.isBlank_of_mem_suffix hc
  rw [ofValue, trimBlanks_eq_self hblank]
  split
  · rename_i hempty
    rw [hempty] at hread
    contradiction
  · rw [hread]

end Dimension

end ControlProps
