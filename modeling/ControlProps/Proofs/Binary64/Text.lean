import ControlProps.Binary64.Text
import ControlProps.Proofs.Binary64.Decimals

/-!
# The plain spelling of numbers

A finite number is written as an optional sign, digits and, behind a point, more digits. The decimal
that this text spells is rounded to the number again.
-/

namespace ControlProps

/-- The code points of digits. -/
theorem toNat_of_isDigit {c : Char} (hc : c.isDigit = true) : 48 ≤ c.toNat ∧ c.toNat ≤ 57 := by
  simpa [Char.isDigit, UInt32.le_iff_toNat_le] using hc

/-- A run of characters of a class ends where a text goes on with another one. -/
theorem takeWhile_dropWhile_append {p : Char → Bool} {run rest : List Char}
    (hrun : ∀ c ∈ run, p c = true) (hrest : ∀ c ∈ rest.head?, p c = false) :
    (run ++ rest).takeWhile p = run ∧ (run ++ rest).dropWhile p = rest := by
  rw [List.takeWhile_append_of_pos hrun, List.dropWhile_append_of_pos hrun]
  cases rest with
  | nil => simp
  | cons c others => simp [hrest c rfl]

/-- One decimal digit or more. -/
def IsDigits (text : List Char) : Prop := text ≠ [] ∧ ∀ c ∈ text, c.isDigit = true

/-- Digits after digits are digits. -/
theorem IsDigits.append {front back : List Char} (hfront : IsDigits front)
    (hback : ∀ c ∈ back, c.isDigit = true) : IsDigits (front ++ back) := by
  refine ⟨by simp [hfront.1], fun c hc => ?_⟩
  rcases List.mem_append.mp hc with hc | hc
  · exact hfront.2 c hc
  · exact hback c hc

/-- The digits of a natural number. -/
theorem isDigits_toDigits (n : Nat) : IsDigits (Nat.toDigits 10 n) :=
  ⟨Nat.toDigits_ne_nil, fun _ hc => Nat.isDigit_of_mem_toDigits (by decide) (by decide) hc⟩

/-- A run of zeros has digits only. -/
theorem isDigit_of_mem_zeros {count : Nat} {c : Char} (hc : c ∈ List.replicate count '0') :
    c.isDigit = true := by
  rw [List.eq_of_mem_replicate hc]
  rfl

/-- The digits of a natural number have its value. -/
theorem digitsValue_toDigits (n : Nat) : digitsValue (Nat.toDigits 10 n) = n := by
  have hvalue : Nat.ofDigitChars 10 (Nat.toDigits 10 n) 0 = n := Nat.ofDigitChars_ten_toDigits
  rw [Nat.ofDigitChars_eq_foldl] at hvalue
  exact hvalue

/-- Zeros behind digits multiply their value. -/
theorem digitsValue_append_zeros (digits : List Char) (count : Nat) :
    digitsValue (digits ++ List.replicate count '0') = digitsValue digits * 10 ^ count := by
  induction count with
  | zero => simp
  | succ count ih =>
    have hlast : digitsValue (digits ++ List.replicate (count + 1) '0') =
        10 * digitsValue (digits ++ List.replicate count '0') := by
      simp [digitsValue, List.replicate_succ']
    rw [hlast, ih, Nat.pow_succ, Nat.mul_comm 10, Nat.mul_assoc]

/-- Zeros before digits do not change their value. -/
theorem digitsValue_zeros_append (count : Nat) (digits : List Char) :
    digitsValue (List.replicate count '0' ++ digits) = digitsValue digits := by
  induction count with
  | zero => rfl
  | succ count ih => exact ih

namespace Decimal

/-- A text of digits and, behind a point, more digits, with the decimal that it spells. -/
inductive Spelled : List Char → Decimal → Prop
  | whole {digits : List Char} (hdigits : IsDigits digits) :
    Spelled digits (ofDigits digits [] 0)
  | fraction {whole fraction : List Char} (hwhole : IsDigits whole)
    (hfraction : IsDigits fraction) :
    Spelled (whole ++ '.' :: fraction) (ofDigits whole fraction 0)

/-- A spelled decimal begins with a digit. -/
theorem Spelled.exists_cons {text : List Char} {d : Decimal} (hspelled : Spelled text d) :
    ∃ digit rest, text = digit :: rest ∧ digit.isDigit = true := by
  have hcons {digits : List Char} (hdigits : IsDigits digits) :
      ∃ digit rest, digits = digit :: rest ∧ digit.isDigit = true := by
    obtain ⟨digit, rest, rfl⟩ := List.exists_cons_of_ne_nil hdigits.1
    exact ⟨digit, rest, rfl, hdigits.2 digit (by simp)⟩
  cases hspelled with
  | whole hdigits => exact hcons hdigits
  | fraction hwhole _ =>
    obtain ⟨digit, rest, rfl, hdigit⟩ := hcons hwhole
    exact ⟨digit, _, rfl, hdigit⟩

/-- The characters of a spelled decimal. -/
theorem Spelled.isDigit_or_eq_point {text : List Char} {d : Decimal} (hspelled : Spelled text d)
    {c : Char} (hc : c ∈ text) : c.isDigit = true ∨ c = '.' := by
  cases hspelled with
  | whole hdigits => exact .inl (hdigits.2 c hc)
  | fraction hwhole hfraction =>
    rcases List.mem_append.mp hc with hc | hc
    · exact .inl (hwhole.2 c hc)
    · rcases List.mem_cons.mp hc with hc | hc
      · exact .inr hc
      · exact .inl (hfraction.2 c hc)

/-- A decimal without places after the point is spelled by digits and zeros. -/
theorem exists_spelled_whole (coefficient zeros : Nat) :
    ∃ spelled, Spelled (Decimal.mk coefficient zeros).positional.toList spelled ∧
      spelled.nearestRank = (Decimal.mk coefficient zeros).nearestRank := by
  generalize hdigits : Nat.toDigits 10 coefficient ++
    List.replicate (if coefficient = 0 then 0 else zeros) '0' = digits
  have hall : IsDigits digits := by
    rw [← hdigits]
    exact (isDigits_toDigits coefficient).append fun _ => isDigit_of_mem_zeros
  refine ⟨ofDigits digits [] 0, ?_, ?_⟩
  · have htext : (Decimal.mk coefficient zeros).positional.toList = digits := by
      simp [positional, hdigits]
    rw [htext]
    exact .whole hall
  · rw [← hdigits]
    by_cases hzero : coefficient = 0
    · simp [ofDigits, hzero, digitsValue, nearestRank]
    · simp [ofDigits, hzero, digitsValue_append_zeros, digitsValue_toDigits, nearestRank_mul_pow]

/-- A decimal with places after the point is spelled by its digits, filled up with zeros. -/
theorem exists_spelled_fraction (coefficient : Nat) {places : Nat} (hplaces : 0 < places) :
    ∃ spelled, Spelled (Decimal.mk coefficient (-places)).positional.toList spelled ∧
      spelled.nearestRank = (Decimal.mk coefficient (-places)).nearestRank := by
  generalize hdigits : Nat.toDigits 10 coefficient = digits
  generalize hpadded : List.replicate (places + 1 - digits.length) '0' ++ digits = padded
  have hlength : places < padded.length := by
    rw [← hpadded, List.length_append, List.length_replicate]
    omega
  have hall : ∀ c ∈ padded, c.isDigit = true := by
    intro c hc
    rw [← hpadded] at hc
    rcases List.mem_append.mp hc with hc | hc
    · exact isDigit_of_mem_zeros hc
    · rw [← hdigits] at hc
      exact (isDigits_toDigits coefficient).2 c hc
  have hvalue : digitsValue padded = coefficient := by
    rw [← hpadded, digitsValue_zeros_append, ← hdigits, digitsValue_toDigits]
  have hwhole : IsDigits (padded.take (padded.length - places)) := by
    refine ⟨?_, fun c hc => hall c (List.mem_of_mem_take hc)⟩
    rw [← List.length_pos_iff, List.length_take]
    omega
  have hfraction : IsDigits (padded.drop (padded.length - places)) := by
    refine ⟨?_, fun c hc => hall c (List.mem_of_mem_drop hc)⟩
    rw [← List.length_pos_iff, List.length_drop]
    omega
  refine ⟨ofDigits (padded.take (padded.length - places))
    (padded.drop (padded.length - places)) 0, ?_, ?_⟩
  · have htext : (Decimal.mk coefficient (-places)).positional.toList =
        padded.take (padded.length - places) ++ '.' :: padded.drop (padded.length - places) := by
      have hnegative : ¬0 ≤ -(places : Int) := by omega
      simp only [positional, if_neg hnegative, Int.neg_neg, Int.toNat_natCast, hdigits, hpadded,
        String.toList_ofList]
    rw [htext]
    exact .fraction hwhole hfraction
  · have hdrop : padded.length - (padded.length - places) = places := by omega
    simp [ofDigits, hvalue, hdrop]

/-- Positional notation spells a decimal that is rounded alike. -/
theorem exists_spelled_positional (d : Decimal) :
    ∃ spelled, Spelled d.positional.toList spelled ∧ spelled.nearestRank = d.nearestRank := by
  obtain ⟨coefficient, exponent⟩ := d
  by_cases hexponent : 0 ≤ exponent
  · obtain ⟨zeros, rfl⟩ := Int.eq_ofNat_of_zero_le hexponent
    exact exists_spelled_whole coefficient zeros
  · obtain ⟨places, rfl⟩ : ∃ places : Nat, exponent = -places :=
      ⟨exponent.natAbs, by omega⟩
    exact exists_spelled_fraction coefficient (by omega)

end Decimal

namespace Binary64

/-- The sign that is written before a negative number. -/
def signText (negative : Bool) : List Char := if negative then ['-'] else []

/-- The text of a finite number is a sign and a decimal that is rounded to the number. -/
theorem exists_spelled_toText {negative : Bool} {rank : Fin (infinityRank + 1)}
    (hfinite : (signed negative rank).isFinite = true) :
    ∃ text d, (signed negative rank).toText.toList = signText negative ++ text ∧
      d.Spelled text ∧ ofDecimal negative d = signed negative rank := by
  have hrank : rank.val < infinityRank := of_decide_eq_true hfinite
  obtain ⟨d, hspelled, hnearest⟩ := (Decimal.shortest .upward rank).exists_spelled_positional
  rw [Decimal.shortest_nearestRank .upward hrank] at hnearest
  refine ⟨_, d, ?_, hspelled, ?_⟩
  · cases negative <;> simp [toText, signText, hrank]
  · rw [ofDecimal, hnearest, ofRank_val]

/-- A sign is told from the decimal that it precedes. -/
theorem splitSign_signText {text rest : List Char} {d : Decimal} (negative : Bool)
    (hspelled : d.Spelled text) :
    splitSign (signText negative ++ (text ++ rest)) = (negative, text ++ rest) := by
  obtain ⟨digit, others, rfl, hdigit⟩ := hspelled.exists_cons
  cases negative with
  | true => rfl
  | false =>
    have hminus : digit ≠ '-' := by
      rintro rfl
      contradiction
    have hplus : digit ≠ '+' := by
      rintro rfl
      contradiction
    simp [signText, splitSign, hminus, hplus]

/-- A one with so many zeros behind it exceeds every finite number. -/
theorem ofDecimal_overflow (negative : Bool) {zeros : Nat} (hzeros : 309 ≤ zeros) :
    ofDecimal negative (Decimal.ofDigits ('1' :: List.replicate zeros '0') [] 0) =
      infinity negative := by
  have hvalue : digitsValue ('1' :: List.replicate zeros '0' ++ []) = 1 * 10 ^ zeros := by
    rw [List.append_nil]
    exact digitsValue_append_zeros ['1'] zeros
  have hdigits : Decimal.digitCount 1 = 1 := by decide
  have hrank : (Decimal.mk 1 (0 + zeros)).nearestRank = infinityRank := by
    simp only [Decimal.nearestRank, hdigits]
    rw [if_neg (by omega), if_pos (by omega)]
  rw [ofDecimal, Decimal.ofDigits, hvalue]
  change ofRank negative (Decimal.mk (1 * 10 ^ zeros) 0).nearestRank = _
  rw [Decimal.nearestRank_mul_pow, hrank]
  exact dif_pos (Nat.lt_succ_self _)

end Binary64

end ControlProps
