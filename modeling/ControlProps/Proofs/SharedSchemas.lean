import ControlProps.Proofs.Engine.DimensionPattern
import ControlProps.Proofs.Geometry.Canonical
import ControlProps.Proofs.Validation.Bags

/-!
# Canonical values and the shared schemas

The fragments for dimensions, offsets, alignments and paddings describe all canonical values of
these quantities, in both modes. For lengths this rests on an engine that takes the pattern of
dimension texts as its notation says. Of the texts that the fragment for dimensions describes, those
with digits of other scripts than ASCII are not read as dimensions.
-/

namespace ControlProps.SharedSchemas

section

variable [SharedPatterns] {strict : Bool}

/-- A float is a number. -/
theorem number_conforms (number : Binary64) : Schema.number.Conforms strict (.float number) := by
  rw [Schema.number, Schema.Conforms]
  exact .inr rfl

/-- A union describes what one of its branches describes. -/
theorem anyOf_conforms {branches : List Schema} {branch : Schema} {value : Value}
    (hbranch : branch ∈ branches) (hvalue : branch.Conforms strict value) :
    (Schema.anyOf branches).Conforms strict value := by
  rw [Schema.Conforms]
  exact .inr ⟨branch, hbranch, hvalue⟩

/-- An array schema of numbers describes every array of floats whose length is within its bounds. -/
theorem numberArray_conforms {least most : Option UInt64} {numbers : List Binary64}
    (hleast : ∀ bound ∈ least, bound.toNat ≤ numbers.length)
    (hmost : ∀ bound ∈ most, numbers.length ≤ bound.toNat) :
    (Schema.array .number least most).Conforms strict (.ofNumbers numbers) := by
  rw [Schema.Conforms]
  refine .inr ⟨numbers.map .float, rfl, by simpa using hleast, by simpa using hmost, ?_⟩
  intro item hitem
  obtain ⟨number, _, rfl⟩ := List.mem_map.mp hitem
  exact number_conforms number

/-- A list of numbers describes every array of floats that is long enough. -/
theorem numberList_conforms {least : UInt64} {numbers : List Binary64}
    (hleast : least.toNat ≤ numbers.length) :
    (numberList least).Conforms strict (.ofNumbers numbers) :=
  numberArray_conforms (by simpa using hleast) nofun

/-- An object whose given keys are numbers describes every object of floats. -/
theorem numbers_conforms (keys : List String) (entries : List (String × Option Binary64)) :
    (numbers keys).Conforms strict (.ofNumberEntries entries) := by
  rw [numbers, Schema.openObject, Schema.Conforms]
  refine .inr ⟨_, rfl, by simp, ?_, by simp⟩
  intro entry hentry declared hdeclared
  obtain ⟨⟨key, number⟩, _, hmade⟩ := List.mem_filterMap.mp hentry
  obtain ⟨number, _, rfl⟩ := Option.map_eq_some_iff.mp hmade
  obtain ⟨_, _, hnumber⟩ := List.mem_map.mp (Entries.mem_of_lookup hdeclared)
  obtain ⟨_, rfl⟩ := Prod.mk.inj hnumber
  exact number_conforms number

/-- A text is described as a dimension exactly if the pattern accepts it. -/
theorem dimension_conforms_string_iff {text : String} :
    dimension.Conforms strict (.string text) ↔ dimensionPattern.matchesStart text = true := by
  simp [dimension, Schema.number, Schema.Conforms, Kind.admits, Value.kind]

/-- A dimension is accepted exactly if it is no length with a number that is not finite. -/
theorem dimension_conforms_iff (hpattern : DimensionPatternIsExact) {size : Dimension} :
    dimension.Conforms strict size.toValue ↔ size.HasFiniteLength := by
  cases size with
  | points value =>
    have hbranch : Schema.number ∈ [Schema.number, .pattern dimensionPattern] := by simp
    exact iff_of_true (anyOf_conforms hbranch (number_conforms value)) (by simp)
  | length number unit =>
    rw [Dimension.toValue_length, dimension_conforms_string_iff,
      Dimension.hasFiniteLength_length_iff, hpattern.matchesStart_length_iff]

/-- Every offset is accepted. -/
theorem offset_conforms (shift : Offset) : offset.Conforms strict shift.toValue := by
  cases shift with
  | pair x y =>
    have hbranch : numberList 2 ∈ [numberList 2, numbers ["x", "y"]] := by simp
    exact anyOf_conforms hbranch (numberList_conforms (Nat.le_refl 2))
  | axes x y =>
    have hbranch : numbers ["x", "y"] ∈ [numberList 2, numbers ["x", "y"]] := by simp
    exact anyOf_conforms hbranch (numbers_conforms ["x", "y"] [("x", x), ("y", y)])

/-- Every alignment is accepted. -/
theorem alignment_conforms (place : Alignment) : alignment.Conforms strict place.toValue := by
  cases place with
  | named name =>
    have hbranch : Schema.string ∈ [Schema.string, offset] := by simp
    refine anyOf_conforms hbranch ?_
    rw [Schema.string, Schema.Conforms]
    exact .inr rfl
  | offset shift =>
    have hbranch : offset ∈ [Schema.string, offset] := by simp
    exact anyOf_conforms hbranch (offset_conforms shift)

/-- Every padding is accepted. -/
theorem padding_conforms (room : Padding) : padding.Conforms strict room.toValue := by
  let edges := numbers ["left", "top", "right", "bottom"]
  have hnumber : Schema.number ∈ [Schema.number, numberList 1, edges] := by simp
  have hlist : numberList 1 ∈ [Schema.number, numberList 1, edges] := by simp
  have hedges : edges ∈ [Schema.number, numberList 1, edges] := by simp
  cases room with
  | uniform all => exact anyOf_conforms hnumber (number_conforms all)
  | one all => exact anyOf_conforms hlist (numberList_conforms (Nat.le_refl 1))
  | two vertical horizontal =>
    exact anyOf_conforms hlist (numberList_conforms (by decide : 1 ≤ 2))
  | four top right bottom left =>
    exact anyOf_conforms hlist (numberList_conforms (by decide : 1 ≤ 4))
  | edges left top right bottom =>
    exact anyOf_conforms hedges (numbers_conforms _
      [("left", left), ("top", top), ("right", right), ("bottom", bottom)])

/-- A text has no record as a dimension exactly if it is a dimension text in some script, as far as
there is a level for the branches. -/
theorem validate_dimension_eq_nil_iff (hpattern : DimensionPatternIsExact)
    {options : ValidationOptions} {root text : String} :
    dimension.validate options root (.string text) = [] ↔
      0 < options.maxDepth ∧ DimensionText isDecimalDigit text.toList := by
  rw [← hpattern, Schema.validate, Walk.collect_eq_nil_iff,
    Schema.walkValue]
  obtain ⟨strict, depth⟩ := options
  cases depth with
  | zero =>
    -- the first branch is not reached, and a stop is no clean walk
    simp [dimension, Schema.number, Schema.walk, Schema.walkBranches, Checker.guarded,
      Checker.anyOf, Value.isNull, Walk.clean, Walk.halted]
  | succ depth =>
    have hlevels : dimension.height < depth + 1 + 1 := by
      have hheight : dimension.height = 1 := rfl
      omega
    rw [Schema.walk_eq_clean_iff_conforms hlevels, dimension_conforms_string_iff]
    simp

/-- The value of a dimension has no record as one exactly if the number of a length is finite, as
far as there is a level for the branches. -/
theorem validate_toValue_eq_nil_iff (hpattern : DimensionPatternIsExact)
    {options : ValidationOptions} {root : String} (hdepth : 0 < options.maxDepth)
    (size : Dimension) :
    dimension.validate options root size.toValue = [] ↔ size.HasFiniteLength := by
  have hheight : dimension.height ≤ options.maxDepth := hdepth
  rw [Schema.validate_eq_nil_iff_conforms hheight, dimension_conforms_iff hpattern]

/-- A text that neither begins nor ends with white space is read as a dimension exactly if it has no
record as one and all its digits are in ASCII. -/
theorem dimension_texts_read_iff (hpattern : DimensionPatternIsExact) {text : String}
    {options : ValidationOptions} {root : String}
    (hfirst : ∀ c ∈ text.toList.head?, isBlank c = false)
    (hlast : ∀ c ∈ text.toList.getLast?, isBlank c = false) :
    (0 < options.maxDepth ∧ ∃ size, Dimension.ofValue (.string text) = .ok size) ↔
      dimension.validate options root (.string text) = [] ∧
        ∀ c ∈ text.toList, isDecimalDigit c = true → c.isDigit = true := by
  rw [validate_dimension_eq_nil_iff hpattern, and_assoc, ← dimensionText_isDigit_iff,
    Dimension.exists_ofValue_string_iff, trimBlanks_eq_self_of_ends hfirst hlast]

end

/-- A length with a sign and without a digit before its point is read, so it has no record. -/
theorem signed_length_is_read :
    (∃ size, Dimension.ofValue (.string "-.5px") = .ok size) ∧
      dimension.validate ⟨true, 1⟩ "root" (.string "-.5px") = [] := by
  have hfirst : ∀ c ∈ "-.5px".toList.head?, isBlank c = false := by
    rintro _ ⟨⟩
    rfl
  have hlast : ∀ c ∈ "-.5px".toList.getLast?, isBlank c = false := by
    rintro _ ⟨⟩
    rfl
  have hnumber : NumberText Char.isDigit ([] ++ '.' :: ['5']) :=
    .fraction (by simp) ⟨by simp, by simp⟩
  have htext : DimensionText Char.isDigit "-.5px".toList :=
    .mk (.inr (.inr rfl)) hnumber (.inr ⟨.px, rfl⟩)
  have hread : ∃ size, Dimension.ofValue (.string "-.5px") = .ok size := by
    rw [Dimension.exists_ofValue_string_iff, trimBlanks_eq_self_of_ends hfirst hlast]
    exact htext
  have hvalid : dimension.validate ⟨true, 1⟩ "root" (.string "-.5px") = [] :=
    ((dimension_texts_read_iff Expression.dimensionPatternIsExact hfirst hlast).mp
      ⟨Nat.one_pos, hread⟩).1
  exact ⟨hread, hvalid⟩

/-- A digit of another script, which is no white space, has no record as a dimension, but it is not
read as one. -/
theorem digit_of_other_script_is_not_read :
    (∀ c ∈ "\u0663".toList, isBlank c = false) ∧
      dimension.validate ⟨true, ValidationOptions.defaultDepth⟩ "root" (.string "\u0663") = [] ∧
      ¬∃ size, Dimension.ofValue (.string "\u0663") = .ok size := by
  have hdigit : isDecimalDigit '\u0663' = true := by decide +kernel
  have hnumber : NumberText isDecimalDigit "\u0663".toList :=
    .whole ⟨by simp, by simpa using hdigit⟩
  have htext : DimensionText isDecimalDigit ([] ++ ("\u0663".toList ++ [])) :=
    .mk (.inl rfl) hnumber (.inl rfl)
  have hblank : ∀ c ∈ "\u0663".toList, isBlank c = false := by
    have hthree : isBlank '\u0663' = false := by decide +kernel
    simpa using hthree
  have hexact := Expression.dimensionPatternIsExact
  refine ⟨hblank, (validate_dimension_eq_nil_iff hexact).mpr ⟨Nat.zero_lt_succ _, htext⟩, ?_⟩
  rw [Dimension.exists_ofValue_string_iff, trimBlanks_eq_self hblank, dimensionText_isDigit_iff]
  rintro ⟨_, hascii⟩
  have hthree := hascii '\u0663' (by simp) hdigit
  exact absurd hthree (by decide)

section

variable [SharedPatterns]

/-- The dimension that a value is read as is read from its own value again, and this value has no
record as a dimension, exactly if it is no length of infinitely many units. Such a length is only
read from digits that overflow, and its text is refused. -/
theorem normalized_dimension_is_dimension_iff (hpattern : DimensionPatternIsExact)
    {value : Value} {size : Dimension} (hread : Dimension.ofValue value = .ok (some size))
    {options : ValidationOptions} {root : String} (hdepth : 0 < options.maxDepth) :
    (Dimension.ofValue size.toValue = .ok (some size) ↔ size.HasFiniteLength) ∧
      (dimension.validate options root size.toValue = [] ↔ size.HasFiniteLength) ∧
      (value.HasFiniteDimension → size.HasFiniteLength) ∧
      (¬size.HasFiniteLength →
        Dimension.ofValue size.toValue = .error (.invalid .dimension size.toText)) := by
  have hrefused (hinfinite : ¬size.HasFiniteLength) :
      Dimension.ofValue size.toValue = .error (.invalid .dimension size.toText) := by
    simp only [Dimension.HasFiniteLength, not_forall] at hinfinite
    obtain ⟨number, unit, rfl, hnumber⟩ := hinfinite
    exact Dimension.ofValue_toValue_of_not_isFinite unit (by simpa using hnumber)
  refine ⟨⟨fun hagain => ?_, Dimension.ofValue_toValue⟩,
    validate_toValue_eq_nil_iff hpattern hdepth size, ?_, hrefused⟩
  · by_contra hinfinite
    exact absurd (hagain.symm.trans (hrefused hinfinite)) nofun
  · rintro hfinite number unit rfl
    exact Dimension.isFinite_of_ofValue hread hfinite

end

/-- Ten pixels stay ten pixels. -/
theorem pixels_are_dimension_again :
    Dimension.ofValue (.string " +10px") = .ok (some (.length 10 .px)) ∧
      Dimension.ofValue (.string "10px") = .ok (some (.length 10 .px)) ∧
      dimension.validate ⟨true, 1⟩ "root" (.string "10px") = [] := by
  have hread : Dimension.ofValue (.string " +10px") = .ok (some (.length 10 .px)) := by
    decide +kernel
  have htext : (Dimension.length 10 .px).toText = "10px" := by decide +kernel
  have hnumber : (Value.string " +10px").HasFiniteDimension := by decide +kernel
  have hexact := Expression.dimensionPatternIsExact
  obtain ⟨hagain, hvalid, hfinite, _⟩ :=
    @normalized_dimension_is_dimension_iff _ hexact _ _ hread ⟨true, 1⟩ "root" Nat.one_pos
  rw [Dimension.toValue_length, htext] at hagain hvalid
  exact ⟨hread, hagain.mpr (hfinite hnumber), hvalid.mpr (hfinite hnumber)⟩

/-- A one with 309 zeros in pixels has no record as a dimension and is read as one, but the value of
this dimension is refused. -/
theorem overflowing_pixels_are_no_dimension_again :
    ∃ size, Dimension.ofValue (.string (Dimension.overflowingText 309 .px)) = .ok (some size) ∧
      dimension.validate ⟨true, 1⟩ "root" (.string (Dimension.overflowingText 309 .px)) = [] ∧
      size.toValue = .string "infpx" ∧
      Dimension.ofValue size.toValue = .error (.invalid .dimension "infpx") ∧
      dimension.validate ⟨true, 1⟩ "root" size.toValue ≠ [] := by
  have hinfinite : ¬(Dimension.length (.infinity false) .px).HasFiniteLength := by
    intro hfinite
    exact absurd (hfinite _ _ rfl) (by decide)
  have htext : (Dimension.length (.infinity false) .px).toText = "infpx" := by decide +kernel
  have hexact := Expression.dimensionPatternIsExact
  have hform := (dimensionText_isDigit_iff.mp (Dimension.dimensionText_overflowingText 309 .px)).1
  refine ⟨_, Dimension.ofValue_overflowingText (Nat.le_refl 309) .px,
    (validate_dimension_eq_nil_iff hexact).mpr ⟨Nat.one_pos, hform⟩, congrArg Value.string htext,
    htext ▸ Dimension.ofValue_toValue_of_not_isFinite .px (by decide), ?_⟩
  exact fun hvalid => hinfinite ((validate_toValue_eq_nil_iff hexact Nat.one_pos _).mp hvalid)

end ControlProps.SharedSchemas
