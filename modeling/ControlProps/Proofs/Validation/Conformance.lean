import ControlProps.Engine.Patterns
import ControlProps.Proofs.Validation.Depth
import Mathlib.Logic.ExistsUnique

/-!
# What schemas mean

`Schema.Conforms` says of each kind of schema which values it describes, without a walk, a limit or
an order of checks. A walk that ends finds nothing exactly in the values that conform.
-/

namespace ControlProps

/-- A single member of a list satisfies a test exactly if a single index does. -/
theorem countP_eq_one_iff {α : Type} {test : α → Bool} {list : List α} :
    list.countP test = 1 ↔ ∃! index : Fin list.length, test (list.get index) = true := by
  induction list with
  | nil => simp [ExistsUnique]
  | cons a rest ih =>
    by_cases ha : test a = true
    · rw [List.countP_cons_of_pos ha, Nat.succ_inj, List.countP_eq_zero]
      constructor
      · intro hrest
        refine ⟨⟨0, Nat.zero_lt_succ _⟩, ha, fun index hindex => ?_⟩
        cases index using Fin.cases with
        | zero => rfl
        | succ index => exact absurd hindex (hrest _ (List.getElem_mem _))
      · rintro ⟨only, _, hunique⟩ b hb hbtest
        obtain ⟨index, hlt, rfl⟩ := List.mem_iff_getElem.mp hb
        have hzero := hunique ⟨0, Nat.zero_lt_succ _⟩ ha
        have hsucc := hunique ⟨index + 1, Nat.succ_lt_succ hlt⟩ hbtest
        simp [← hzero] at hsucc
    · rw [List.countP_cons_of_neg ha, ih]
      constructor
      · rintro ⟨only, honly, hunique⟩
        refine ⟨only.succ, honly, fun index hindex => ?_⟩
        cases index using Fin.cases with
        | zero => exact absurd hindex ha
        | succ index => rw [hunique index hindex]
      · rintro ⟨only, honly, hunique⟩
        cases only using Fin.cases with
        | zero => exact absurd honly ha
        | succ only =>
          exact ⟨only, honly, fun index hindex => Fin.succ_inj.mp (hunique _ hindex)⟩

namespace Schema

variable [PatternEngine]

/-- Whether a schema describes a value; keys that are declared nowhere matter only if `strict`. -/
def Conforms (strict : Bool) (schema : Schema) (value : Value) : Prop :=
  value = .null ∨
    match schema with
    | any => True
    | primitive kind => kind.admits value = true
    | enumeration values => ∃ literal ∈ values, literal.looselyEquals value = true
    | pattern form => ∃ text, value = .string text ∧ form.matchesStart text = true
    | range min max integer =>
      ∃ number, value.number? = some number ∧ (integer = true → value.kind = .integer) ∧
        (∀ bound ∈ min, ¬number.isBelow bound) ∧ ∀ bound ∈ max, ¬bound.isBelow number
    | array items least most =>
      ∃ values, value = .array values ∧ (∀ bound ∈ least, bound.toNat ≤ values.length) ∧
        (∀ bound ∈ most, values.length ≤ bound.toNat) ∧ ∀ item ∈ values, Conforms strict items item
    | object properties required additional =>
      ∃ entries, value = .object entries ∧ (∀ key ∈ required, key ∈ Entries.keys entries) ∧
        (∀ entry ∈ entries, ∀ declared, properties.lookup entry.1 = some declared →
          Conforms strict declared entry.2) ∧
        (strict = true → additional = .reject →
          ∀ entry ∈ entries, entry.1 ∈ Entries.keys properties)
    | anyOf branches => ∃ branch, ∃ _ : branch ∈ branches, Conforms strict branch value
    | oneOf branches => ∃! index : Fin branches.length, Conforms strict (branches.get index) value
termination_by schema
decreasing_by
  · exact sizeOf_lt_array
  · exact sizeOf_lt_of_property (Entries.mem_of_lookup ‹_›)
  · exact sizeOf_lt_anyOf ‹_›
  · exact sizeOf_lt_oneOf (List.get_mem _ _)

end Schema

namespace Checker

/-- A guarded check finds nothing in `null` and otherwise what the check below finds. -/
theorem guarded_findings_eq_nil_iff {check : Checker} {levels : Nat} {value : Value} {holds : Prop}
    (hstop : (guarded check levels value).stop = none)
    (hcheck : ∀ below, value ≠ .null → (check below value).stop = none →
      ((check below value).findings = [] ↔ holds)) :
    (guarded check levels value).findings = [] ↔ value = .null ∨ holds := by
  rcases guarded_cases hstop with rfl | ⟨hnull, below, rfl, hbelow⟩
  · simp [guarded, Value.isNull]
  · rw [hbelow] at hstop ⊢
    rw [hcheck below hnull hstop]
    exact (or_iff_right hnull).symm

/-- A number is in order if it is neither below the minimum nor above the maximum. -/
theorem range_findings_eq_nil_iff {min max : Option Binary64} {number : Binary64} :
    (range min max number).findings = [] ↔
      (∀ bound ∈ min, ¬number.isBelow bound) ∧ ∀ bound ∈ max, ¬bound.isBelow number := by
  unfold range
  cases hmin : min.filter number.isBelow with
  | some bound =>
    obtain ⟨hbound, hbelow⟩ := Option.filter_eq_some_iff.mp hmin
    simp only [Walk.problem_findings, List.cons_ne_nil, false_iff, not_and]
    exact fun hmins => absurd hbelow (hmins bound hbound)
  | none =>
    have hmins : ∀ bound ∈ min, ¬number.isBelow bound := by
      simpa [Option.filter_eq_none_iff] using hmin
    cases hmax : max.filter (·.isBelow number) with
    | some bound =>
      obtain ⟨hbound, hbelow⟩ := Option.filter_eq_some_iff.mp hmax
      simp only [Walk.problem_findings, List.cons_ne_nil, false_iff, not_and]
      exact fun _ hmaxs => absurd hbelow (hmaxs bound hbound)
    | none =>
      have hmaxs : ∀ bound ∈ max, ¬bound.isBelow number := by
        simpa [Option.filter_eq_none_iff] using hmax
      exact iff_of_true rfl ⟨hmins, hmaxs⟩

/-- Nothing is found about a number of items between the bounds. -/
theorem countFindings_eq_nil_iff {least most : Option UInt64} {found : Nat} :
    countFindings least most found = [] ↔
      (∀ bound ∈ least, bound.toNat ≤ found) ∧ ∀ bound ∈ most, found ≤ bound.toNat := by
  simp [countFindings, Option.filter_eq_none_iff]

/-- No key is missing if all required ones are present. -/
theorem missingFindings_eq_nil_iff {required : List String} {bag : PropertyBag} :
    missingFindings required bag = [] ↔ ∀ key ∈ required, key ∈ Entries.keys bag := by
  simp [missingFindings, Entries.hasKey]

/-- Nothing is found about an entry if nothing is found in a value of a known key, and an unknown
key is not refused. -/
theorem entry_findings_eq_nil_iff {properties : List (String × Checker)} {refuse : Bool}
    {levels : Nat} {child : String × Value} :
    (entry properties refuse levels child).findings = [] ↔
      (∀ check, properties.lookup child.1 = some check → (check levels child.2).findings = []) ∧
        (refuse = true → properties.lookup child.1 ≠ none) := by
  cases hlookup : properties.lookup child.1 with
  | none => simp [entry, entryValue, hlookup]
  | some check => simp [entry, entryValue, hlookup]

/-- Nothing is found in an array whose number of items is in order, as is each of them. -/
theorem array_findings_eq_nil_iff {check : Checker} {least most : Option UInt64} {levels : Nat}
    {values : List Value} (hstop : (array check least most levels values).stop = none) :
    (array check least most levels values).findings = [] ↔
      (∀ bound ∈ least, bound.toNat ≤ values.length) ∧
        (∀ bound ∈ most, values.length ≤ bound.toNat) ∧
        ∀ item ∈ values, (check levels item).findings = [] := by
  rw [array_findings hstop, List.append_eq_nil_iff, countFindings_eq_nil_iff,
    List.flatMap_eq_nil_iff, and_assoc]
  refine and_congr_right' (and_congr_right' ⟨fun h item hitem => ?_, fun h child hchild => ?_⟩)
  · obtain ⟨index, hindex⟩ := List.getElem?_of_mem hitem
    exact List.map_eq_nil_iff.mp (h (item, index) (List.mk_mem_zipIdx_iff_getElem?.mpr hindex))
  · exact List.map_eq_nil_iff.mpr (h child.1 (List.fst_mem_of_mem_zipIdx hchild))

/-- Nothing is found in an object in which no key is missing and each entry is in order. -/
theorem object_findings_eq_nil_iff {properties : List (String × Checker)}
    {required : List String} {refuse : Bool} {levels : Nat} {bag : PropertyBag}
    (hstop : (object properties required refuse levels bag).stop = none) :
    (object properties required refuse levels bag).findings = [] ↔
      (∀ key ∈ required, key ∈ Entries.keys bag) ∧
        (∀ child ∈ bag, ∀ check, properties.lookup child.1 = some check →
          (check levels child.2).findings = []) ∧
        (refuse = true → ∀ child ∈ bag, properties.lookup child.1 ≠ none) := by
  rw [object_findings hstop, List.append_eq_nil_iff, missingFindings_eq_nil_iff,
    List.flatMap_eq_nil_iff]
  simp only [entry_findings_eq_nil_iff]
  refine and_congr_right' ⟨fun h => ⟨fun child hchild => (h child hchild).1, ?_⟩, ?_⟩
  · exact fun hrefuse child hchild => (h child hchild).2 hrefuse
  · exact fun h child hchild => ⟨h.1 child hchild, fun hrefuse => h.2 hrefuse child hchild⟩

end Checker

namespace Schema

/-- Nothing is found in a number of the kind and between the bounds of a range. -/
theorem walkRange_findings_eq_nil_iff {min max : Option Binary64} {integer : Bool} {value : Value} :
    (walkRange min max integer value).findings = [] ↔
      ∃ number, value.number? = some number ∧ (integer = true → value.kind = .integer) ∧
        (∀ bound ∈ min, ¬number.isBelow bound) ∧ ∀ bound ∈ max, ¬bound.isBelow number := by
  cases value with
  | int number => simp [walkRange, Checker.range_findings_eq_nil_iff, Value.number?, Value.kind]
  | float number =>
    cases integer <;>
      simp [walkRange, Checker.range_findings_eq_nil_iff, Value.number?, Value.kind]
  | _ => simp [walkRange, Value.number?]

section

variable [PatternEngine]

/-- A union that ends is in order if a branch describes the value, provided that this is what the
walks of the branches tell. -/
theorem anyOf_conforms_cases {strict : Bool} {branches : List Schema} {count levels : Nat}
    {value : Value}
    (hstop : (Checker.anyOf count levels value (walkBranches strict branches)).stop = none)
    (hbranches : ∀ branch ∈ branches, (branch.walk strict levels value).stop = none →
      ((branch.walk strict levels value).findings = [] ↔ branch.Conforms strict value)) :
    (Checker.anyOf count levels value (walkBranches strict branches) = .clean ∧
      ∃ branch ∈ branches, branch.Conforms strict value) ∨
    (Checker.anyOf count levels value (walkBranches strict branches) =
      .problem (.noBranch count) ∧ ¬∃ branch ∈ branches, branch.Conforms strict value) := by
  rw [walkBranches_eq_map] at hstop ⊢
  rcases Checker.anyOf_cases hstop with ⟨hclean, _, hcheck, hbranch⟩ | ⟨hproblem, hall⟩
  · obtain ⟨branch, hmem, rfl⟩ := List.mem_map.mp hcheck
    exact .inl ⟨hclean, branch, hmem, (hbranches branch hmem hbranch.1).mp hbranch.2⟩
  · refine .inr ⟨hproblem, ?_⟩
    rintro ⟨branch, hmem, hconforms⟩
    obtain ⟨hbranch, hne⟩ := hall _ (List.mem_map_of_mem hmem)
    exact hne ((hbranches branch hmem hbranch).mpr hconforms)

/-- A walk that ends finds nothing exactly if the value conforms. -/
theorem walk_findings_eq_nil_iff {strict : Bool} {schema : Schema} {levels : Nat} {value : Value}
    (hstop : (schema.walk strict levels value).stop = none) :
    (schema.walk strict levels value).findings = [] ↔ schema.Conforms strict value := by
  induction schema generalizing levels value with
  | any =>
    rw [Conforms]
    exact Checker.guarded_findings_eq_nil_iff hstop fun _ _ _ => by simp
  | primitive kind =>
    rw [Conforms]
    exact Checker.guarded_findings_eq_nil_iff hstop fun _ _ _ => by simp
  | enumeration values =>
    rw [Conforms]
    exact Checker.guarded_findings_eq_nil_iff hstop fun _ _ _ => by simp
  | pattern form =>
    rw [Conforms]
    refine Checker.guarded_findings_eq_nil_iff hstop fun _ _ _ => ?_
    cases value <;> simp [walkPattern]
  | range min max integer =>
    rw [Conforms]
    exact Checker.guarded_findings_eq_nil_iff hstop fun _ _ _ => walkRange_findings_eq_nil_iff
  | array items least most ih =>
    rw [Conforms]
    refine Checker.guarded_findings_eq_nil_iff hstop fun below _ hended => ?_
    cases value with
    | array values =>
      have hitems := Checker.array_stop_eq_none_iff.mp hended
      simp only [Value.array.injEq, exists_eq_left']
      rw [Checker.array_findings_eq_nil_iff hended]
      exact and_congr_right' (and_congr_right'
        (forall₂_congr fun item hitem => ih (hitems item hitem)))
    | _ => simp
  | object properties required additional ih =>
    rw [Conforms]
    refine Checker.guarded_findings_eq_nil_iff hstop fun below _ hended => ?_
    cases value with
    | object entries =>
      have hentries := Checker.object_stop_eq_none_iff.mp hended
      simp only [Value.object.injEq, exists_eq_left']
      rw [Checker.object_findings_eq_nil_iff hended]
      simp only [forall_lookup_walkProperties_iff, ne_eq, lookup_walkProperties_eq_none_iff,
        Decidable.not_not, Bool.and_eq_true, decide_eq_true_eq, and_imp]
      refine and_congr_right' (and_congr_left' (forall₂_congr fun child hchild => ?_))
      refine forall₂_congr fun declared hdeclared => ?_
      have hcheck := lookup_walkProperties_of_declared strict hdeclared
      exact ih _ (Entries.mem_of_lookup hdeclared) (hentries child hchild _ hcheck)
    | _ => simp
  | anyOf branches ih =>
    rw [Conforms]
    refine Checker.guarded_findings_eq_nil_iff hstop fun below _ hended => ?_
    rcases anyOf_conforms_cases hended fun branch hmem => ih branch hmem with
      ⟨hclean, branch, hmem, hconforms⟩ | ⟨hproblem, hnone⟩
    · rw [hclean]
      exact iff_of_true rfl ⟨branch, hmem, hconforms⟩
    · rw [hproblem]
      refine iff_of_false (by simp) ?_
      rintro ⟨branch, hmem, hconforms⟩
      exact hnone ⟨branch, hmem, hconforms⟩
  | oneOf branches ih =>
    rw [Conforms]
    refine Checker.guarded_findings_eq_nil_iff hstop fun below _ hended => ?_
    rw [walkBranches_eq_map] at hended ⊢
    have hbranches := Checker.stop_of_oneOf_stop hended
    rw [Checker.oneOf_eq_exclusive hbranches, Checker.exclusive_findings_eq_nil_iff, Nat.zero_add,
      List.countP_map, countP_eq_one_iff]
    refine existsUnique_congr fun index => ?_
    have hmem : branches.get index ∈ branches := List.get_mem _ _
    rw [← ih _ hmem (hbranches _ (List.mem_map_of_mem hmem))]
    simp

/-- A range describes the numbers of its kind between its bounds. -/
theorem conforms_range_iff {strict : Bool} {min max : Option Binary64} {integer : Bool}
    {value : Value} :
    (range min max integer).Conforms strict value ↔
      value = .null ∨ (if integer then Kind.integer else .number).admits value = true ∧
        ∀ number, value.number? = some number →
          (∀ bound ∈ min, ¬number.isBelow bound) ∧ ∀ bound ∈ max, ¬bound.isBelow number := by
  rw [Conforms]
  cases value <;> cases integer <;> simp [Kind.admits, Value.kind, Value.number?]

/-- Conformance is decided by a walk with more levels than the schema is high. -/
instance (strict : Bool) (schema : Schema) (value : Value) :
    Decidable (schema.Conforms strict value) :=
  decidable_of_iff ((schema.walk strict (schema.height + 1) value).findings = []) <|
    walk_findings_eq_nil_iff (walk_stop_eq_none_of_height_lt (Nat.lt_succ_self _))

/-- **Soundness and completeness.** A check that ends gives no records exactly if the value
conforms. -/
theorem check_eq_nil_iff_conforms {schema : Schema} {options : ValidationOptions} {root : String}
    {value : Value} {records : List Record}
    (hok : schema.check options root value = .ok records) :
    records = [] ↔ schema.Conforms options.strict value := by
  obtain ⟨hended, rfl⟩ := Walk.check_eq_ok_iff.mp hok
  rw [List.map_eq_nil_iff]
  exact walk_findings_eq_nil_iff hended

end

/-- A closed object in an array, whose only property is an exclusive union. -/
theorem closed_object_in_array_conforms :
    let schema := array
      (object [("size", oneOf [boolean, integer, enumeration [.string "auto"]])] ["size"] .reject)
      (some 1) none
    let value := Value.array [.object [("size", .string "auto")], .null, .object [("size", .int 3)]]
    schema.check ⟨true, 3⟩ "root" value = .ok [] ∧ schema.Conforms true value :=
  have hok := rfl
  ⟨hok, (check_eq_nil_iff_conforms hok).mp rfl⟩

end Schema

end ControlProps
