import ControlProps.Engine.Patterns
import ControlProps.Proofs.Validation.Composition

/-!
# The depth limit

A lower limit cuts a walk short and changes nothing else: what was found up to the stop stands with
every higher limit, and a walk that ended is the same with all of them. From the height of the
schema on there is no stop.
-/

namespace ControlProps

namespace Walk

/-- The first walk is the second one, or goes on where that was given up. -/
structure Extends (longer shorter : Walk) : Prop where
  eq_of_ended : shorter.stop = none → longer = shorter
  findings_kept : shorter.findings <+: longer.findings

/-- What a walk found is still the beginning when another walk follows. -/
theorem findings_kept_by_followedBy (first second : Walk) :
    first.findings <+: (first.followedBy second).findings := by
  cases hstop : first.stop with
  | none => simp [followedBy_of_stop_eq_none hstop]
  | some place => simp [followedBy_of_stop_eq_some hstop]

namespace Extends

theorem refl (walk : Walk) : walk.Extends walk := ⟨fun _ => rfl, List.prefix_rfl⟩

/-- Every walk goes on where one was given up that had found nothing. -/
theorem of_findings_eq_nil {longer shorter : Walk} {place : List Step}
    (hfindings : shorter.findings = []) (hstop : shorter.stop = some place) :
    longer.Extends shorter := by
  refine ⟨fun hended => ?_, ?_⟩
  · simp [hstop] at hended
  · simp [hfindings]

theorem under {longer shorter : Walk} (step : Step) (h : longer.Extends shorter) :
    (longer.under step).Extends (shorter.under step) := by
  refine ⟨fun hended => ?_, h.findings_kept.map _⟩
  rw [h.eq_of_ended (by simpa using hended)]

theorem followedBy {longer longer' shorter shorter' : Walk} (h : longer.Extends shorter)
    (h' : longer'.Extends shorter') :
    (longer.followedBy longer').Extends (shorter.followedBy shorter') := by
  cases hstop : shorter.stop with
  | none =>
    rw [h.eq_of_ended hstop, followedBy_of_stop_eq_none hstop, followedBy_of_stop_eq_none hstop]
    refine ⟨fun hended => ?_, (List.prefix_append_right_inj _).mpr h'.findings_kept⟩
    rw [h'.eq_of_ended hended]
  | some place =>
    rw [followedBy_of_stop_eq_some hstop]
    refine ⟨fun hended => ?_, h.findings_kept.trans (findings_kept_by_followedBy _ _)⟩
    simp [hstop] at hended

theorem sequence_map {α : Type} {list : List α} {longer shorter : α → Walk}
    (h : ∀ a ∈ list, (longer a).Extends (shorter a)) :
    (sequence (list.map longer)).Extends (sequence (list.map shorter)) := by
  induction list with
  | nil => exact refl _
  | cons a rest ih =>
    rw [List.forall_mem_cons] at h
    exact h.1.followedBy (ih h.2)

end Extends

/-- No finding is about the depth, and a stop is at a part other than `null`. -/
structure StopsWithin (walk : Walk) (value : Value) : Prop where
  problem_ne : ∀ finding ∈ walk.findings, ∀ limit, finding.problem ≠ .tooDeep limit
  stop_located : ∀ place, walk.stop = some place →
    ∃ part, value.HasPartAt place part ∧ part ≠ .null

namespace StopsWithin

theorem clean {value : Value} : clean.StopsWithin value := ⟨by simp, by simp⟩

theorem problem {value : Value} {p : Problem} (hp : ∀ limit, p ≠ .tooDeep limit) :
    (problem p).StopsWithin value :=
  ⟨by simpa using hp, by simp⟩

/-- A rule ends, and it is not about the depth. -/
theorem of_isRule {value : Value} {walk : Walk} (h : walk.IsRule) : walk.StopsWithin value := by
  rcases h with rfl | ⟨p, rfl, _, hdepth⟩
  · exact clean
  · exact problem hdepth

theorem problemIf {value : Value} {condition : Bool} {p : Problem}
    (hp : ∀ limit, p ≠ .tooDeep limit) : (problemIf condition p).StopsWithin value := by
  cases condition with
  | false => exact clean
  | true => exact problem hp

theorem followedBy {value : Value} {first second : Walk} (h : first.StopsWithin value)
    (h' : second.StopsWithin value) : (first.followedBy second).StopsWithin value := by
  cases hstop : first.stop with
  | none =>
    rw [followedBy_of_stop_eq_none hstop]
    refine ⟨fun finding hmem => ?_, h'.stop_located⟩
    rcases List.mem_append.mp hmem with hmem | hmem
    · exact h.problem_ne finding hmem
    · exact h'.problem_ne finding hmem
  | some place => rwa [followedBy_of_stop_eq_some hstop]

theorem sequence {value : Value} {walks : List Walk}
    (h : ∀ walk ∈ walks, walk.StopsWithin value) : (sequence walks).StopsWithin value := by
  induction walks with
  | nil => exact clean
  | cons walk walks ih =>
    rw [List.forall_mem_cons] at h
    exact h.1.followedBy (ih h.2)

theorem under {value child : Value} {walk : Walk} {step : Step} (h : walk.StopsWithin child)
    (hstep : ∀ place part, child.HasPartAt place part → value.HasPartAt (step :: place) part) :
    (walk.under step).StopsWithin value := by
  constructor
  · intro finding hmem
    obtain ⟨inner, hinner, rfl⟩ := List.mem_map.mp hmem
    exact h.problem_ne inner hinner
  · intro place hplace
    obtain ⟨inner, hinner, rfl⟩ := Option.map_eq_some_iff.mp hplace
    obtain ⟨part, hpart, hnull⟩ := h.stop_located inner hinner
    exact ⟨part, hstep inner part hpart, hnull⟩

end StopsWithin

end Walk

namespace Checker

/-- With more levels left, the walk is the same or goes on where it was given up. -/
def IsMonotone (check : Checker) : Prop :=
  ∀ levels deeper value, levels ≤ deeper → (check deeper value).Extends (check levels value)

theorem IsMonotone.guarded {check : Checker} (h : check.IsMonotone) :
    IsMonotone (guarded check) := by
  intro levels deeper value hle
  unfold Checker.guarded
  cases hnull : value.isNull with
  | true => exact .refl _
  | false =>
    rcases levels with _ | levels
    · exact .of_findings_eq_nil rfl rfl
    · obtain ⟨deeper, rfl⟩ := Nat.exists_eq_add_of_le' (Nat.zero_lt_of_lt hle)
      exact h levels deeper value (Nat.le_of_succ_le_succ hle)

/-- A check that does not look at the levels is monotone. -/
theorem isMonotone_const (walk : Value → Walk) : IsMonotone fun _ value => walk value :=
  fun _ _ _ _ => .refl _

theorem IsMonotone.array {check : Checker} {least most : Option UInt64} (h : check.IsMonotone)
    {levels deeper : Nat} (hle : levels ≤ deeper) (values : List Value) :
    (array check least most deeper values).Extends (array check least most levels values) := by
  refine .followedBy (.refl _) (.followedBy (.refl _) ?_)
  rw [items_eq_sequence, items_eq_sequence]
  exact .sequence_map fun _ _ => (h levels deeper _ hle).under _

theorem IsMonotone.object {properties : List (String × Checker)} {required : List String}
    {refuse : Bool} (h : ∀ key check, properties.lookup key = some check → check.IsMonotone)
    {levels deeper : Nat} (hle : levels ≤ deeper) (bag : PropertyBag) :
    (object properties required refuse deeper bag).Extends
      (object properties required refuse levels bag) := by
  refine .followedBy (.refl _) ?_
  rw [entries_eq_sequence, entries_eq_sequence]
  refine .sequence_map fun child _ => Walk.Extends.under _ ?_
  unfold entryValue
  cases hlookup : properties.lookup child.1 with
  | none => exact .refl _
  | some check => exact h _ check hlookup levels deeper _ hle

theorem IsMonotone.anyOf {count : Nat} {checks : List Checker}
    (h : ∀ check ∈ checks, check.IsMonotone) {levels deeper : Nat} (hle : levels ≤ deeper)
    (value : Value) :
    (anyOf count deeper value checks).Extends (anyOf count levels value checks) := by
  induction checks with
  | nil => exact .refl _
  | cons check checks ih =>
    rw [List.forall_mem_cons] at h
    have hfirst := h.1 levels deeper value hle
    simp only [Checker.anyOf]
    cases hstop : (check levels value).stop with
    | some place => exact .of_findings_eq_nil rfl rfl
    | none =>
      -- the branch ended, so it ends in the same way with more levels
      rw [hfirst.eq_of_ended hstop, hstop]
      by_cases hempty : (check levels value).findings.isEmpty = true
      · simp only [hempty, if_true]
        exact .refl _
      · simpa only [hempty, Bool.false_eq_true, if_false] using ih h.2

theorem IsMonotone.oneOf {count matched : Nat} {checks : List Checker}
    (h : ∀ check ∈ checks, check.IsMonotone) {levels deeper : Nat} (hle : levels ≤ deeper)
    (value : Value) :
    (oneOf count matched deeper value checks).Extends (oneOf count matched levels value checks)
    := by
  induction checks generalizing matched with
  | nil => exact .refl _
  | cons check checks ih =>
    rw [List.forall_mem_cons] at h
    have hfirst := h.1 levels deeper value hle
    simp only [Checker.oneOf]
    cases hstop : (check levels value).stop with
    | some place => exact .of_findings_eq_nil rfl rfl
    | none =>
      rw [hfirst.eq_of_ended hstop, hstop]
      exact ih h.2

/-- A guarded check ends if there is a level for the value and the check below ends. -/
theorem guarded_stop_eq_none {check : Checker} {levels : Nat} {value : Value}
    (hlevels : 0 < levels)
    (hcheck : ∀ below, levels = below + 1 → (check below value).stop = none) :
    (guarded check levels value).stop = none := by
  obtain ⟨below, rfl⟩ := Nat.exists_eq_add_of_le' hlevels
  unfold guarded
  split
  · rfl
  · exact hcheck below rfl

/-- The stops of a check are at parts other than `null` of the value that is checked. -/
def StopsWithin (check : Checker) : Prop :=
  ∀ levels value, (check levels value).StopsWithin value

/-- As `null` is in order without a level, a stop at the value itself is not at `null`. -/
theorem StopsWithin.guarded {check : Checker} (h : check.StopsWithin) :
    StopsWithin (guarded check) := by
  intro levels value
  unfold Checker.guarded
  cases hnull : value.isNull with
  | true => exact .clean
  | false =>
    rcases levels with _ | levels
    · refine ⟨by simp, fun place hplace => ⟨value, ?_, ?_⟩⟩
      · obtain rfl : [] = place := by simpa using hplace
        exact .here
      · rintro rfl
        simp [Value.isNull] at hnull
    · exact h levels value

theorem StopsWithin.array {check : Checker} {least most : Option UInt64} (h : check.StopsWithin)
    (levels : Nat) (values : List Value) :
    (array check least most levels values).StopsWithin (.array values) := by
  refine .followedBy ?_ (.followedBy ?_ ?_)
  · cases least with
    | none => exact .clean
    | some _ => exact .problemIf (by simp)
  · cases most with
    | none => exact .clean
    | some _ => exact .problemIf (by simp)
  · rw [items_eq_sequence]
    refine .sequence fun walk hwalk => ?_
    obtain ⟨⟨item, index⟩, hitem, rfl⟩ := List.mem_map.mp hwalk
    rw [List.mk_mem_zipIdx_iff_getElem?] at hitem
    exact (h levels item).under fun _ _ => .item hitem

theorem StopsWithin.object {properties : List (String × Checker)} {required : List String}
    {refuse : Bool} (h : ∀ key check, properties.lookup key = some check → check.StopsWithin)
    (levels : Nat) (bag : PropertyBag) :
    (object properties required refuse levels bag).StopsWithin (.object bag) := by
  refine .followedBy (.sequence fun walk hwalk => ?_) ?_
  · obtain ⟨key, _, rfl⟩ := List.mem_map.mp hwalk
    cases h : Entries.hasKey key bag
    · exact ⟨by simp [Finding.under], by simp⟩
    · exact ⟨by simp, by simp⟩
  · rw [entries_eq_sequence]
    refine .sequence fun walk hwalk => ?_
    obtain ⟨⟨key, child⟩, hentry, rfl⟩ := List.mem_map.mp hwalk
    suffices h : (entryValue properties refuse levels (key, child)).StopsWithin child from
      h.under fun _ _ => .entry hentry
    unfold entryValue
    cases hlookup : properties.lookup key with
    | none => exact .problemIf (by simp)
    | some check => exact h key check hlookup levels child

theorem StopsWithin.anyOf {count : Nat} {checks : List Checker}
    (h : ∀ check ∈ checks, check.StopsWithin) (levels : Nat) (value : Value) :
    (anyOf count levels value checks).StopsWithin value := by
  induction checks with
  | nil => exact .problem (by simp)
  | cons check checks ih =>
    rw [List.forall_mem_cons] at h
    simp only [Checker.anyOf]
    cases hstop : (check levels value).stop with
    | some place => exact ⟨by simp, (hstop ▸ (h.1 levels value).stop_located :)⟩
    | none =>
      by_cases hempty : (check levels value).findings.isEmpty = true
      · simp only [hempty, if_true]
        exact .clean
      · simpa only [hempty, Bool.false_eq_true, if_false] using ih h.2

theorem StopsWithin.oneOf {count matched : Nat} {checks : List Checker}
    (h : ∀ check ∈ checks, check.StopsWithin) (levels : Nat) (value : Value) :
    (oneOf count matched levels value checks).StopsWithin value := by
  induction checks generalizing matched with
  | nil =>
    rcases matched with _ | _ | matched
    · exact .problem (by simp)
    · exact .clean
    · exact .problem (by simp)
  | cons check checks ih =>
    rw [List.forall_mem_cons] at h
    simp only [Checker.oneOf]
    cases hstop : (check levels value).stop with
    | some place => exact ⟨by simp, (hstop ▸ (h.1 levels value).stop_located :)⟩
    | none => exact ih h.2

end Checker

namespace Schema

section

variable [PatternEngine]

/-- More levels only add to what a walk finds before it is given up. -/
theorem walk_isMonotone (strict : Bool) (schema : Schema) : (schema.walk strict).IsMonotone := by
  induction schema with
  | any => exact .guarded (Checker.isMonotone_const _)
  | primitive kind => exact .guarded (Checker.isMonotone_const _)
  | enumeration values => exact .guarded (Checker.isMonotone_const _)
  | pattern form => exact .guarded (Checker.isMonotone_const _)
  | range min max integer => exact .guarded (Checker.isMonotone_const _)
  | array items least most ih =>
    refine Checker.IsMonotone.guarded fun levels deeper value hle => ?_
    cases value with
    | array values => exact ih.array hle values
    | _ => exact .refl _
  | object properties required additional ih =>
    refine Checker.IsMonotone.guarded fun levels deeper value hle => ?_
    cases value with
    | object entries =>
      refine Checker.IsMonotone.object (fun key check hcheck => ?_) hle entries
      obtain ⟨declared, hdeclared, rfl⟩ := lookup_walkProperties_eq_some_iff.mp hcheck
      exact ih _ (Entries.mem_of_lookup hdeclared)
    | _ => exact .refl _
  | anyOf branches ih =>
    refine Checker.IsMonotone.guarded fun _ _ _ hle => Checker.IsMonotone.anyOf ?_ hle _
    rw [walkBranches_eq_map]
    exact List.forall_mem_map.mpr ih
  | oneOf branches ih =>
    refine Checker.IsMonotone.guarded fun _ _ _ hle => Checker.IsMonotone.oneOf ?_ hle _
    rw [walkBranches_eq_map]
    exact List.forall_mem_map.mpr ih

/-- A walk is given up at a part of the value that is not `null`. -/
theorem walk_stopsWithin (strict : Bool) (schema : Schema) : (schema.walk strict).StopsWithin := by
  induction schema with
  | any => exact .guarded fun _ _ => .clean
  | primitive kind => exact .guarded fun _ _ => .problemIf (by simp)
  | enumeration values => exact .guarded fun _ _ => .problemIf (by simp)
  | pattern form => exact .guarded fun _ value => .of_isRule (walkPattern_isRule form value)
  | range min max integer =>
    exact .guarded fun _ value => .of_isRule (walkRange_isRule min max integer value)
  | array items least most ih =>
    refine .guarded fun levels value => ?_
    cases value with
    | array values => exact ih.array levels values
    | _ => exact .problem (by simp)
  | object properties required additional ih =>
    refine .guarded fun levels value => ?_
    cases value with
    | object entries =>
      refine Checker.StopsWithin.object (fun key check hcheck => ?_) levels entries
      obtain ⟨declared, hdeclared, rfl⟩ := lookup_walkProperties_eq_some_iff.mp hcheck
      exact ih _ (Entries.mem_of_lookup hdeclared)
    | _ => exact .problem (by simp)
  | anyOf branches ih =>
    refine .guarded fun levels value => Checker.StopsWithin.anyOf ?_ levels value
    rw [walkBranches_eq_map]
    exact List.forall_mem_map.mpr ih
  | oneOf branches ih =>
    refine .guarded fun levels value => Checker.StopsWithin.oneOf ?_ levels value
    rw [walkBranches_eq_map]
    exact List.forall_mem_map.mpr ih

/-- With more levels than the schema is high, a walk comes to its end. -/
theorem walk_stop_eq_none_of_height_lt {strict : Bool} {schema : Schema} {levels : Nat}
    {value : Value} (hlevels : schema.height < levels) :
    (schema.walk strict levels value).stop = none := by
  induction schema generalizing levels value with
  | any => exact Checker.guarded_stop_eq_none hlevels fun _ _ => rfl
  | primitive kind => exact Checker.guarded_stop_eq_none hlevels fun _ _ => by simp
  | enumeration values => exact Checker.guarded_stop_eq_none hlevels fun _ _ => by simp
  | pattern form =>
    exact Checker.guarded_stop_eq_none hlevels fun _ _ =>
      (walkPattern_isRule form value).stop_eq_none
  | range min max integer =>
    exact Checker.guarded_stop_eq_none hlevels fun _ _ =>
      (walkRange_isRule min max integer value).stop_eq_none
  | array items least most ih =>
    refine Checker.guarded_stop_eq_none (Nat.zero_lt_of_lt hlevels) fun below hbelow => ?_
    cases value with
    | array values =>
      refine Checker.array_stop_eq_none_iff.mpr fun item _ => ih ?_
      simp only [height] at hlevels
      omega
    | _ => rfl
  | object properties required additional ih =>
    refine Checker.guarded_stop_eq_none (Nat.zero_lt_of_lt hlevels) fun below hbelow => ?_
    cases value with
    | object entries =>
      refine Checker.object_stop_eq_none_iff.mpr fun entry _ check hcheck => ?_
      obtain ⟨declared, hdeclared, rfl⟩ := lookup_walkProperties_eq_some_iff.mp hcheck
      have hmem := Entries.mem_of_lookup hdeclared
      have hheight := height_lt_propertiesHeight hmem
      simp only [height] at hlevels
      exact ih _ hmem (by omega)
    | _ => rfl
  | anyOf branches ih =>
    refine Checker.guarded_stop_eq_none (Nat.zero_lt_of_lt hlevels) fun below hbelow => ?_
    rw [walkBranches_eq_map]
    refine Checker.anyOf_stop_eq_none (List.forall_mem_map.mpr fun branch hbranch => ?_)
    have hheight := height_lt_branchesHeight hbranch
    simp only [height] at hlevels
    exact ih branch hbranch (by omega)
  | oneOf branches ih =>
    refine Checker.guarded_stop_eq_none (Nat.zero_lt_of_lt hlevels) fun below hbelow => ?_
    rw [walkBranches_eq_map, Checker.oneOf_eq_exclusive]
    · simp
    · refine List.forall_mem_map.mpr fun branch hbranch => ?_
      have hheight := height_lt_branchesHeight hbranch
      simp only [height] at hlevels
      exact ih branch hbranch (by omega)

/-- The records that a walk gathers up to its end, or before the record of its stop. -/
theorem validate_cases (schema : Schema) (options : ValidationOptions) (root : String)
    (value : Value) :
    ∃ gathered, gathered = (schema.walkValue options value).findings.map (Finding.record root) ∧
      (∀ record ∈ gathered, ∀ limit, record.problem ≠ .tooDeep limit) ∧
      (schema.check options root value = .ok gathered ∧
          schema.validate options root value = gathered ∨
        ∃ stop, schema.check options root value = .error stop ∧
          schema.validate options root value = gathered ++ [stop.record]) := by
  refine ⟨_, rfl, fun record hrecord => ?_, ?_⟩
  · obtain ⟨finding, hfinding, rfl⟩ := List.mem_map.mp hrecord
    exact (walk_stopsWithin _ schema _ value).problem_ne finding hfinding
  · unfold check validate Walk.check Walk.collect
    cases (schema.walkValue options value).stop <;> simp

/-- **The depth limit only truncates.** What ends at some depth ends in the same way at each greater
one. What does not end has gathered the beginning of what is gathered at each greater depth, and is
given up at a part of the value that is not `null`. From the height of the schema on, every check
ends. -/
theorem depth_limit_only_truncates (schema : Schema) (strict : Bool) (depth : Nat) (root : String)
    (value : Value) :
    (∀ records, schema.check ⟨strict, depth⟩ root value = .ok records →
      ∀ deeper, depth ≤ deeper → schema.check ⟨strict, deeper⟩ root value = .ok records) ∧
    (∀ stop, schema.check ⟨strict, depth⟩ root value = .error stop →
      (∃ records, schema.validate ⟨strict, depth⟩ root value = records ++ [stop.record] ∧
        (∀ record ∈ records, ∀ limit, record.problem ≠ .tooDeep limit) ∧
        ∀ deeper, depth ≤ deeper → ∃ gathered, records <+: gathered ∧
          (∀ record ∈ gathered, ∀ limit, record.problem ≠ .tooDeep limit) ∧
          (schema.check ⟨strict, deeper⟩ root value = .ok gathered ∧
              schema.validate ⟨strict, deeper⟩ root value = gathered ∨
            ∃ later, schema.check ⟨strict, deeper⟩ root value = .error later ∧
              schema.validate ⟨strict, deeper⟩ root value = gathered ++ [later.record])) ∧
      ∃ place part, value.HasPartAt place part ∧ part ≠ .null ∧
        stop = ⟨renderPath root place, depth⟩) ∧
    (schema.height ≤ depth →
      ∃ records, schema.check ⟨strict, depth⟩ root value = .ok records) := by
  have hextends {deeper : Nat} (hle : depth ≤ deeper) :
      (schema.walkValue ⟨strict, deeper⟩ value).Extends (schema.walkValue ⟨strict, depth⟩ value) :=
    walk_isMonotone strict schema _ _ value (Nat.succ_le_succ hle)
  refine ⟨fun records hok deeper hle => ?_, fun stop herror => ⟨?_, ?_⟩, fun hheight => ?_⟩
  · obtain ⟨hended, hrecords⟩ := Walk.check_eq_ok_iff.mp hok
    have hsame := (hextends hle).eq_of_ended hended
    exact Walk.check_eq_ok_iff.mpr (by rw [hsame]; exact ⟨hended, hrecords⟩)
  · obtain ⟨records, hrecords, hproblems, ⟨hok, _⟩ | ⟨_, hstop, hvalidate⟩⟩ :=
      validate_cases schema ⟨strict, depth⟩ root value
    · simp [herror] at hok
    · obtain rfl : stop = _ := Except.error.inj (herror.symm.trans hstop)
      refine ⟨records, hvalidate, hproblems, fun deeper hle => ?_⟩
      obtain ⟨gathered, hgathered, hproblems', hcases⟩ :=
        validate_cases schema ⟨strict, deeper⟩ root value
      refine ⟨gathered, ?_, hproblems', hcases⟩
      rw [hrecords, hgathered]
      exact (hextends hle).findings_kept.map _
  · obtain ⟨place, hplace, rfl⟩ := Walk.check_eq_error_iff.mp herror
    obtain ⟨part, hpart, hnull⟩ :=
      (walk_stopsWithin strict schema _ value).stop_located place hplace
    exact ⟨place, part, hpart, hnull, rfl⟩
  · have hended : (schema.walkValue ⟨strict, depth⟩ value).stop = none :=
      walk_stop_eq_none_of_height_lt (Nat.lt_succ_of_le hheight)
    exact ⟨_, Walk.check_eq_ok_iff.mpr ⟨hended, rfl⟩⟩

end

/-- One level is too few for an array of arrays, two are enough. -/
theorem nested_array_needs_two_levels :
    let schema := array (array string none none) none none
    let value := Value.array [.bool true, .array [.int 1], .bool true]
    schema.validate ⟨true, 1⟩ "root" value =
        [⟨"root[0]", .notAnArray .boolean⟩, ⟨"root[1][0]", .tooDeep 1⟩] ∧
      ∃ records, schema.check ⟨true, 2⟩ "root" value = .ok records := by
  intro schema value
  have hheight : schema.height ≤ 2 := Nat.le_refl 2
  exact ⟨rfl, (depth_limit_only_truncates schema true 2 "root" value).2.2 hheight⟩

end Schema

end ControlProps
