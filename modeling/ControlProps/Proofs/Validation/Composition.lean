import ControlProps.Proofs.Schema.Parts
import ControlProps.Validation.Check
import Mathlib.Data.List.Nodup

/-!
# How walks are composed

Items, missing keys and entries are all walked in sequence, and a sequence that ends has found what
its members find. This says for each kind of schema when its walk ends and what it then has found,
in terms of the walks of its parts.
-/

namespace ControlProps

namespace Walk

@[simp] theorem clean_findings : clean.findings = [] := rfl

@[simp] theorem clean_stop : clean.stop = none := rfl

@[simp] theorem problem_findings (p : Problem) : (problem p).findings = [⟨[], p⟩] := rfl

@[simp] theorem problem_stop (p : Problem) : (problem p).stop = none := rfl

@[simp] theorem halted_findings : halted.findings = [] := rfl

@[simp] theorem halted_stop : halted.stop = some [] := rfl

@[simp] theorem problemIf_findings (condition : Bool) (p : Problem) :
    (problemIf condition p).findings = if condition then [⟨[], p⟩] else [] := by
  cases condition <;> rfl

@[simp] theorem problemIf_stop (condition : Bool) (p : Problem) :
    (problemIf condition p).stop = none := by
  cases condition <;> rfl

@[simp] theorem under_findings (step : Step) (walk : Walk) :
    (walk.under step).findings = walk.findings.map (.under step) := rfl

@[simp] theorem under_stop (step : Step) (walk : Walk) :
    (walk.under step).stop = walk.stop.map (step :: ·) := rfl

/-- After a walk that ended, the second one goes on. -/
theorem followedBy_of_stop_eq_none {first second : Walk} (hstop : first.stop = none) :
    first.followedBy second = ⟨first.findings ++ second.findings, second.stop⟩ := by
  simp [followedBy, hstop]

/-- After a walk that was given up, there is no second one. -/
theorem followedBy_of_stop_eq_some {first second : Walk} {place : List Step}
    (hstop : first.stop = some place) : first.followedBy second = first := by
  simp [followedBy, hstop]

/-- Two walks end if both do. -/
@[simp] theorem followedBy_stop_eq_none_iff {first second : Walk} :
    (first.followedBy second).stop = none ↔ first.stop = none ∧ second.stop = none := by
  cases hfirst : first.stop with
  | none => simp [followedBy_of_stop_eq_none hfirst]
  | some place => simp [followedBy_of_stop_eq_some hfirst, hfirst]

@[simp] theorem sequence_nil : sequence [] = clean := rfl

@[simp] theorem sequence_cons (walk : Walk) (walks : List Walk) :
    sequence (walk :: walks) = walk.followedBy (sequence walks) := rfl

/-- A sequence ends if all its members do. -/
theorem sequence_stop_eq_none_iff {walks : List Walk} :
    (sequence walks).stop = none ↔ ∀ walk ∈ walks, walk.stop = none := by
  induction walks with
  | nil => simp
  | cons walk walks ih => simp [ih]

/-- A sequence that ends finds what its members find, in order. -/
theorem sequence_findings {walks : List Walk} (hstop : (sequence walks).stop = none) :
    (sequence walks).findings = walks.flatMap findings := by
  induction walks with
  | nil => rfl
  | cons walk walks ih =>
    rw [sequence_cons, followedBy_stop_eq_none_iff] at hstop
    rw [sequence_cons, followedBy_of_stop_eq_none hstop.1, List.flatMap_cons, ih hstop.2]

/-- Two walks one after the other find what one of them finds. -/
theorem mem_findings_of_followedBy {first second : Walk} {finding : Finding}
    (hfinding : finding ∈ (first.followedBy second).findings) :
    finding ∈ first.findings ∨ finding ∈ second.findings := by
  cases hstop : first.stop with
  | none =>
    rw [followedBy_of_stop_eq_none hstop] at hfinding
    exact List.mem_append.mp hfinding
  | some place =>
    rw [followedBy_of_stop_eq_some hstop] at hfinding
    exact .inl hfinding

/-- A sequence finds what one of its members finds. -/
theorem exists_mem_findings_of_sequence {walks : List Walk} {finding : Finding}
    (hfinding : finding ∈ (sequence walks).findings) :
    ∃ walk ∈ walks, finding ∈ walk.findings := by
  induction walks with
  | nil => contradiction
  | cons walk walks ih =>
    rcases mem_findings_of_followedBy hfinding with hfirst | hrest
    · exact ⟨walk, List.mem_cons_self, hfirst⟩
    · obtain ⟨other, hother, hmem⟩ := ih hrest
      exact ⟨other, List.mem_cons_of_mem _ hother, hmem⟩

/-- What a walk comes to if only some of its findings are kept. -/
def keeping (keep : Finding → Bool) (walk : Walk) : Walk := ⟨walk.findings.filter keep, walk.stop⟩

/-- A walk stays as it is if all its findings are kept. -/
theorem keeping_eq_self {keep : Finding → Bool} {walk : Walk}
    (hkeep : ∀ finding ∈ walk.findings, keep finding = true) : walk.keeping keep = walk := by
  rw [keeping, List.filter_eq_self.mpr hkeep]

theorem keeping_followedBy (keep : Finding → Bool) (first second : Walk) :
    (first.followedBy second).keeping keep =
      (first.keeping keep).followedBy (second.keeping keep) := by
  cases hstop : first.stop with
  | none =>
    have hkept : (first.keeping keep).stop = none := hstop
    rw [followedBy_of_stop_eq_none hstop, followedBy_of_stop_eq_none hkept, keeping,
      List.filter_append]
    rfl
  | some place =>
    have hkept : (first.keeping keep).stop = some place := hstop
    rw [followedBy_of_stop_eq_some hstop, followedBy_of_stop_eq_some hkept]

theorem keeping_sequence (keep : Finding → Bool) (walks : List Walk) :
    (sequence walks).keeping keep = sequence (walks.map (keeping keep)) := by
  induction walks with
  | nil => rfl
  | cons walk rest ih => rw [sequence_cons, keeping_followedBy, ih, List.map_cons, sequence_cons]

/-- A check gives the findings of a walk that ends. -/
theorem check_eq_ok_iff {walk : Walk} {root : String} {limit : Nat} {records : List Record} :
    walk.check root limit = .ok records ↔
      walk.stop = none ∧ walk.findings.map (Finding.record root) = records := by
  unfold check
  cases walk.stop <;> simp

/-- A check fails at the stop of a walk that is given up. -/
theorem check_eq_error_iff {walk : Walk} {root : String} {limit : Nat} {stop : DepthExceeded} :
    walk.check root limit = .error stop ↔
      ∃ place, walk.stop = some place ∧ stop = ⟨renderPath root place, limit⟩ := by
  unfold check
  cases walk.stop <;> simp [eq_comm]

/-- The walk of a single rule finds nothing, or one thing that is wrong with the value itself, but
not with its depth or its key. -/
def IsRule (walk : Walk) : Prop :=
  walk = clean ∨ ∃ p, walk = problem p ∧ p ≠ .notAllowed ∧ ∀ limit, p ≠ .tooDeep limit

namespace IsRule

theorem clean : clean.IsRule := .inl rfl

theorem problem {p : Problem} (hkey : p ≠ .notAllowed) (hdepth : ∀ limit, p ≠ .tooDeep limit) :
    (problem p).IsRule :=
  .inr ⟨p, rfl, hkey, hdepth⟩

theorem problemIf {condition : Bool} {p : Problem} (hkey : p ≠ .notAllowed)
    (hdepth : ∀ limit, p ≠ .tooDeep limit) : (problemIf condition p).IsRule := by
  cases condition with
  | false => exact clean
  | true => exact problem hkey hdepth

/-- A rule is not given up. -/
theorem stop_eq_none {walk : Walk} (h : walk.IsRule) : walk.stop = none := by
  rcases h with rfl | ⟨_, rfl, _⟩ <;> rfl

/-- A rule does not look further in. -/
theorem steps_eq_nil {walk : Walk} {finding : Finding} (h : walk.IsRule)
    (hfinding : finding ∈ walk.findings) : finding.steps = [] := by
  rcases h with rfl | ⟨p, rfl, _⟩
  · contradiction
  · rw [List.mem_singleton.mp hfinding]

end IsRule

end Walk

namespace Step

/-- Different items are different steps away. -/
theorem nodup_indices (values : List Value) :
    (values.zipIdx.map fun item => index item.2).Nodup := by
  have hindices : (values.zipIdx.map Prod.snd).Nodup := by
    rw [List.zipIdx_map_snd]
    exact List.nodup_range'
  have hsteps := hindices.map fun _ _ => index.inj
  rwa [List.map_map] at hsteps

/-- Entries under different keys are different steps away. -/
theorem nodup_keys {bag : PropertyBag} (hkeys : (Entries.keys bag).Nodup) :
    (bag.map fun entry => key entry.1).Nodup := by
  have hsteps := hkeys.map fun _ _ => key.inj
  rwa [Entries.keys, List.map_map] at hsteps

end Step

namespace Checker

/-- Bounds are kept, or one thing is wrong with a number. -/
theorem range_isRule (min max : Option Binary64) (number : Binary64) :
    (range min max number).IsRule := by
  unfold range
  split
  · exact .problem (by simp) (by simp)
  · exact .problem (by simp) (by simp)
  · exact .clean

/-- The walk of the value of one entry by the checker of its key. -/
def entryValue (properties : List (String × Checker)) (refuse : Bool) (levels : Nat)
    (entry : String × Value) : Walk :=
  match properties.lookup entry.1 with
  | some check => check levels entry.2
  | none => Walk.problemIf refuse .notAllowed

/-- The walk of one entry, seen from the object. -/
def entry (properties : List (String × Checker)) (refuse : Bool) (levels : Nat)
    (entry : String × Value) : Walk :=
  (entryValue properties refuse levels entry).under (.key entry.1)

/-- Entries are walked one after the other. -/
theorem entries_eq_sequence (properties : List (String × Checker)) (refuse : Bool) (levels : Nat)
    (bag : PropertyBag) :
    entries properties refuse levels bag =
      .sequence (bag.map (entry properties refuse levels)) := by
  induction bag with
  | nil => rfl
  | cons first rest ih => rw [entries, ih]; rfl

/-- Items are walked one after the other. -/
theorem items_eq_sequence (check : Checker) (levels index : Nat) (values : List Value) :
    items check levels index values =
      .sequence ((values.zipIdx index).map fun item =>
        (check levels item.1).under (.index item.2)) := by
  induction values generalizing index with
  | nil => rfl
  | cons first rest ih => rw [items, ih]; rfl

/-- What is found about the number of items alone. -/
def countFindings (least most : Option UInt64) (found : Nat) : List Finding :=
  ((least.filter fun least => found < least.toNat).toList.map fun least =>
    ⟨[], .tooFewItems least.toNat found⟩) ++
  ((most.filter fun most => most.toNat < found).toList.map fun most =>
    ⟨[], .tooManyItems most.toNat found⟩)

/-- The number of items and the items themselves are walked one after the other. -/
theorem array_eq_followedBy (check : Checker) (least most : Option UInt64) (levels : Nat)
    (values : List Value) :
    array check least most levels values =
      Walk.followedBy ⟨countFindings least most values.length, none⟩
        (items check levels 0 values) := by
  have hif (condition : Bool) (p : Problem) :
      Walk.problemIf condition p = ⟨if condition then [⟨[], p⟩] else [], none⟩ := by
    cases condition <;> rfl
  unfold array countFindings
  rcases least with _ | least <;> rcases most with _ | most
  · rfl
  · by_cases hmany : most.toNat < values.length <;>
      simp [hif, hmany, Walk.followedBy, Option.filter]
  · by_cases hfew : values.length < least.toNat <;>
      simp [hif, hfew, Walk.followedBy, Option.filter]
  · by_cases hfew : values.length < least.toNat <;>
      by_cases hmany : most.toNat < values.length <;>
        simp [hif, hfew, hmany, Walk.followedBy, Option.filter]

/-- An array can be walked if all its items can. -/
theorem array_stop_eq_none_iff {check : Checker} {least most : Option UInt64} {levels : Nat}
    {values : List Value} :
    (array check least most levels values).stop = none ↔
      ∀ item ∈ values, (check levels item).stop = none := by
  rw [array_eq_followedBy, Walk.followedBy_stop_eq_none_iff, items_eq_sequence,
    Walk.sequence_stop_eq_none_iff, List.forall_mem_map]
  constructor
  · rintro ⟨_, h⟩ item hitem
    obtain ⟨index, hindex⟩ := List.getElem?_of_mem hitem
    simpa using h (item, index) (List.mk_mem_zipIdx_iff_getElem?.mpr hindex)
  · rintro h
    refine ⟨rfl, fun item hitem => ?_⟩
    simpa using h item.1 (List.fst_mem_of_mem_zipIdx hitem)

/-- The findings of an array that can be walked: first about the number of items, then those of
each item in order. -/
theorem array_findings {check : Checker} {least most : Option UInt64} {levels : Nat}
    {values : List Value} (hstop : (array check least most levels values).stop = none) :
    (array check least most levels values).findings =
      countFindings least most values.length ++ values.zipIdx.flatMap fun item =>
        (check levels item.1).findings.map (.under (.index item.2)) := by
  rw [array_eq_followedBy] at hstop ⊢
  have hitems := (Walk.followedBy_stop_eq_none_iff.mp hstop).2
  rw [items_eq_sequence] at hitems ⊢
  rw [Walk.followedBy_of_stop_eq_none rfl, Walk.sequence_findings hitems, List.flatMap_map]
  rfl

/-- The keys that are required and missing. -/
def missingFindings (required : List String) (bag : PropertyBag) : List Finding :=
  (required.filter fun key => !Entries.hasKey key bag).map fun key => ⟨[.key key], .required⟩

/-- The search for missing keys always ends. -/
theorem missing_eq (required : List String) (bag : PropertyBag) :
    missing required bag = ⟨missingFindings required bag, none⟩ := by
  unfold missing
  induction required with
  | nil => rfl
  | cons key rest ih =>
    rw [List.map_cons, Walk.sequence_cons, ih, Walk.followedBy_of_stop_eq_none (by simp)]
    cases h : Entries.hasKey key bag <;> simp [missingFindings, Finding.under, h]

/-- An object can be walked if all its declared entries can. -/
theorem object_stop_eq_none_iff {properties : List (String × Checker)} {required : List String}
    {refuse : Bool} {levels : Nat} {bag : PropertyBag} :
    (object properties required refuse levels bag).stop = none ↔
      ∀ entry ∈ bag, ∀ check, properties.lookup entry.1 = some check →
        (check levels entry.2).stop = none := by
  rw [object, Walk.followedBy_stop_eq_none_iff, missing_eq, entries_eq_sequence,
    Walk.sequence_stop_eq_none_iff, List.forall_mem_map]
  refine ⟨fun h child hchild check hcheck => ?_, fun h => ⟨rfl, fun child hchild => ?_⟩⟩
  · simpa [entry, entryValue, hcheck] using h.2 child hchild
  · cases hlookup : properties.lookup child.1 with
    | none => simp [entry, entryValue, hlookup]
    | some check => simpa [entry, entryValue, hlookup] using h child hchild check hlookup

/-- The findings of an object that can be walked: first the missing keys, then those of each entry
in order. -/
theorem object_findings {properties : List (String × Checker)} {required : List String}
    {refuse : Bool} {levels : Nat} {bag : PropertyBag}
    (hstop : (object properties required refuse levels bag).stop = none) :
    (object properties required refuse levels bag).findings =
      missingFindings required bag ++
        bag.flatMap fun child => (entry properties refuse levels child).findings := by
  have hentries := (Walk.followedBy_stop_eq_none_iff.mp hstop).2
  rw [entries_eq_sequence] at hentries
  rw [object, missing_eq, Walk.followedBy_of_stop_eq_none rfl, entries_eq_sequence,
    Walk.sequence_findings hentries, List.flatMap_map]

/-- A union can be walked if all its branches can. -/
theorem anyOf_stop_eq_none {count levels : Nat} {value : Value} {checks : List Checker}
    (hstop : ∀ check ∈ checks, (check levels value).stop = none) :
    (anyOf count levels value checks).stop = none := by
  induction checks with
  | nil => rfl
  | cons check checks ih =>
    rw [List.forall_mem_cons] at hstop
    simp only [anyOf, hstop.1]
    split
    · rfl
    · exact ih hstop.2

/-- A union that ends has met a branch without findings, or all branches have ended with some. -/
theorem anyOf_cases {count levels : Nat} {value : Value} {checks : List Checker}
    (hstop : (anyOf count levels value checks).stop = none) :
    (anyOf count levels value checks = .clean ∧
      ∃ check ∈ checks, (check levels value).stop = none ∧ (check levels value).findings = []) ∨
    (anyOf count levels value checks = .problem (.noBranch count) ∧
      ∀ check ∈ checks, (check levels value).stop = none ∧ (check levels value).findings ≠ []) := by
  induction checks with
  | nil => exact .inr ⟨rfl, by simp⟩
  | cons check checks ih =>
    rw [anyOf] at hstop ⊢
    cases hfirst : (check levels value).stop with
    | some place => simp [hfirst] at hstop
    | none =>
      by_cases hempty : (check levels value).findings = []
      · left
        simp only [hempty, List.isEmpty_nil, if_true]
        exact ⟨trivial, check, List.mem_cons_self, hfirst, hempty⟩
      · have hfalse : (check levels value).findings.isEmpty = false := by simpa using hempty
        simp only [hfirst, hfalse, Bool.false_eq_true, if_false] at hstop ⊢
        rcases ih hstop with ⟨hclean, other, hmem, hother⟩ | ⟨hproblem, hall⟩
        · exact .inl ⟨hclean, other, List.mem_cons_of_mem _ hmem, hother⟩
        · exact .inr ⟨hproblem, List.forall_mem_cons.mpr ⟨⟨hfirst, hempty⟩, hall⟩⟩

/-- What an exclusive union finds, if a number of its branches match. -/
def exclusive (count matched : Nat) : Walk :=
  match matched with
  | 0 => .problem (.noSingleBranch count)
  | 1 => .clean
  | matched => .problem (.ambiguous matched count)

@[simp] theorem exclusive_stop (count matched : Nat) : (exclusive count matched).stop = none := by
  rcases matched with _ | _ | matched <;> rfl

/-- An exclusive union finds at most one thing, and at the value itself. -/
theorem exclusive_findings (count matched : Nat) :
    (exclusive count matched).findings = [] ∨
      (exclusive count matched).findings = [⟨[], .noSingleBranch count⟩] ∨
      (exclusive count matched).findings = [⟨[], .ambiguous matched count⟩] := by
  rcases matched with _ | _ | matched
  · exact .inr (.inl rfl)
  · exact .inl rfl
  · exact .inr (.inr rfl)

/-- Exactly one matching branch is in order. -/
theorem exclusive_findings_eq_nil_iff {count matched : Nat} :
    (exclusive count matched).findings = [] ↔ matched = 1 := by
  rcases matched with _ | _ | matched <;> simp [exclusive]

/-- If all branches of an exclusive union can be walked, the number of those without findings
decides. -/
theorem oneOf_eq_exclusive {count matched levels : Nat} {value : Value} {checks : List Checker}
    (hstop : ∀ check ∈ checks, (check levels value).stop = none) :
    oneOf count matched levels value checks =
      exclusive count (matched + checks.countP fun check => (check levels value).findings.isEmpty)
    := by
  induction checks generalizing matched with
  | nil => rcases matched with _ | _ | matched <;> rfl
  | cons check checks ih =>
    rw [List.forall_mem_cons] at hstop
    rw [oneOf, List.countP_cons]
    simp only [hstop.1, ih hstop.2]
    congr 1
    split <;> omega

/-- If an exclusive union ends, so did the walks of all its branches. -/
theorem stop_of_oneOf_stop {count matched levels : Nat} {value : Value} {checks : List Checker}
    (hstop : (oneOf count matched levels value checks).stop = none) :
    ∀ check ∈ checks, (check levels value).stop = none := by
  induction checks generalizing matched with
  | nil => simp
  | cons check checks ih =>
    rw [oneOf] at hstop
    cases hfirst : (check levels value).stop with
    | some place => simp [hfirst] at hstop
    | none =>
      simp only [hfirst] at hstop
      exact List.forall_mem_cons.mpr ⟨hfirst, ih hstop⟩

/-- What relates two checks with the same levels left relates them also where they are guarded, for
values that are `null` together. -/
theorem guarded_rel (related : Walk → Walk → Prop) {check check' : Checker} {levels : Nat}
    {a b : Value} (hnull : a.isNull = b.isNull) (hclean : related .clean .clean)
    (hhalted : related .halted .halted)
    (hcheck : ∀ below, related (check below a) (check' below b)) :
    related (guarded check levels a) (guarded check' levels b) := by
  unfold guarded
  rw [hnull]
  split
  · exact hclean
  · cases levels with
    | zero => exact hhalted
    | succ below => exact hcheck below

/-- A value other than `null` takes one level. -/
theorem guarded_of_ne_null {check : Checker} {levels : Nat} {value : Value}
    (hnull : value ≠ .null) : guarded check (levels + 1) value = check levels value := by
  have hfalse : value.isNull = false := by
    cases value with
    | null => exact absurd rfl hnull
    | _ => rfl
  simp [guarded, hfalse]

/-- A check that ended was of `null` or had a level left. -/
theorem guarded_cases {check : Checker} {levels : Nat} {value : Value}
    (hstop : (guarded check levels value).stop = none) :
    value = .null ∨ value ≠ .null ∧ ∃ below, levels = below + 1 ∧
      guarded check levels value = check below value := by
  by_cases hnull : value = .null
  · exact .inl hnull
  · rcases levels with _ | levels
    · cases value with
      | null => exact absurd rfl hnull
      | _ => simp [guarded, Value.isNull] at hstop
    · exact .inr ⟨hnull, levels, rfl, guarded_of_ne_null hnull⟩

/-- A check of a value other than `null` that ended had a level left. -/
theorem exists_level_of_stop {check : Checker} {levels : Nat} {value : Value}
    (hstop : (guarded check levels value).stop = none) (hnull : value ≠ .null) :
    ∃ below, levels = below + 1 ∧ guarded check levels value = check below value :=
  (guarded_cases hstop).elim (fun h => absurd h hnull) And.right

end Checker

namespace Schema

variable [PatternEngine]

/-- The checkers of branches are the walks along them. -/
theorem walkBranches_eq_map (strict : Bool) (branches : List Schema) :
    walkBranches strict branches = branches.map (walk strict) := by
  induction branches with
  | nil => rfl
  | cons branch rest ih => rw [walkBranches, ih, List.map_cons]

/-- The checker of a key is the walk along the schema that is declared for it. -/
theorem lookup_walkProperties (strict : Bool) (properties : List (String × Schema))
    (key : String) :
    (walkProperties strict properties).lookup key = (properties.lookup key).map (walk strict) := by
  induction properties with
  | nil => rfl
  | cons first rest ih =>
    obtain ⟨name, declared⟩ := first
    simp only [walkProperties, List.lookup_cons, ih]
    cases key == name <;> rfl

/-- A key has a checker if a schema is declared for it, and then it is the walk along that. -/
theorem lookup_walkProperties_eq_some_iff {strict : Bool} {properties : List (String × Schema)}
    {key : String} {check : Checker} :
    (walkProperties strict properties).lookup key = some check ↔
      ∃ declared, properties.lookup key = some declared ∧ declared.walk strict = check := by
  rw [lookup_walkProperties, Option.map_eq_some_iff]

/-- The checker of a declared key. -/
theorem lookup_walkProperties_of_declared (strict : Bool) {properties : List (String × Schema)}
    {key : String} {declared : Schema} (hdeclared : properties.lookup key = some declared) :
    (walkProperties strict properties).lookup key = some (declared.walk strict) :=
  lookup_walkProperties_eq_some_iff.mpr ⟨declared, hdeclared, rfl⟩

/-- What holds of the checker of a key holds of the walk along the schema that is declared for
it. -/
theorem forall_lookup_walkProperties_iff {strict : Bool} {properties : List (String × Schema)}
    {key : String} {holds : Checker → Prop} :
    (∀ check, (walkProperties strict properties).lookup key = some check → holds check) ↔
      ∀ declared, properties.lookup key = some declared → holds (declared.walk strict) := by
  constructor
  · exact fun h declared hdeclared => h _ (lookup_walkProperties_of_declared strict hdeclared)
  · intro h check hcheck
    obtain ⟨declared, hdeclared, rfl⟩ := lookup_walkProperties_eq_some_iff.mp hcheck
    exact h declared hdeclared

/-- A key has no checker if it is not declared. -/
theorem lookup_walkProperties_eq_none_iff {strict : Bool} {properties : List (String × Schema)}
    {key : String} :
    (walkProperties strict properties).lookup key = none ↔ key ∉ Entries.keys properties := by
  rw [lookup_walkProperties, Option.map_eq_none_iff, Entries.lookup_eq_none_iff_notMem]

/-- A text matches a pattern or not. -/
theorem walkPattern_isRule (form : Pattern) (value : Value) : (walkPattern form value).IsRule := by
  cases value with
  | string text => exact .problemIf (by simp) (by simp)
  | _ => exact .problem (by simp) (by simp)

omit [PatternEngine] in
/-- A number is of the kind of a range and within its bounds, or one thing is wrong with it. -/
theorem walkRange_isRule (min max : Option Binary64) (integer : Bool) (value : Value) :
    (walkRange min max integer value).IsRule := by
  cases value with
  | int number => exact Checker.range_isRule min max _
  | float number =>
    cases integer with
    | false => exact Checker.range_isRule min max number
    | true => exact .problem (by simp) (by simp)
  | _ => exact .problem (by simp) (by simp)

/-- A value is in order if it is `null`, whatever the schema. -/
@[simp] theorem walk_null (strict : Bool) (schema : Schema) (levels : Nat) :
    schema.walk strict levels .null = .clean := by
  cases schema <;> rfl

end Schema

end ControlProps
