import ControlProps.Proofs.Schema.Composition
import ControlProps.Proofs.Validation.Bags
import ControlProps.Proofs.Validation.Strictness
import ControlProps.SharedSchemas

/-!
# Hinted keys

A hint declares a key for which every value is in order, unless the key is declared already. With
more hints a bag has the same findings, except those that refuse one of the hinted keys.
-/

namespace ControlProps

namespace Walk

/-- A walk refuses keys of what it walks, never that value itself. -/
def RefusesBelow (walk : Walk) : Prop :=
  ∀ finding ∈ walk.findings, finding.problem.isRefusal = true → finding.steps ≠ []

namespace RefusesBelow

/-- Without findings there are no refusals, wherever the walk stops. -/
theorem nothing (stop : Option (List Step)) : RefusesBelow ⟨[], stop⟩ := by
  intro finding hfinding
  exact absurd hfinding List.not_mem_nil

theorem clean : clean.RefusesBelow := nothing none

theorem problem {p : Problem} (hp : p.isRefusal = false) : (problem p).RefusesBelow := by
  intro finding hfinding hrefusal
  obtain rfl := List.mem_singleton.mp hfinding
  rw [hp] at hrefusal
  contradiction

theorem problemIf {condition : Bool} {p : Problem} (hp : p.isRefusal = false) :
    (problemIf condition p).RefusesBelow := by
  cases condition with
  | false => exact clean
  | true => exact problem hp

/-- A rule refuses no keys. -/
theorem of_isRule {walk : Walk} (h : walk.IsRule) : walk.RefusesBelow := by
  rcases h with rfl | ⟨p, rfl, hkey, _⟩
  · exact clean
  · exact problem (Problem.isRefusal_eq_false hkey)

theorem under (step : Step) (walk : Walk) : (walk.under step).RefusesBelow := by
  intro finding hfinding _
  obtain ⟨inner, _, rfl⟩ := List.mem_map.mp hfinding
  exact List.cons_ne_nil _ _

theorem followedBy {first second : Walk} (hfirst : first.RefusesBelow)
    (hsecond : second.RefusesBelow) : (first.followedBy second).RefusesBelow := by
  intro finding hfinding
  exact (mem_findings_of_followedBy hfinding).elim (hfirst finding) (hsecond finding)

theorem sequence {walks : List Walk} (hwalks : ∀ walk ∈ walks, walk.RefusesBelow) :
    (sequence walks).RefusesBelow := by
  intro finding hfinding
  obtain ⟨walk, hwalk, hmem⟩ := exists_mem_findings_of_sequence hfinding
  exact hwalks walk hwalk finding hmem

end RefusesBelow

end Walk

namespace Checker

variable {levels : Nat} {value : Value}

theorem refusesBelow_guarded {check : Checker}
    (hcheck : ∀ below, (check below value).RefusesBelow) :
    (guarded check levels value).RefusesBelow := by
  unfold guarded
  split
  · exact .clean
  · cases levels with
    | zero => exact .nothing _
    | succ below => exact hcheck below

theorem refusesBelow_array (check : Checker) (least most : Option UInt64) (values : List Value) :
    (array check least most levels values).RefusesBelow := by
  refine .followedBy ?_ (.followedBy ?_ ?_)
  · cases least with
    | none => exact .clean
    | some least => exact .problemIf rfl
  · cases most with
    | none => exact .clean
    | some most => exact .problemIf rfl
  · rw [items_eq_sequence]
    refine .sequence fun walk hwalk => ?_
    obtain ⟨item, _, rfl⟩ := List.mem_map.mp hwalk
    exact .under _ _

theorem refusesBelow_object (properties : List (String × Checker)) (required : List String)
    (refuse : Bool) (bag : PropertyBag) :
    (object properties required refuse levels bag).RefusesBelow := by
  refine .followedBy (.sequence fun walk hwalk => ?_) ?_
  · obtain ⟨key, _, rfl⟩ := List.mem_map.mp hwalk
    exact .under _ _
  · rw [entries_eq_sequence]
    refine .sequence fun walk hwalk => ?_
    obtain ⟨child, _, rfl⟩ := List.mem_map.mp hwalk
    exact .under _ _

theorem refusesBelow_anyOf (count : Nat) (checks : List Checker) :
    (anyOf count levels value checks).RefusesBelow := by
  induction checks with
  | nil => exact .problem rfl
  | cons check rest ih =>
    rw [anyOf]
    cases (check levels value).stop with
    | some place => exact .nothing _
    | none =>
      dsimp only
      split
      · exact .clean
      · exact ih

theorem refusesBelow_oneOf (count matched : Nat) (checks : List Checker) :
    (oneOf count matched levels value checks).RefusesBelow := by
  induction checks generalizing matched with
  | nil =>
    rcases matched with _ | _ | matched
    · exact .problem rfl
    · exact .clean
    · exact .problem rfl
  | cons check rest ih =>
    rw [oneOf]
    cases (check levels value).stop with
    | some place => exact .nothing _
    | none => exact ih _

end Checker

namespace Schema

variable [PatternEngine]

/-- No schema refuses the value that it is for, only keys of it. -/
theorem refusesBelow_walk (strict : Bool) (schema : Schema) (levels : Nat) (value : Value) :
    (schema.walk strict levels value).RefusesBelow := by
  cases schema with
  | any => exact Checker.refusesBelow_guarded fun _ => .clean
  | primitive kind => exact Checker.refusesBelow_guarded fun _ => .problemIf rfl
  | enumeration values => exact Checker.refusesBelow_guarded fun _ => .problemIf rfl
  | pattern form =>
    exact Checker.refusesBelow_guarded fun _ => .of_isRule (walkPattern_isRule form value)
  | range min max integer =>
    exact Checker.refusesBelow_guarded fun _ => .of_isRule (walkRange_isRule min max integer value)
  | array items least most =>
    refine Checker.refusesBelow_guarded fun _ => ?_
    cases value with
    | array values => exact Checker.refusesBelow_array _ least most values
    | _ => exact .problem rfl
  | object properties required additional =>
    refine Checker.refusesBelow_guarded fun _ => ?_
    cases value with
    | object bag => exact Checker.refusesBelow_object _ required _ bag
    | _ => exact .problem rfl
  | anyOf branches => exact Checker.refusesBelow_guarded fun _ => Checker.refusesBelow_anyOf _ _
  | oneOf branches => exact Checker.refusesBelow_guarded fun _ => Checker.refusesBelow_oneOf _ _ _

end Schema

namespace Finding

/-- Whether a finding refuses one of the given keys of the value itself. -/
def refusesKey (keys : List String) : Finding → Bool
  | ⟨[.key key], .notAllowed⟩ => keys.contains key
  | _ => false

/-- A refusal of a key lies one step below the value. -/
theorem refusesKey_iff {keys : List String} {finding : Finding} :
    finding.refusesKey keys = true ↔ ∃ key ∈ keys, finding = ⟨[.key key], .notAllowed⟩ := by
  unfold refusesKey
  split
  · rename_i key
    simp
  · rename_i hother
    refine iff_of_false Bool.false_ne_true ?_
    rintro ⟨key, _, rfl⟩
    exact hother key rfl

/-- What lies below a key refuses that key itself only if it refuses the value under it. -/
theorem refusesKey_under {keys : List String} {step : Step} {finding : Finding}
    (hbelow : finding.problem.isRefusal = true → finding.steps ≠ []) :
    (finding.under step).refusesKey keys = false := by
  rw [← Bool.not_eq_true, refusesKey_iff]
  rintro ⟨key, _, hsame⟩
  obtain ⟨steps, problem⟩ := finding
  obtain ⟨hsteps, rfl⟩ := Finding.mk.inj hsame
  exact hbelow rfl (List.cons.inj hsteps).2

end Finding

namespace Walk

/-- What a walk comes to if the given keys are not refused. -/
def permitting (keys : List String) (walk : Walk) : Walk :=
  walk.keeping fun finding => !finding.refusesKey keys

/-- Permitting keys changes nothing about what lies further in. -/
theorem permitting_under {keys : List String} {step : Step} {walk : Walk}
    (hwalk : walk.RefusesBelow) : (walk.under step).permitting keys = walk.under step := by
  refine keeping_eq_self fun finding hfinding => ?_
  obtain ⟨inner, hinner, rfl⟩ := List.mem_map.mp hfinding
  rw [Finding.refusesKey_under (hwalk inner hinner), Bool.not_false]

/-- Permitted keys are not refused. -/
theorem isRefusal_of_permitting {keys : List String} {walk : Walk} {finding : Finding}
    {key : String} (hfinding : finding ∈ (walk.permitting keys).findings) (hkey : key ∈ keys)
    (hsteps : finding.steps = [.key key]) : finding.problem.isRefusal = false := by
  have hkept : (!finding.refusesKey keys) = true := (List.mem_filter.mp hfinding).2
  obtain ⟨steps, problem⟩ := finding
  subst hsteps
  cases problem with
  | notAllowed =>
    have hrefused : Finding.refusesKey keys ⟨[.key key], .notAllowed⟩ = true :=
      Finding.refusesKey_iff.mpr ⟨key, hkey, rfl⟩
    rw [hrefused] at hkept
    contradiction
  | _ => rfl

/-- A key is no longer refused exactly if it is among those that are permitted. -/
theorem permitting_refusal {keys : List String} {refuse : Bool} {key : String} :
    ((problemIf refuse .notAllowed).under (.key key)).permitting keys =
      if key ∈ keys then clean else (problemIf refuse .notAllowed).under (.key key) := by
  cases refuse with
  | false => split <;> rfl
  | true =>
    have hrefuses : Finding.refusesKey keys ⟨[.key key], .notAllowed⟩ = keys.contains key := rfl
    by_cases hkey : key ∈ keys
    · simp [permitting, keeping, under, problemIf, problem, clean, Finding.under, hrefuses, hkey]
    · simp [permitting, keeping, under, problemIf, problem, Finding.under, hrefuses, hkey]

end Walk

namespace Checker

/-- Missing keys are not refused keys. -/
theorem permitting_missing {keys : List String} (required : List String) (bag : PropertyBag) :
    (missing required bag).permitting keys = missing required bag := by
  refine Walk.keeping_eq_self fun finding hfinding => ?_
  rw [missing_eq] at hfinding
  obtain ⟨key, _, rfl⟩ := List.mem_map.mp hfinding
  rfl

/-- An entry is walked alike with further hints, unless its key is hinted and was refused. -/
theorem entry_of_hinted [PatternEngine] {keys : List String} {refuse strict : Bool} {levels : Nat}
    {properties hinted : List (String × Schema)} (child : String × Value)
    (hhinted : hinted.lookup child.1 = (properties.lookup child.1).or
      (if child.1 ∈ keys then some .any else none)) :
    entry (Schema.walkProperties strict hinted) refuse (levels + 1) child =
      (entry (Schema.walkProperties strict properties) refuse (levels + 1) child).permitting keys
    := by
  unfold entry entryValue
  rw [Schema.lookup_walkProperties, Schema.lookup_walkProperties, hhinted]
  cases hdeclared : properties.lookup child.1 with
  | some declared =>
    exact (Walk.permitting_under (declared.refusesBelow_walk strict _ _)).symm
  | none =>
    refine Eq.trans ?_ Walk.permitting_refusal.symm
    by_cases hkey : child.1 ∈ keys
    · -- a level is left for the value, so the walk along the hint is clean
      have hany : Schema.any.walk strict (levels + 1) child.2 = .clean := by
        simp only [Schema.walk, guarded]
        split <;> rfl
      rw [if_pos hkey, if_pos hkey]
      exact congrArg (Walk.under (.key child.1)) hany
    · rw [if_neg hkey, if_neg hkey]
      rfl

end Checker

namespace Schema

/-- The properties that hints declare: every value is in order for each of them. -/
theorem property?_catchAll [SharedPatterns] (hints : List String) (key : String) :
    (SharedSchemas.catchAll hints).property? key = if key ∈ hints then some .any else none := by
  have hnames (names : List String) : (names.map fun name => (name, Schema.any)).lookup key =
      if key ∈ names then some .any else none := by
    induction names with
    | nil => rfl
    | cons name rest ih =>
      by_cases hsame : key = name
      · simp [hsame]
      · simp [List.lookup_cons, beq_eq_false_iff_ne.mpr hsame, ih, hsame]
  rw [SharedSchemas.catchAll, openObject, property?, properties?, Option.bind_some, hnames]
  simp only [Entries.mem_distinct]

/-- **More hints, fewer refusals.** If the one object schema declares what the other one does and
further keys for which every value is in order, then it finds the same in a bag, except that it does
not refuse those keys. -/
theorem walkBag_of_hinted [PatternEngine] {keys required : List String} {additional : Additional}
    {strict : Bool} {depth : Nat} {properties hinted : List (String × Schema)} (hdepth : 1 ≤ depth)
    (hhinted : ∀ key, hinted.lookup key = (properties.lookup key).or
      (if key ∈ keys then some .any else none)) (bag : PropertyBag) :
    (object hinted required additional).walkBag strict depth bag =
      ((object properties required additional).walkBag strict depth bag).permitting keys := by
  obtain ⟨below, rfl⟩ := Nat.exists_eq_add_of_le' hdepth
  rw [walkBag, walkBag, Checker.object, Checker.object, Walk.permitting, Walk.keeping_followedBy]
  refine congrArg₂ Walk.followedBy (Checker.permitting_missing required bag).symm ?_
  rw [Checker.entries_eq_sequence, Checker.entries_eq_sequence, Walk.keeping_sequence,
    List.map_map]
  refine congrArg Walk.sequence (List.map_congr_left fun child _ => ?_)
  exact Checker.entry_of_hinted child (hhinted child.1)

end Schema

end ControlProps
