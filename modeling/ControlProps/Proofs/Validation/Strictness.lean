import ControlProps.Engine.Patterns
import ControlProps.Proofs.Validation.Conformance
import Mathlib.Data.List.Forall2

/-!
# Strict and lenient validation

Being strict changes only one thing: keys that a closed schema does not declare are refused. Without
unions this adds records and changes no other one. With unions of which any branch may match, a
branch may be refused that is taken otherwise, but what is accepted strictly is accepted leniently.
-/

namespace ControlProps

/-- A text with too long a part is not the other one. -/
theorem append_append_ne_of_length_lt {front middle back text : String}
    (hlength : text.length < middle.length) : front ++ middle ++ back ≠ text := by
  rintro rfl
  rw [String.length_append, String.length_append] at hlength
  omega

/-- A text that begins otherwise is not the other one. -/
theorem append_ne_of_not_prefix {start rest text : String}
    (hstart : ¬start.toList <+: text.toList) : start ++ rest ≠ text := by
  rintro rfl
  rw [String.toList_append] at hstart
  exact hstart (List.prefix_append _ _)

namespace Problem

/-- Whether a key is refused. -/
def isRefusal : Problem → Bool
  | notAllowed => true
  | _ => false

/-- Every other problem is no refusal. -/
theorem isRefusal_eq_false {problem : Problem} (h : problem ≠ notAllowed) :
    problem.isRefusal = false := by
  cases problem with
  | notAllowed => exact absurd rfl h
  | _ => rfl

/-- Only refused keys are said not to be allowed. -/
theorem message_eq_iff_isRefusal (problem : Problem) :
    problem.message = "is not allowed" ↔ problem.isRefusal = true := by
  cases problem with
  | notAllowed => exact iff_of_true rfl rfl
  | required => exact iff_of_false (by decide) Bool.false_ne_true
  | belowMinimum number min =>
    -- a number comes first, of which only the length of what follows is known
    exact iff_of_false (append_append_ne_of_length_lt (by decide)) Bool.false_ne_true
  | aboveMaximum number max =>
    exact iff_of_false (append_append_ne_of_length_lt (by decide)) Bool.false_ne_true
  | _ =>
    refine iff_of_false ?_ Bool.false_ne_true
    rw [message.eq_def]
    simp only [String.append_assoc]
    exact append_ne_of_not_prefix (by decide)

end Problem

namespace Walk

/-- What a walk comes to apart from refused keys. -/
def withoutRefusals (walk : Walk) : Walk :=
  ⟨walk.findings.filter fun finding => !finding.problem.isRefusal, walk.stop⟩

/-- A problem of another kind stays. -/
theorem withoutRefusals_problem {p : Problem} (hp : p.isRefusal = false) :
    (problem p).withoutRefusals = problem p := by
  simp [withoutRefusals, problem, hp]

/-- A problem of another kind stays, if there is one. -/
theorem withoutRefusals_problemIf {condition : Bool} {p : Problem} (hp : p.isRefusal = false) :
    (problemIf condition p).withoutRefusals = problemIf condition p := by
  cases condition with
  | false => rfl
  | true => exact withoutRefusals_problem hp

/-- A rule refuses no keys. -/
theorem IsRule.withoutRefusals {walk : Walk} (h : walk.IsRule) : walk.withoutRefusals = walk := by
  rcases h with rfl | ⟨p, rfl, hkey, _⟩
  · rfl
  · exact withoutRefusals_problem (Problem.isRefusal_eq_false hkey)

theorem withoutRefusals_under (walk : Walk) (step : Step) :
    (walk.under step).withoutRefusals = walk.withoutRefusals.under step := by
  simp only [withoutRefusals, under, List.filter_map]
  rfl

theorem withoutRefusals_followedBy (first second : Walk) :
    (first.followedBy second).withoutRefusals =
      first.withoutRefusals.followedBy second.withoutRefusals :=
  keeping_followedBy _ first second

theorem withoutRefusals_sequence (walks : List Walk) :
    (sequence walks).withoutRefusals = sequence (walks.map withoutRefusals) :=
  keeping_sequence _ walks

/-- The records that do not say that a key is not allowed are those of the walk apart from refused
keys. -/
theorem filter_collect (walk : Walk) (root : String) (limit : Nat) :
    (walk.collect root limit).filter (·.message != "is not allowed") =
      walk.withoutRefusals.collect root limit := by
  have hmessage (problem : Problem) (path : String) :
      ((Record.mk path problem).message != "is not allowed") = !problem.isRefusal := by
    rw [Bool.eq_iff_iff, bne_iff_ne, Bool.not_eq_true', ← Bool.not_eq_true]
    exact not_congr problem.message_eq_iff_isRefusal
  have hfindings : (walk.findings.map (Finding.record root)).filter
        (·.message != "is not allowed") =
      walk.withoutRefusals.findings.map (Finding.record root) := by
    rw [List.filter_map]
    exact congrArg _ (List.filter_congr fun finding _ => hmessage _ _)
  have hstop : (walk.stop.toList.map fun place =>
        (DepthExceeded.mk (renderPath root place) limit).record).filter
          (·.message != "is not allowed") =
      walk.withoutRefusals.stop.toList.map fun place =>
        (DepthExceeded.mk (renderPath root place) limit).record := by
    refine List.filter_eq_self.mpr fun record hrecord => ?_
    obtain ⟨place, _, rfl⟩ := List.mem_map.mp hrecord
    exact hmessage _ _
  rw [collect, List.filter_append, hfindings, hstop]
  rfl

end Walk

namespace Checker

variable {check check' : Checker} {levels : Nat} {value : Value}

theorem withoutRefusals_guarded
    (hcheck : ∀ below, (check below value).withoutRefusals = check' below value) :
    (guarded check levels value).withoutRefusals = guarded check' levels value :=
  guarded_rel (fun strict lenient => strict.withoutRefusals = lenient) rfl rfl rfl hcheck

theorem withoutRefusals_items {values : List Value}
    (hcheck : ∀ item ∈ values, (check levels item).withoutRefusals = check' levels item) :
    (items check levels 0 values).withoutRefusals = items check' levels 0 values := by
  rw [items_eq_sequence, items_eq_sequence, Walk.withoutRefusals_sequence, List.map_map]
  refine congrArg Walk.sequence (List.map_congr_left fun item hitem => ?_)
  rw [Function.comp_apply, Walk.withoutRefusals_under,
    hcheck item.1 (List.fst_mem_of_mem_zipIdx hitem)]

/-- The number of items is checked without refusals. -/
theorem withoutRefusals_array {values : List Value} {least most : Option UInt64}
    (hcheck : ∀ item ∈ values, (check levels item).withoutRefusals = check' levels item) :
    (array check least most levels values).withoutRefusals =
      array check' least most levels values := by
  have hcount : Walk.withoutRefusals ⟨countFindings least most values.length, none⟩ =
      ⟨countFindings least most values.length, none⟩ := by
    rw [Walk.withoutRefusals, Walk.mk.injEq]
    refine ⟨List.filter_eq_self.mpr fun finding hfinding => ?_, rfl⟩
    rcases List.mem_append.mp hfinding with hmem | hmem <;>
      obtain ⟨_, _, rfl⟩ := List.mem_map.mp hmem <;> rfl
  rw [array_eq_followedBy, array_eq_followedBy, Walk.withoutRefusals_followedBy, hcount,
    withoutRefusals_items hcheck]

/-- Missing keys are found without refusals. -/
theorem withoutRefusals_missing (required : List String) (bag : PropertyBag) :
    (missing required bag).withoutRefusals = missing required bag := by
  rw [missing_eq, Walk.withoutRefusals, Walk.mk.injEq]
  refine ⟨List.filter_eq_self.mpr fun finding hfinding => ?_, rfl⟩
  obtain ⟨_, _, rfl⟩ := List.mem_map.mp hfinding
  rfl

/-- Of entries that are walked strictly, what is not refused is what is found leniently. -/
theorem withoutRefusals_entries {properties properties' : List (String × Checker)} {refuse : Bool}
    {bag : PropertyBag} (hentries : ∀ child ∈ bag,
      (entryValue properties refuse levels child).withoutRefusals =
        entryValue properties' false levels child) :
    (entries properties refuse levels bag).withoutRefusals =
      entries properties' false levels bag := by
  rw [entries_eq_sequence, entries_eq_sequence, Walk.withoutRefusals_sequence, List.map_map]
  refine congrArg Walk.sequence (List.map_congr_left fun child hchild => ?_)
  rw [Function.comp_apply, entry, entry, Walk.withoutRefusals_under, hentries child hchild]

end Checker

namespace Schema

section

variable [PatternEngine] {schema : Schema} {levels depth : Nat} {root : String} {value : Value}

/-- Whatever is declared for the key of an entry, its value is found leniently to be wrong where it
is strictly, apart from a refusal of the key. -/
theorem withoutRefusals_entryValue {properties : List (String × Schema)} {refuse : Bool}
    {child : String × Value} (hdeclareds : ∀ declared, properties.lookup child.1 = some declared →
      (declared.walk true levels child.2).withoutRefusals = declared.walk false levels child.2) :
    (Checker.entryValue (walkProperties true properties) refuse levels child).withoutRefusals =
      Checker.entryValue (walkProperties false properties) false levels child := by
  unfold Checker.entryValue
  rw [lookup_walkProperties, lookup_walkProperties]
  cases hdeclared : properties.lookup child.1 with
  | none =>
    simp only [Option.map_none]
    cases refuse <;> rfl
  | some declared => exact hdeclareds declared hdeclared

/-- Without unions a strict walk finds what a lenient one finds, and refused keys. -/
theorem withoutRefusals_walk (hanyOf : ∀ branches, ¬schema.HasPart (.anyOf branches))
    (honeOf : ∀ branches, ¬schema.HasPart (.oneOf branches)) :
    (schema.walk true levels value).withoutRefusals = schema.walk false levels value := by
  induction schema generalizing levels value with
  | any => exact Checker.withoutRefusals_guarded fun _ => rfl
  | primitive kind =>
    exact Checker.withoutRefusals_guarded fun _ => Walk.withoutRefusals_problemIf rfl
  | enumeration values =>
    exact Checker.withoutRefusals_guarded fun _ => Walk.withoutRefusals_problemIf rfl
  | pattern form =>
    exact Checker.withoutRefusals_guarded fun _ => (walkPattern_isRule form value).withoutRefusals
  | range min max integer =>
    exact Checker.withoutRefusals_guarded fun _ =>
      (walkRange_isRule min max integer value).withoutRefusals
  | array items least most ih =>
    have hitems {item : Value} {below : Nat} :
        (items.walk true below item).withoutRefusals = items.walk false below item :=
      ih (fun branches hpart => hanyOf branches (.items hpart))
        fun branches hpart => honeOf branches (.items hpart)
    refine Checker.withoutRefusals_guarded fun below => ?_
    cases value with
    | array values => exact Checker.withoutRefusals_array fun _ _ => hitems
    | _ => rfl
  | object properties required additional ih =>
    refine Checker.withoutRefusals_guarded fun below => ?_
    cases value with
    | object bag =>
      simp only [Checker.object, Walk.withoutRefusals_followedBy, Checker.withoutRefusals_missing,
        Bool.false_and]
      refine congrArg _ (Checker.withoutRefusals_entries fun child _ => ?_)
      refine withoutRefusals_entryValue fun declared hdeclared => ?_
      have hmem := Entries.mem_of_lookup hdeclared
      exact ih _ hmem (fun branches hpart => hanyOf branches (.property hmem hpart))
        fun branches hpart => honeOf branches (.property hmem hpart)
    | _ => rfl
  | anyOf branches => exact absurd .self (hanyOf branches)
  | oneOf branches => exact absurd .self (honeOf branches)

/-- **Strictness adds refused keys.** Without unions a lenient validation gives the records of the
strict one, in the same order, except those that say that a key is not allowed; and both stop at the
depth limit at the same place or not at all. -/
theorem lenient_records_of_strict (hanyOf : ∀ branches, ¬schema.HasPart (.anyOf branches))
    (honeOf : ∀ branches, ¬schema.HasPart (.oneOf branches)) :
    schema.validate ⟨false, depth⟩ root value =
        (schema.validate ⟨true, depth⟩ root value).filter (·.message != "is not allowed") ∧
      ∀ stop, schema.check ⟨false, depth⟩ root value = .error stop ↔
        schema.check ⟨true, depth⟩ root value = .error stop := by
  have hwalk : (schema.walkValue ⟨true, depth⟩ value).withoutRefusals =
      schema.walkValue ⟨false, depth⟩ value := withoutRefusals_walk hanyOf honeOf
  constructor
  · rw [validate, validate, Walk.filter_collect, hwalk]
  · intro stop
    rw [check, check, Walk.check_eq_error_iff, Walk.check_eq_error_iff, ← hwalk]
    rfl

end

/-- Two closed objects, each with an undeclared key and with something else that is wrong. -/
theorem lenient_records_of_closed_objects :
    let schema := array (object [("id", string)] ["id"] .reject) none none
    let value := Value.array
      [.object [("more", .int 1)], .object [("note", .null), ("id", .bool true)]]
    (∀ branches, ¬schema.HasPart (.anyOf branches)) ∧
      (∀ branches, ¬schema.HasPart (.oneOf branches)) ∧
      schema.validate ⟨true, 2⟩ "root" value = [⟨"root[0].id", .required⟩,
        ⟨"root[0].more", .notAllowed⟩, ⟨"root[1].note", .notAllowed⟩,
        ⟨"root[1].id", .wrongKind .string .boolean⟩] ∧
      schema.validate ⟨false, 2⟩ "root" value =
        (schema.validate ⟨true, 2⟩ "root" value).filter (·.message != "is not allowed") := by
  intro schema value
  have hparts {part : Schema}
      (hpart : (array (object [("id", string)] ["id"] .reject) none none).HasPart part) :
      part = schema ∨ part = object [("id", string)] ["id"] .reject ∨ part = string := by
    cases hpart with
    | self => exact .inl rfl
    | items hpart =>
      cases hpart with
      | self => exact .inr (.inl rfl)
      | property hentry hpart =>
        obtain rfl := List.mem_singleton.mp hentry
        cases hpart
        exact .inr (.inr rfl)
  have hanyOf (branches : List Schema) : ¬schema.HasPart (.anyOf branches) := by
    intro hpart
    rcases hparts hpart with h | h | h <;> contradiction
  have honeOf (branches : List Schema) : ¬schema.HasPart (.oneOf branches) := by
    intro hpart
    rcases hparts hpart with h | h | h <;> contradiction
  exact ⟨hanyOf, honeOf, rfl, (lenient_records_of_strict hanyOf honeOf).1⟩

end Schema

namespace Walk

/-- If the strict walk ends, so does the lenient one, which then finds nothing unless the strict one
does. -/
def Relaxes (lenient strict : Walk) : Prop :=
  strict.stop = none → lenient.stop = none ∧ (strict.findings = [] → lenient.findings = [])

theorem Relaxes.refl (walk : Walk) : walk.Relaxes walk := fun hstop => ⟨hstop, id⟩

end Walk

namespace Checker

variable {lenient strict : Checker} {levels : Nat} {value : Value}

theorem relaxes_guarded (hcheck : ∀ below, (lenient below value).Relaxes (strict below value)) :
    (guarded lenient levels value).Relaxes (guarded strict levels value) :=
  guarded_rel Walk.Relaxes rfl (.refl _) (.refl _) hcheck

/-- The bounds of an array do not depend on strictness. -/
theorem relaxes_array {least most : Option UInt64} {values : List Value}
    (hcheck : ∀ item ∈ values, (lenient levels item).Relaxes (strict levels item)) :
    (array lenient least most levels values).Relaxes (array strict least most levels values) := by
  intro hstop
  have hitems := array_stop_eq_none_iff.mp hstop
  have hended : (array lenient least most levels values).stop = none :=
    array_stop_eq_none_iff.mpr fun item hitem => (hcheck item hitem (hitems item hitem)).1
  refine ⟨hended, fun hnone => ?_⟩
  obtain ⟨hleast, hmost, hclean⟩ := (array_findings_eq_nil_iff hstop).mp hnone
  refine (array_findings_eq_nil_iff hended).mpr ⟨hleast, hmost, fun item hitem => ?_⟩
  exact (hcheck item hitem (hitems item hitem)).2 (hclean item hitem)

/-- Leniently no key is refused, and declared entries are walked leniently. -/
theorem relaxes_object {properties properties' : List (String × Checker)} {required : List String}
    {refuse : Bool} {bag : PropertyBag}
    (hcheck : ∀ key check, properties.lookup key = some check →
      ∃ check', properties'.lookup key = some check' ∧
        ∀ child, (check levels child).Relaxes (check' levels child)) :
    (object properties required false levels bag).Relaxes
      (object properties' required refuse levels bag) := by
  intro hstop
  have hentries := object_stop_eq_none_iff.mp hstop
  have hended : (object properties required false levels bag).stop = none := by
    refine object_stop_eq_none_iff.mpr fun entry hentry check hlookup => ?_
    obtain ⟨check', hlookup', hrelaxes⟩ := hcheck entry.1 check hlookup
    exact (hrelaxes entry.2 (hentries entry hentry check' hlookup')).1
  refine ⟨hended, fun hnone => ?_⟩
  obtain ⟨hrequired, hclean, _⟩ := (object_findings_eq_nil_iff hstop).mp hnone
  refine (object_findings_eq_nil_iff hended).mpr ⟨hrequired, fun child hchild check hlookup => ?_,
    nofun⟩
  obtain ⟨check', hlookup', hrelaxes⟩ := hcheck child.1 check hlookup
  exact (hrelaxes child.2 (hentries child hchild check' hlookup')).2
    (hclean child hchild check' hlookup')

/-- The branch that is taken strictly, or one before it, is taken leniently; those before it have
ended in both walks. -/
theorem relaxes_anyOf {count : Nat} {lenients stricts : List Checker}
    (h : List.Forall₂ (fun lenient strict => (lenient levels value).Relaxes (strict levels value))
      lenients stricts) :
    (anyOf count levels value lenients).Relaxes (anyOf count levels value stricts) := by
  induction h with
  | nil => exact .refl _
  | @cons lenient strict _ _ hfirst _ ih =>
    intro hstop
    rw [anyOf] at hstop ⊢
    cases hstrict : (strict levels value).stop with
    | some place => simp [hstrict] at hstop
    | none =>
      obtain ⟨hlenient, hclean⟩ := hfirst hstrict
      rw [hlenient]
      by_cases hnone : (lenient levels value).findings = []
      · simp only [hnone, List.isEmpty_nil, if_true]
        exact ⟨rfl, fun _ => rfl⟩
      · have hsome : (strict levels value).findings ≠ [] := fun h => hnone (hclean h)
        simp only [hstrict, List.isEmpty_iff, hsome, if_false] at hstop
        simpa only [anyOf, hstrict, List.isEmpty_iff, hnone, hsome, if_false] using ih hstop

end Checker

namespace Schema

section

variable [PatternEngine] {schema : Schema} {levels depth : Nat} {root : String} {value : Value}

/-- Without exclusive unions a lenient walk ends where a strict one does, and finds nothing where
that finds nothing. -/
theorem walk_relaxes (honeOf : ∀ branches, ¬schema.HasPart (.oneOf branches)) :
    (schema.walk false levels value).Relaxes (schema.walk true levels value) := by
  induction schema generalizing levels value with
  | array items least most ih =>
    refine Checker.relaxes_guarded fun below => ?_
    cases value with
    | array values =>
      exact Checker.relaxes_array fun _ _ => ih fun branches hpart => honeOf branches (.items hpart)
    | _ => exact .refl _
  | object properties required additional ih =>
    refine Checker.relaxes_guarded fun below => ?_
    cases value with
    | object bag =>
      refine Checker.relaxes_object fun key check hcheck => ?_
      obtain ⟨declared, hdeclared, rfl⟩ := lookup_walkProperties_eq_some_iff.mp hcheck
      have hmem := Entries.mem_of_lookup hdeclared
      refine ⟨declared.walk true, lookup_walkProperties_of_declared true hdeclared, fun child => ?_⟩
      exact ih _ hmem fun branches hpart => honeOf branches (.property hmem hpart)
    | _ => exact .refl _
  | anyOf branches ih =>
    refine Checker.relaxes_guarded fun below => ?_
    rw [walkBranches_eq_map, walkBranches_eq_map]
    refine Checker.relaxes_anyOf ?_
    rw [List.forall₂_map_left_iff, List.forall₂_map_right_iff, List.forall₂_same]
    exact fun branch hbranch => ih branch hbranch fun inner hpart =>
      honeOf inner (.anyOf hbranch hpart)
  | oneOf branches => exact absurd .self (honeOf branches)
  | _ =>
    -- the other rules are the same in both modes
    exact .refl _

/-- **What is accepted strictly is accepted leniently,** and within the same depth, unless an
exclusive union is involved. -/
theorem lenient_accepts_of_strict (honeOf : ∀ branches, ¬schema.HasPart (.oneOf branches))
    {records : List Record} (hok : schema.check ⟨true, depth⟩ root value = .ok records) :
    ∃ records', schema.check ⟨false, depth⟩ root value = .ok records' ∧
      (records = [] → records' = []) := by
  obtain ⟨hended, rfl⟩ := Walk.check_eq_ok_iff.mp hok
  obtain ⟨hlenient, hclean⟩ := walk_relaxes honeOf hended
  refine ⟨_, Walk.check_eq_ok_iff.mpr ⟨hlenient, rfl⟩, fun hnone => ?_⟩
  exact List.map_eq_nil_iff.mpr (hclean (List.map_eq_nil_iff.mp hnone))

end

/-- Strictly the second branch is taken, leniently already the first. -/
theorem lenient_accepts_another_branch :
    let closed := object [("id", string)] [] .reject
    let schema := anyOf [closed, openObject [("more", boolean)]]
    let value := Value.object [("id", .string "a"), ("more", .bool true)]
    (∀ branches, ¬schema.HasPart (.oneOf branches)) ∧
      closed.check ⟨true, 2⟩ "root" value = .ok [⟨"root.more", .notAllowed⟩] ∧
      schema.check ⟨true, 2⟩ "root" value = .ok [] ∧
      schema.check ⟨false, 2⟩ "root" value = .ok [] := by
  intro closed schema value
  have hobject (key : String) (kind : Kind) (additional : Additional) (branches : List Schema) :
      ¬(object [(key, primitive kind)] [] additional).HasPart (.oneOf branches) := by
    intro hpart
    cases hpart with
    | property hentry hpart =>
      obtain rfl := List.mem_singleton.mp hentry
      cases hpart
  have honeOf (branches : List Schema) :
      ¬(anyOf [closed, openObject [("more", boolean)]]).HasPart (.oneOf branches) := by
    intro hpart
    cases hpart with
    | anyOf hbranch hpart =>
      rcases List.mem_pair.mp hbranch with rfl | rfl
      · exact hobject "id" .string .reject branches hpart
      · exact hobject "more" .boolean .allow branches hpart
  have hok : schema.check ⟨true, 2⟩ "root" value = .ok [] := rfl
  obtain ⟨records, hlenient, hnone⟩ := lenient_accepts_of_strict honeOf hok
  rw [hnone rfl] at hlenient
  exact ⟨honeOf, rfl, hok, hlenient⟩

end Schema

end ControlProps
