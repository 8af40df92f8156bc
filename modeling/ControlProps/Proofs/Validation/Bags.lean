import ControlProps.Proofs.Validation.Conformance

/-!
# Clean walks

A walk is clean if it comes to its end and finds nothing, and nothing else gives no records or no
error. A bag is walked cleanly if no required key is missing and each entry is in order on its own.
-/

namespace ControlProps

namespace Walk

/-- A walk that ends without findings is clean. -/
theorem eq_clean_iff {walk : Walk} : walk = .clean ↔ walk.stop = none ∧ walk.findings = [] := by
  obtain ⟨findings, stop⟩ := walk
  simp [clean, and_comm]

/-- Two walks one after the other are clean if both are. -/
theorem followedBy_eq_clean_iff {first second : Walk} :
    first.followedBy second = .clean ↔ first = .clean ∧ second = .clean := by
  cases hfirst : first.stop with
  | none =>
    rw [followedBy_of_stop_eq_none hfirst, eq_clean_iff, eq_clean_iff, eq_clean_iff,
      List.append_eq_nil_iff, hfirst]
    constructor
    · rintro ⟨hstop, hfront, hback⟩
      exact ⟨⟨rfl, hfront⟩, hstop, hback⟩
    · rintro ⟨⟨_, hfront⟩, hstop, hback⟩
      exact ⟨hstop, hfront, hback⟩
  | some place =>
    rw [followedBy_of_stop_eq_some hfirst]
    simp [eq_clean_iff, hfirst]

/-- Several walks one after the other are clean if all are. -/
theorem sequence_eq_clean_iff {walks : List Walk} :
    sequence walks = .clean ↔ ∀ walk ∈ walks, walk = .clean := by
  induction walks with
  | nil => simp
  | cons walk walks ih =>
    rw [sequence_cons, followedBy_eq_clean_iff, ih, List.forall_mem_cons]

/-- The walk of a part is clean also if it is seen from further up. -/
@[simp] theorem under_eq_clean_iff {walk : Walk} {step : Step} :
    walk.under step = .clean ↔ walk = .clean := by
  simp [eq_clean_iff]

/-- Only a clean walk gives no records. -/
theorem collect_eq_nil_iff {walk : Walk} {root : String} {limit : Nat} :
    walk.collect root limit = [] ↔ walk = .clean := by
  rw [eq_clean_iff, collect]
  cases walk.stop <;> simp

/-- Only a clean walk gives no error. -/
theorem ensure_eq_ok_iff {walk : Walk} {root : String} {limit : Nat} :
    walk.ensure root limit = .ok () ↔ walk = .clean := by
  rw [eq_clean_iff, ensure, check]
  cases hstop : walk.stop with
  | some place => simp
  | none =>
    cases hfindings : walk.findings <;> simp

end Walk

namespace Schema

variable [PatternEngine]

/-- With more levels than the schema is high, exactly the values that conform are walked cleanly. -/
theorem walk_eq_clean_iff_conforms {strict : Bool} {schema : Schema} {levels : Nat} {value : Value}
    (hlevels : schema.height < levels) :
    schema.walk strict levels value = .clean ↔ schema.Conforms strict value := by
  have hstop : (schema.walk strict levels value).stop = none :=
    walk_stop_eq_none_of_height_lt hlevels
  rw [Walk.eq_clean_iff, walk_findings_eq_nil_iff hstop, and_iff_right hstop]

/-- With a limit that is no less than the height of the schema, exactly the values that conform have
no records. -/
theorem validate_eq_nil_iff_conforms {schema : Schema} {options : ValidationOptions}
    {root : String} {value : Value} (hdepth : schema.height ≤ options.maxDepth) :
    schema.validate options root value = [] ↔ schema.Conforms options.strict value := by
  rw [validate, Walk.collect_eq_nil_iff, walkValue,
    walk_eq_clean_iff_conforms (Nat.lt_succ_of_le hdepth)]

/-- Whether an entry of a bag is in order: by the schema that is declared for its key, or because
keys without a schema are not refused. -/
def AllowsEntry (strict : Bool) (properties : List (String × Schema)) (refuse : Bool)
    (levels : Nat) (entry : String × Value) : Prop :=
  match properties.lookup entry.1 with
  | some declared => declared.walk strict levels entry.2 = .clean
  | none => refuse = false

/-- An entry is walked cleanly if it is in order. -/
theorem entry_eq_clean_iff {strict : Bool} {properties : List (String × Schema)} {refuse : Bool}
    {levels : Nat} {entry : String × Value} :
    Checker.entry (walkProperties strict properties) refuse levels entry = .clean ↔
      AllowsEntry strict properties refuse levels entry := by
  rw [Checker.entry, Walk.under_eq_clean_iff, Checker.entryValue, lookup_walkProperties,
    AllowsEntry]
  cases properties.lookup entry.1 with
  | some declared => rfl
  | none => simp [Walk.eq_clean_iff]

/-- The walk of a bag is that of the object which the bag is. -/
theorem walkBag_eq_walk (strict : Bool) (schema : Schema) (depth : Nat) (bag : PropertyBag) :
    schema.walkBag strict depth bag = schema.walk strict (depth + 1) (.object bag) := by
  -- an object is not `null`, so a level is taken, and the check is that of the entries
  cases schema <;> rfl

/-- A bag is walked cleanly if no required key is missing and each entry is in order. -/
theorem walkBag_eq_clean_iff {strict : Bool} {properties : List (String × Schema)}
    {required : List String} {additional : Additional} {depth : Nat} {bag : PropertyBag} :
    (object properties required additional).walkBag strict depth bag = .clean ↔
      (∀ key ∈ required, key ∈ Entries.keys bag) ∧
        ∀ entry ∈ bag,
          AllowsEntry strict properties (strict && additional = .reject) depth entry := by
  rw [walkBag, Checker.object, Walk.followedBy_eq_clean_iff, Checker.missing_eq,
    Checker.entries_eq_sequence, Walk.sequence_eq_clean_iff, List.forall_mem_map,
    Walk.eq_clean_iff, Checker.missingFindings_eq_nil_iff]
  simp only [entry_eq_clean_iff, true_and]

end Schema

end ControlProps
