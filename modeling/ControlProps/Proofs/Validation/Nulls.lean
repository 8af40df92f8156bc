import ControlProps.Proofs.Geometry.Coercion
import ControlProps.Proofs.Validation.Bags

/-!
# Entries that are `null`

An entry that is `null` is in order wherever its key is declared, but its key is there: it counts
where keys are required or refused, and in literals. Everywhere else the entry could as well be
absent, whatever the limit and however deeply unions are nested.
-/

namespace ControlProps

namespace Walk

/-- What a walk comes to: nothing if it is given up, else whether nothing was found. -/
def verdict (walk : Walk) : Option Bool :=
  match walk.stop with
  | some _ => none
  | none => some walk.findings.isEmpty

/-- Walks come to the same if they end together and are clean together. -/
theorem verdict_eq_iff {a b : Walk} :
    a.verdict = b.verdict ↔ (a.stop = none ↔ b.stop = none) ∧ (a = .clean ↔ b = .clean) := by
  rw [eq_clean_iff, eq_clean_iff, verdict, verdict]
  cases a.stop with
  | some place => cases b.stop <;> simp
  | none =>
    cases b.stop with
    | some place => simp
    | none => cases a.findings <;> cases b.findings <;> simp

/-- A walk is clean if it comes to that. -/
theorem eq_clean_iff_verdict {walk : Walk} : walk = .clean ↔ walk.verdict = some true := by
  rw [eq_clean_iff, verdict]
  cases walk.stop <;> simp

end Walk

namespace Checker

variable {check : Checker} {checks : List Checker} {levels count matched : Nat} {a b : Value}

/-- Guarded checks of values other than `null` come to the same if the checks below do. -/
theorem guarded_verdict_congr (ha : a.isNull = false) (hb : b.isNull = false)
    (hcheck : ∀ below, (check below a).verdict = (check below b).verdict) :
    (guarded check levels a).verdict = (guarded check levels b).verdict :=
  guarded_rel (fun first second => first.verdict = second.verdict) (ha.trans hb.symm) rfl rfl hcheck

/-- The first branch of a union decides unless it has ended with findings. -/
theorem anyOf_cons_verdict (value : Value) :
    (anyOf count levels value (check :: checks)).verdict =
      match (check levels value).verdict with
      | none => none
      | some true => some true
      | some false => (anyOf count levels value checks).verdict := by
  rw [anyOf, Walk.verdict.eq_1 (check levels value)]
  cases (check levels value).stop with
  | some place => rfl
  | none => cases (check levels value).findings <;> rfl

/-- The first branch of an exclusive union counts if it ends without findings. -/
theorem oneOf_cons_verdict (value : Value) :
    (oneOf count matched levels value (check :: checks)).verdict =
      match (check levels value).verdict with
      | none => none
      | some true => (oneOf count (matched + 1) levels value checks).verdict
      | some false => (oneOf count matched levels value checks).verdict := by
  rw [oneOf, Walk.verdict.eq_1 (check levels value)]
  cases (check levels value).stop with
  | some place => rfl
  | none => cases (check levels value).findings <;> rfl

/-- Unions come to the same for two values if all their branches do. -/
theorem anyOf_verdict_congr
    (hchecks : ∀ check ∈ checks, (check levels a).verdict = (check levels b).verdict) :
    (anyOf count levels a checks).verdict = (anyOf count levels b checks).verdict := by
  induction checks with
  | nil => rfl
  | cons check checks ih =>
    rw [List.forall_mem_cons] at hchecks
    rw [anyOf_cons_verdict, anyOf_cons_verdict, hchecks.1, ih hchecks.2]

/-- Exclusive unions come to the same for two values if all their branches do. -/
theorem oneOf_verdict_congr
    (hchecks : ∀ check ∈ checks, (check levels a).verdict = (check levels b).verdict) :
    (oneOf count matched levels a checks).verdict =
      (oneOf count matched levels b checks).verdict := by
  induction checks generalizing matched with
  | nil => rfl
  | cons check checks ih =>
    rw [List.forall_mem_cons] at hchecks
    rw [oneOf_cons_verdict, oneOf_cons_verdict, hchecks.1, ih hchecks.2, ih hchecks.2]

end Checker

/-- A literal that is no object is equal to no object. -/
theorem Value.looselyEquals_object {literal : Value} (hliteral : literal.object? = none)
    (entries : PropertyBag) : literal.looselyEquals (.object entries) = false := by
  cases literal with
  | object => contradiction
  | _ => rfl

namespace PropertyBag

variable {bag : PropertyBag}

/-- A bag without `null` is all present. -/
theorem present_eq_self (hnone : ∀ key, (key, .null) ∉ bag) : bag.present = bag := by
  refine List.filter_eq_self.mpr fun entry hentry => ?_
  obtain ⟨key, value⟩ := entry
  cases value with
  | null => exact absurd hentry (hnone key)
  | _ => rfl

/-- An entry of a bag is present or `null`. -/
theorem forall_entry_iff {holds : String × Value → Prop} :
    (∀ entry ∈ bag, holds entry) ↔
      (∀ entry ∈ bag.present, holds entry) ∧ ∀ key, (key, .null) ∈ bag → holds (key, .null) := by
  constructor
  · intro h
    exact ⟨fun entry hentry => h entry (PropertyBag.mem_present_iff.mp hentry).1,
      fun key hkey => h _ hkey⟩
  · rintro ⟨hpresent, hnull⟩ ⟨key, value⟩ hentry
    cases value with
    | null => exact hnull key hentry
    | _ => exact hpresent _ (PropertyBag.mem_present_iff.mpr ⟨hentry, rfl⟩)

/-- If no required key is `null`, all belong to the bag if they belong to what is present. -/
theorem forall_mem_keys_present_iff {required : List String}
    (hnull : ∀ key ∈ required, (key, .null) ∉ bag) :
    (∀ key ∈ required, key ∈ Entries.keys bag.present) ↔
      ∀ key ∈ required, key ∈ Entries.keys bag := by
  refine forall₂_congr fun key hkey => ⟨fun hpresent => ?_, fun hmem => ?_⟩
  · obtain ⟨entry, hentry, rfl⟩ := List.mem_map.mp hpresent
    exact List.mem_map_of_mem (PropertyBag.mem_present_iff.mp hentry).1
  · obtain ⟨⟨_, value⟩, hentry, rfl⟩ := List.mem_map.mp hmem
    have hvalue : value.isNull = false := by
      cases value with
      | null => exact absurd hentry (hnull _ hkey)
      | _ => rfl
    exact List.mem_map_of_mem (PropertyBag.mem_present_iff.mpr ⟨hentry, hvalue⟩)

/-- A key of what is present is not `null` as well, since no key is repeated. -/
theorem null_notMem_of_mem_keys_present {key : String} (hkeys : (Entries.keys bag).Nodup)
    (hkey : key ∈ Entries.keys bag.present) : (key, .null) ∉ bag := by
  intro hnull
  obtain ⟨entry, hentry, rfl⟩ := List.mem_map.mp hkey
  obtain ⟨hmem, hpresent⟩ := PropertyBag.mem_present_iff.mp hentry
  have hsame := (Entries.lookup_of_mem hkeys hnull).symm.trans (Entries.lookup_of_mem hkeys hmem)
  rw [← Option.some.inj hsame] at hpresent
  contradiction

end PropertyBag

namespace Schema

variable [PatternEngine] {strict : Bool} {properties : List (String × Schema)}
  {required : List String} {additional : Additional} {refuse : Bool} {depth : Nat}
  {bag : PropertyBag}

/-- An entry that is `null` is in order unless its key is refused. -/
theorem allowsEntry_null_iff {levels : Nat} {key : String} :
    AllowsEntry strict properties refuse levels (key, .null) ↔
      (refuse = true → key ∈ Entries.keys properties) := by
  unfold AllowsEntry
  cases hdeclared : properties.lookup key with
  | some declared =>
    have hkey := Entries.mem_keys_of_lookup hdeclared
    simp [hkey]
  | none =>
    have hkey := Entries.lookup_eq_none_iff_notMem.mp hdeclared
    simp [hkey]

/-- All entries are in order if those that are present are and no other has a refused key. -/
theorem forall_allowsEntry_iff {levels : Nat} :
    (∀ entry ∈ bag, AllowsEntry strict properties refuse levels entry) ↔
      (∀ entry ∈ bag.present, AllowsEntry strict properties refuse levels entry) ∧
        ∀ key, (key, .null) ∈ bag → refuse = true → key ∈ Entries.keys properties := by
  rw [PropertyBag.forall_entry_iff]
  simp only [allowsEntry_null_iff]

/-- A bag is walked cleanly, without a required key being `null`, exactly if what is present is,
without a refused key being `null`. -/
theorem walkBag_eq_clean_iff_present (hkeys : (Entries.keys bag).Nodup) :
    ((object properties required additional).walkBag strict depth bag = .clean ∧
        ∀ key ∈ required, (key, .null) ∉ bag) ↔
      (object properties required additional).walkBag strict depth bag.present = .clean ∧
        ∀ key, (key, .null) ∈ bag → strict = true → additional = .reject →
          key ∈ Entries.keys properties := by
  have hrefused : (strict && additional = .reject) = true ↔
      strict = true ∧ additional = .reject := by simp
  rw [walkBag_eq_clean_iff, walkBag_eq_clean_iff, forall_allowsEntry_iff]
  simp only [hrefused, and_imp]
  constructor
  · rintro ⟨⟨hrequired, hentries, hnulls⟩, hnull⟩
    exact ⟨⟨(PropertyBag.forall_mem_keys_present_iff hnull).mpr hrequired, hentries⟩, hnulls⟩
  · rintro ⟨⟨hrequired, hentries⟩, hnulls⟩
    have hnull : ∀ key ∈ required, (key, .null) ∉ bag := fun key hkey =>
      PropertyBag.null_notMem_of_mem_keys_present hkeys (hrequired key hkey)
    exact ⟨⟨(PropertyBag.forall_mem_keys_present_iff hnull).mp hrequired, hentries, hnulls⟩, hnull⟩

/-- Whether `null` under a key is for a schema as good as no entry under it. -/
def IgnoresNullAt (strict : Bool) (key : String) (schema : Schema) : Prop :=
  match schema with
  | enumeration values => ∀ literal ∈ values, literal.object? = none
  | object properties required additional =>
    key ∉ required ∧ (strict = true → additional = .reject → key ∈ Entries.keys properties)
  | anyOf branches => ∀ branch, ∀ _ : branch ∈ branches, IgnoresNullAt strict key branch
  | oneOf branches => ∀ branch, ∀ _ : branch ∈ branches, IgnoresNullAt strict key branch
  | _ => True
termination_by schema
decreasing_by
  · exact sizeOf_lt_anyOf ‹_›
  · exact sizeOf_lt_oneOf ‹_›

/-- The walk of a bag comes to the same as that of what is present in it. -/
theorem object_verdict_present {levels : Nat}
    (hnulls : ∀ key, (key, .null) ∈ bag → key ∉ required ∧
      (strict = true → additional = .reject → key ∈ Entries.keys properties)) :
    ((object properties required additional).walkBag strict levels bag).verdict =
      ((object properties required additional).walkBag strict levels bag.present).verdict := by
  refine Walk.verdict_eq_iff.mpr ⟨?_, ?_⟩
  · have hnull : ∀ key, (key, .null) ∈ bag → ∀ check,
        (walkProperties strict properties).lookup key = some check →
          (check levels .null).stop = none := by
      intro key _ check hcheck
      obtain ⟨declared, _, rfl⟩ := lookup_walkProperties_eq_some_iff.mp hcheck
      rw [walk_null]
      rfl
    rw [walkBag, walkBag, Checker.object_stop_eq_none_iff, Checker.object_stop_eq_none_iff]
    exact PropertyBag.forall_entry_iff.trans (and_iff_left hnull)
  · have hrequired : ∀ key ∈ required, (key, .null) ∉ bag := fun key hkey hnull =>
      (hnulls key hnull).1 hkey
    have hrefused : ∀ key, (key, .null) ∈ bag → (strict && additional = .reject) = true →
        key ∈ Entries.keys properties := by
      intro key hnull hrefuse
      have hboth : strict = true ∧ additional = .reject := by simpa using hrefuse
      exact (hnulls key hnull).2 hboth.1 hboth.2
    rw [walkBag_eq_clean_iff, walkBag_eq_clean_iff, forall_allowsEntry_iff,
      PropertyBag.forall_mem_keys_present_iff hrequired]
    exact and_congr_right' (and_iff_left hrefused)

/-- An object comes to the same as what is present in it, if its `null` entries are ignored. -/
theorem walk_verdict_present {schema : Schema} {levels : Nat}
    (hnulls : ∀ key, (key, .null) ∈ bag → schema.IgnoresNullAt strict key) :
    (schema.walk strict levels (.object bag)).verdict =
      (schema.walk strict levels (.object bag.present)).verdict := by
  induction schema generalizing levels with
  | enumeration values =>
    simp only [IgnoresNullAt] at hnulls
    by_cases hsome : ∃ key, (key, .null) ∈ bag
    · -- no literal is an object, so neither bag is one of them
      obtain ⟨key, hkey⟩ := hsome
      have hvalues (entries : PropertyBag) :
          values.any (·.looselyEquals (.object entries)) = false := by
        refine List.any_eq_false.mpr fun literal hliteral => ?_
        rw [Value.looselyEquals_object (hnulls key hkey literal hliteral)]
        exact Bool.false_ne_true
      refine Checker.guarded_verdict_congr rfl rfl fun below => ?_
      rw [hvalues, hvalues]
    · rw [PropertyBag.present_eq_self fun key hkey => hsome ⟨key, hkey⟩]
  | object properties required additional =>
    simp only [IgnoresNullAt] at hnulls
    exact Checker.guarded_verdict_congr rfl rfl fun below => object_verdict_present hnulls
  | anyOf branches ih =>
    simp only [IgnoresNullAt] at hnulls
    refine Checker.guarded_verdict_congr rfl rfl fun below => ?_
    rw [walkBranches_eq_map]
    refine Checker.anyOf_verdict_congr (List.forall_mem_map.mpr fun branch hbranch => ?_)
    exact ih branch hbranch fun key hkey => hnulls key hkey branch hbranch
  | oneOf branches ih =>
    simp only [IgnoresNullAt] at hnulls
    refine Checker.guarded_verdict_congr rfl rfl fun below => ?_
    rw [walkBranches_eq_map]
    refine Checker.oneOf_verdict_congr (List.forall_mem_map.mpr fun branch hbranch => ?_)
    exact ih branch hbranch fun key hkey => hnulls key hkey branch hbranch
  | _ =>
    -- of an object these schemas look at the kind only
    exact Checker.guarded_verdict_congr rfl rfl fun below => rfl

end Schema

end ControlProps
