import ControlProps.Engine.Patterns
import ControlProps.Proofs.Validation.Depth
import ControlProps.Proofs.Value.Shapes

/-!
# The order of keys and branches

In which order the keys of an object come, properties and required keys are declared or branches are
tried decides only in which order things are found. A union may be decided by another branch then,
and never come to one that was tried before; but as long as both walks end, it is decided alike.
-/

namespace ControlProps

namespace Schema

variable [PatternEngine]

/-- The same schema, except that the branches of its unions, its declared properties and its
required keys, at any depth, may be in another order. -/
inductive Reordered : Schema → Schema → Prop
  | any : Reordered any any
  | primitive (kind : Kind) : Reordered (primitive kind) (primitive kind)
  | enumeration (values : List Value) : Reordered (enumeration values) (enumeration values)
  | pattern (form : Pattern) : Reordered (pattern form) (pattern form)
  | range (min max : Option Binary64) (integer : Bool) :
      Reordered (range min max integer) (range min max integer)
  | array {a b : Schema} (hitems : Reordered a b) (least most : Option UInt64) :
      Reordered (array a least most) (array b least most)
  | object {as bs : List (String × Schema)} {required required' : List String}
      (hkeys : (Entries.keys as).Perm (Entries.keys bs))
      (hproperties : ∀ {key a b}, (key, a) ∈ as → (key, b) ∈ bs → Reordered a b)
      (hrequired : required.Perm required') (additional : Additional) :
      Reordered (object as required additional) (object bs required' additional)
  | anyOf {as arranged bs : List Schema} (horder : as.Perm arranged)
      (hlength : arranged.length = bs.length)
      (hbranches : ∀ {a b}, (a, b) ∈ arranged.zip bs → Reordered a b) :
      Reordered (anyOf as) (anyOf bs)
  | oneOf {as arranged bs : List Schema} (horder : as.Perm arranged)
      (hlength : arranged.length = bs.length)
      (hbranches : ∀ {a b}, (a, b) ∈ arranged.zip bs → Reordered a b) :
      Reordered (oneOf as) (oneOf bs)

end Schema

namespace Walk

/-- If both walks end, they find the same, in some order. -/
def FindsSame (a b : Walk) : Prop :=
  a.stop = none → b.stop = none → a.findings.Perm b.findings

namespace FindsSame

variable {a a' b b' : Walk}

theorem refl (walk : Walk) : walk.FindsSame walk := fun _ _ => .refl _

theorem under (h : a.FindsSame b) (step : Step) : (a.under step).FindsSame (b.under step) := by
  intro ha hb
  rw [under_stop, Option.map_eq_none_iff] at ha hb
  exact (h ha hb).map _

theorem followedBy (h : a.FindsSame b) (h' : a'.FindsSame b') :
    (a.followedBy a').FindsSame (b.followedBy b') := by
  intro hended hended'
  obtain ⟨ha, ha'⟩ := followedBy_stop_eq_none_iff.mp hended
  obtain ⟨hb, hb'⟩ := followedBy_stop_eq_none_iff.mp hended'
  rw [followedBy_of_stop_eq_none ha, followedBy_of_stop_eq_none hb]
  exact (h ha hb).append (h' ha' hb')

/-- Sequences of paired walks. -/
theorem sequence {walks others : List Walk} (h : List.Forall₂ FindsSame walks others) :
    (sequence walks).FindsSame (sequence others) := by
  induction h with
  | nil => exact refl _
  | cons hfirst _ ih => exact hfirst.followedBy ih

/-- The members of a sequence may be walked in another order. -/
theorem sequence_of_perm {walks arranged : List Walk} (horder : walks.Perm arranged)
    (h : (Walk.sequence arranged).FindsSame b) : (Walk.sequence walks).FindsSame b := by
  intro ha hb
  have hmembers := sequence_stop_eq_none_iff.mp ha
  have harranged : (Walk.sequence arranged).stop = none :=
    sequence_stop_eq_none_iff.mpr fun walk hwalk => hmembers walk (horder.mem_iff.mpr hwalk)
  have hperm := h harranged hb
  rw [sequence_findings harranged] at hperm
  rw [sequence_findings ha]
  exact (horder.flatMap_right _).trans hperm

/-- Walks that end find something only together. -/
theorem isEmpty_eq (h : a.FindsSame b) (ha : a.stop = none) (hb : b.stop = none) :
    a.findings.isEmpty = b.findings.isEmpty :=
  (h ha hb).isEmpty_eq

end FindsSame

end Walk

namespace Checker

open Walk (FindsSame)

variable {check check' : Checker} {levels : Nat} {a b : Value}

/-- No walk is done of `null`, and otherwise both have the same levels left. -/
theorem findsSame_guarded (hnull : a.isNull = b.isNull)
    (hcheck : ∀ below, (check below a).FindsSame (check' below b)) :
    (guarded check levels a).FindsSame (guarded check' levels b) :=
  guarded_rel FindsSame hnull (.refl _) (.refl _) hcheck

/-- Items that are walked alike one by one. -/
theorem findsSame_items {as bs : List Value} {index : Nat}
    (h : List.Forall₂ (fun a b => (check levels a).FindsSame (check' levels b)) as bs) :
    (items check levels index as).FindsSame (items check' levels index bs) := by
  induction h generalizing index with
  | nil => exact .refl _
  | cons hfirst _ ih => exact (hfirst.under _).followedBy ih

/-- Arrays whose items are walked alike one by one. -/
theorem findsSame_array {as bs : List Value} {least most : Option UInt64}
    (h : List.Forall₂ (fun a b => (check levels a).FindsSame (check' levels b)) as bs) :
    (array check least most levels as).FindsSame (array check' least most levels bs) := by
  rw [array_eq_followedBy, array_eq_followedBy, h.length_eq]
  exact (FindsSame.refl _).followedBy (findsSame_items h)

/-- The same keys are missing where the same ones are required and present. -/
theorem findsSame_missing {required required' : List String} {as bs : PropertyBag}
    (hrequired : required.Perm required') (hkeys : (Entries.keys as).Perm (Entries.keys bs)) :
    (missing required as).FindsSame (missing required' bs) := by
  have hpresent (key : String) : Entries.hasKey key as = Entries.hasKey key bs := by
    rw [Entries.hasKey, Entries.hasKey, hkeys.contains_eq]
  intro _ _
  rw [missing_eq, missing_eq]
  simp only [missingFindings, hpresent]
  exact (hrequired.filter _).map _

/-- Entries of the same keys that are walked alike. -/
theorem findsSame_entries {properties properties' : List (String × Checker)} {refuse : Bool}
    {as bs : PropertyBag} (hkeys : (Entries.keys as).Perm (Entries.keys bs))
    (hentries : ∀ {key a b}, (key, a) ∈ as → (key, b) ∈ bs →
      (entryValue properties refuse levels (key, a)).FindsSame
        (entryValue properties' refuse levels (key, b))) :
    (entries properties refuse levels as).FindsSame (entries properties' refuse levels bs) := by
  have harranged : ∃ arranged, as.Perm arranged ∧ List.Forall₂ (fun a b =>
      (entry properties refuse levels a).FindsSame (entry properties' refuse levels b))
        arranged bs :=
    Entries.exists_perm_forall₂ hkeys fun ha hb => (hentries ha hb).under _
  obtain ⟨arranged, horder, hpairs⟩ := harranged
  rw [entries_eq_sequence, entries_eq_sequence]
  refine FindsSame.sequence_of_perm (horder.map _) (FindsSame.sequence ?_)
  rw [List.forall₂_map_left_iff, List.forall₂_map_right_iff]
  exact hpairs

/-- Unions of branches that are walked alike are decided alike: if one branch matches on one side,
its partner does not end with findings on the other. -/
theorem findsSame_anyOf {count : Nat} {checks arranged checks' : List Checker}
    (horder : checks.Perm arranged)
    (h : List.Forall₂ (fun check check' => (check levels a).FindsSame (check' levels b))
      arranged checks') :
    (anyOf count levels a checks).FindsSame (anyOf count levels b checks') := by
  intro ha hb
  rcases anyOf_cases ha with ⟨hclean, check, hcheck, hended, hnone⟩ | ⟨hproblem, hall⟩
  · rcases anyOf_cases hb with ⟨hclean', _⟩ | ⟨_, hall'⟩
    · rw [hclean, hclean']
    · obtain ⟨partner, hpartner, hsame⟩ :=
        exists_mem_right_of_forall₂ h (horder.mem_iff.mp hcheck)
      obtain ⟨hended', hsome⟩ := hall' partner hpartner
      have hperm := hsame hended hended'
      rw [hnone] at hperm
      exact absurd hperm.nil_eq.symm hsome
  · rcases anyOf_cases hb with ⟨_, check, hcheck, hended, hnone⟩ | ⟨hproblem', _⟩
    · obtain ⟨partner, hpartner, hsame⟩ := exists_mem_left_of_forall₂ h hcheck
      obtain ⟨hended', hsome⟩ := hall partner (horder.mem_iff.mpr hpartner)
      have hperm := hsame hended' hended
      rw [hnone] at hperm
      exact absurd hperm.eq_nil hsome
    · rw [hproblem, hproblem']

/-- Exclusive unions of branches that are walked alike have as many that match. -/
theorem findsSame_oneOf {count : Nat} {checks arranged checks' : List Checker}
    (horder : checks.Perm arranged)
    (h : List.Forall₂ (fun check check' => (check levels a).FindsSame (check' levels b))
      arranged checks') :
    (oneOf count 0 levels a checks).FindsSame (oneOf count 0 levels b checks') := by
  intro ha hb
  have hended := stop_of_oneOf_stop ha
  have hended' := stop_of_oneOf_stop hb
  obtain ⟨hlength, hsame⟩ := List.forall₂_iff_zip.mp h
  have hpairs : List.Forall₂ (fun check check' => (check levels a).findings.isEmpty =
      (check' levels b).findings.isEmpty) arranged checks' := by
    refine List.forall₂_iff_zip.mpr ⟨hlength, fun {check check'} hpair => ?_⟩
    obtain ⟨hcheck, hcheck'⟩ := List.of_mem_zip hpair
    exact (hsame hpair).isEmpty_eq (hended check (horder.mem_iff.mpr hcheck))
      (hended' check' hcheck')
  rw [oneOf_eq_exclusive hended, oneOf_eq_exclusive hended', horder.countP_eq,
    countP_eq_of_forall₂ hpairs]

end Checker

namespace Schema

section

variable {strict : Bool} {levels : Nat} {a b : Value}

/-- Reordered values are `null` together. -/
theorem isNull_eq_of_reordered (hvalue : a.Reordered b) : a.isNull = b.isNull :=
  hvalue.isNull_eq fun _ _ heq => congrArg Value.isNull heq

/-- A rule that does not look into arrays and objects finds the same in reordered values. -/
theorem findsSame_of_leaves (rule : Value → Walk)
    (harray : ∀ as bs, rule (.array as) = rule (.array bs))
    (hobject : ∀ as bs, rule (.object as) = rule (.object bs)) (hvalue : a.Reordered b) :
    (rule a).FindsSame (rule b) := by
  cases hvalue with
  | leaf _ _ heq =>
    rw [heq]
    exact .refl _
  | @array as bs =>
    rw [harray as bs]
    exact .refl _
  | @object as bs =>
    rw [hobject as bs]
    exact .refl _

variable [PatternEngine]

/-- Whatever is declared for the key of an entry, reordered values of it are walked alike. -/
theorem findsSame_entryValue {as bs : List (String × Schema)} {refuse : Bool} {key : String}
    (hkeys : (Entries.keys as).Perm (Entries.keys bs))
    (hproperties : ∀ {declared declared'}, (key, declared) ∈ as → (key, declared') ∈ bs →
      (declared.walk strict levels a).FindsSame (declared'.walk strict levels b)) :
    (Checker.entryValue (walkProperties strict as) refuse levels (key, a)).FindsSame
      (Checker.entryValue (walkProperties strict bs) refuse levels (key, b)) := by
  unfold Checker.entryValue
  rw [lookup_walkProperties, lookup_walkProperties]
  rcases Entries.lookup_cases_of_keys hkeys key with
    ⟨hnone, hnone'⟩ | ⟨declared, declared', hdeclared, hdeclared'⟩
  · rw [hnone, hnone']
    exact .refl _
  · rw [hdeclared, hdeclared']
    exact hproperties (Entries.mem_of_lookup hdeclared) (Entries.mem_of_lookup hdeclared')

/-- Schemas and values that differ in order only: walks that end find the same, in some order. -/
theorem findsSame_walk {schema schema' : Schema} (hschema : schema.Reordered schema')
    (hvalue : a.Reordered b) :
    (schema.walk strict levels a).FindsSame (schema'.walk strict levels b) := by
  induction hschema generalizing levels a b with
  | any => exact Checker.findsSame_guarded (isNull_eq_of_reordered hvalue) fun _ => .refl _
  | primitive kind =>
    refine Checker.findsSame_guarded (isNull_eq_of_reordered hvalue) fun _ => ?_
    exact findsSame_of_leaves
      (fun value => Walk.problemIf (!kind.admits value) (.wrongKind kind value.kind))
      (fun _ _ => rfl) (fun _ _ => rfl) hvalue
  | enumeration values =>
    refine Checker.findsSame_guarded (isNull_eq_of_reordered hvalue) fun _ => ?_
    have hliteral := Value.looselyEquals_eq_of_alike (hvalue.mono fun _ _ => .inl)
    simp only [hliteral]
    exact .refl _
  | pattern form =>
    refine Checker.findsSame_guarded (isNull_eq_of_reordered hvalue) fun _ => ?_
    exact findsSame_of_leaves (walkPattern form) (fun _ _ => rfl) (fun _ _ => rfl) hvalue
  | range min max integer =>
    refine Checker.findsSame_guarded (isNull_eq_of_reordered hvalue) fun _ => ?_
    exact findsSame_of_leaves (walkRange min max integer) (fun _ _ => rfl) (fun _ _ => rfl) hvalue
  | array _ least most ih =>
    refine Checker.findsSame_guarded (isNull_eq_of_reordered hvalue) fun below => ?_
    cases hvalue with
    | @leaf a b ha _ heq =>
      subst heq
      cases a with
      | array => contradiction
      | _ => exact .refl _
    | array hlength hitems =>
      refine Checker.findsSame_array (List.forall₂_iff_zip.mpr ⟨hlength, fun hpair => ?_⟩)
      exact ih (hitems hpair)
    | object => exact .refl _
  | object hkeys _ hrequired additional ih =>
    refine Checker.findsSame_guarded (isNull_eq_of_reordered hvalue) fun below => ?_
    cases hvalue with
    | @leaf a b ha _ heq =>
      subst heq
      cases a with
      | object => contradiction
      | _ => exact .refl _
    | array => exact .refl _
    | object hkeys' hentries =>
      refine (Checker.findsSame_missing hrequired hkeys').followedBy ?_
      refine Checker.findsSame_entries hkeys' fun hfirst hsecond => ?_
      exact findsSame_entryValue hkeys fun hdeclared hdeclared' =>
        ih hdeclared hdeclared' (hentries hfirst hsecond)
  | anyOf horder hlength _ ih =>
    refine Checker.findsSame_guarded (isNull_eq_of_reordered hvalue) fun below => ?_
    rw [walkBranches_eq_map, walkBranches_eq_map, horder.length_eq, hlength]
    refine Checker.findsSame_anyOf (horder.map _) ?_
    rw [List.forall₂_map_left_iff, List.forall₂_map_right_iff]
    exact List.forall₂_iff_zip.mpr ⟨hlength, fun hpair => ih hpair hvalue⟩
  | oneOf horder hlength _ ih =>
    refine Checker.findsSame_guarded (isNull_eq_of_reordered hvalue) fun below => ?_
    rw [walkBranches_eq_map, walkBranches_eq_map, horder.length_eq, hlength]
    refine Checker.findsSame_oneOf (horder.map _) ?_
    rw [List.forall₂_map_left_iff, List.forall₂_map_right_iff]
    exact List.forall₂_iff_zip.mpr ⟨hlength, fun hpair => ih hpair hvalue⟩

/-- **Order does not matter.** Where the keys of a value, or the branches, properties and required
keys of a schema, come in another order, checks that end give the same records, in some order. -/
theorem records_ignore_order {schema schema' : Schema} {value value' : Value}
    {options : ValidationOptions} {root : String} {records records' : List Record}
    (hschema : schema.Reordered schema') (hvalue : value.Reordered value')
    (hok : schema.check options root value = .ok records)
    (hok' : schema'.check options root value' = .ok records') :
    records.Perm records' ∧ (records = [] ↔ records' = []) := by
  obtain ⟨hended, rfl⟩ := Walk.check_eq_ok_iff.mp hok
  obtain ⟨hended', rfl⟩ := Walk.check_eq_ok_iff.mp hok'
  have hfindings : (schema.walkValue options value).findings.Perm
      (schema'.walkValue options value').findings :=
    findsSame_walk hschema hvalue hended hended'
  have hrecords := hfindings.map (Finding.record root)
  refine ⟨hrecords, ?_⟩
  rw [← List.isEmpty_iff, ← List.isEmpty_iff, hrecords.isEmpty_eq]

end

/-- A control with a choice of sizes, asked in two orders about a bag that comes in two orders. -/
theorem records_of_reordered_bag :
    let sizes := [boolean, enumeration [.object [("w", .string "fit"), ("h", .null)]]]
    let schema := object [("id", integer), ("size", anyOf sizes)] ["id", "name", "kind"] .reject
    let schema' :=
      object [("size", anyOf sizes.reverse), ("id", integer)] ["kind", "id", "name"] .reject
    let size := [("h", Value.null), ("w", .string "fit")]
    let value := Value.object [("size", .object size), ("id", .bool true), ("more", .null)]
    let value' := Value.object [("more", .null), ("size", .object size.reverse), ("id", .bool true)]
    let records : List Record := [⟨"root.name", .required⟩, ⟨"root.kind", .required⟩,
      ⟨"root.id", .wrongKind .integer .boolean⟩, ⟨"root.more", .notAllowed⟩]
    let records' : List Record := [⟨"root.kind", .required⟩, ⟨"root.name", .required⟩,
      ⟨"root.more", .notAllowed⟩, ⟨"root.id", .wrongKind .integer .boolean⟩]
    schema.Reordered schema' ∧ value.Reordered value' ∧
      schema.check ⟨true, 2⟩ "root" value = .ok records ∧
      schema'.check ⟨true, 2⟩ "root" value' = .ok records' ∧ records.Perm records' := by
  intro sizes schema schema' size value value' records records'
  have hunion : (anyOf sizes).Reordered (anyOf sizes.reverse) := by
    refine .anyOf (List.reverse_perm sizes).symm rfl fun {a b} hpair => ?_
    simp only [sizes, List.reverse_cons, List.reverse_nil, List.nil_append, List.cons_append,
      List.zip_cons_cons, List.zip_nil_right, List.mem_cons, List.not_mem_nil, or_false,
      Prod.mk.injEq] at hpair
    rcases hpair with ⟨rfl, rfl⟩ | ⟨rfl, rfl⟩
    · exact .enumeration _
    · exact .primitive .boolean
  have hschema : schema.Reordered schema' := by
    refine .object (by decide) (fun {key a b} ha hb => ?_) (by decide) _
    simp only [List.mem_cons, List.not_mem_nil, or_false, Prod.mk.injEq] at ha hb
    rcases ha with ⟨rfl, rfl⟩ | ⟨rfl, rfl⟩
    · obtain rfl : b = integer := by simpa using hb
      exact .primitive .integer
    · obtain rfl : b = anyOf sizes.reverse := by simpa using hb
      exact hunion
  have hsize : (Value.object size).Reordered (.object size.reverse) := by
    refine Value.reordered_of_perm ?_ (List.reverse_perm size).symm
    simp [size, Value.DistinctKeys, Value.HasDistinctKeys, Entries.keys]
  have hvalue : value.Reordered value' := by
    refine .object (by decide) fun {key a b} ha hb => ?_
    simp only [List.mem_cons, List.not_mem_nil, or_false, Prod.mk.injEq] at ha hb
    rcases ha with ⟨rfl, rfl⟩ | ⟨rfl, rfl⟩ | ⟨rfl, rfl⟩
    · obtain rfl : b = .object size.reverse := by simpa using hb
      exact hsize
    · obtain rfl : b = .bool true := by simpa using hb
      exact .leaf trivial trivial rfl
    · obtain rfl : b = .null := by simpa using hb
      exact .leaf trivial trivial rfl
  have hok : schema.check ⟨true, 2⟩ "root" value = .ok records := rfl
  have hok' : schema'.check ⟨true, 2⟩ "root" value' = .ok records' := rfl
  exact ⟨hschema, hvalue, hok, hok', (records_ignore_order hschema hvalue hok hok').1⟩

end Schema

end ControlProps
