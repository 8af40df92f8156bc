import ControlProps.Engine.Patterns
import ControlProps.Proofs.Validation.Places
import Mathlib.Data.List.Nodup

/-!
# Walks of parts

A part that is reached through items and declared properties is walked as it would be alone: what is
found below its place is what a check of the part gives, neither more nor less, and stands in one
piece among the findings of the whole.
-/

namespace ControlProps

namespace Schema

variable [PatternEngine]

/-- The steps lead through items and declared properties, but into no union, from a schema and a
value to a part of the value and the schema for it. -/
inductive Reaches : Schema → Value → List Step → Schema → Value → Prop
  | here {schema : Schema} {value : Value} : Reaches schema value [] schema value
  | item {items target : Schema} {least most : Option UInt64} {values : List Value} {index : Nat}
      {child part : Value} {place : List Step} (hitem : values[index]? = some child)
      (hreaches : Reaches items child place target part) :
      Reaches (.array items least most) (.array values) (.index index :: place) target part
  | property {properties : List (String × Schema)} {required : List String}
      {additional : Additional} {entries : List (String × Value)} {key : String}
      {declared target : Schema} {child part : Value} {place : List Step}
      (hentry : (key, child) ∈ entries) (hdeclared : properties.lookup key = some declared)
      (hreaches : Reaches declared child place target part) :
      Reaches (.object properties required additional) (.object entries) (.key key :: place)
        target part

/-- What is reached is a part of the value at the place. -/
theorem Reaches.hasPartAt {schema target : Schema} {value part : Value} {place : List Step}
    (hreaches : Reaches schema value place target part) : value.HasPartAt place part := by
  induction hreaches with
  | here => exact .here
  | item hitem _ ih => exact .item hitem ih
  | property hentry _ _ ih => exact .entry hentry ih

end Schema

/-- The findings of a part stand in one piece among others, which lie elsewhere. -/
def Finding.SplitAt (place : List Step) (inner findings : List Finding) : Prop :=
  ∃ before after, findings = before ++ inner.map (.below place) ++ after ∧
    ∀ finding ∈ before ++ after, ¬place <+: finding.steps

/-- What a walk found at a place and below it. -/
def Walk.foundBelow (walk : Walk) (place : List Step) : List Finding :=
  walk.findings.filter fun finding => place.isPrefixOf finding.steps

namespace Finding.SplitAt

/-- The piece of a place is what was found there and below it. -/
theorem foundBelow_eq {place : List Step} {inner : List Finding} {walk : Walk}
    (hsplit : SplitAt place inner walk.findings) :
    walk.foundBelow place = inner.map (.below place) := by
  obtain ⟨before, after, hfindings, houtside⟩ := hsplit
  have hnone : ∀ part : List Finding, (∀ finding ∈ part, finding ∈ before ++ after) →
      (part.filter fun finding => place.isPrefixOf finding.steps) = [] := by
    intro part hpart
    refine List.filter_eq_nil_iff.mpr fun finding hmem => ?_
    rw [List.isPrefixOf_iff_prefix]
    exact houtside finding (hpart finding hmem)
  have hall : ((inner.map (Finding.below place)).filter fun finding =>
      place.isPrefixOf finding.steps) = inner.map (.below place) := by
    refine List.filter_eq_self.mpr fun finding hmem => ?_
    obtain ⟨_, _, rfl⟩ := List.mem_map.mp hmem
    exact List.isPrefixOf_iff_prefix.mpr (List.prefix_append _ _)
  rw [Walk.foundBelow, hfindings, List.filter_append, List.filter_append, hall,
    hnone before fun _ => List.mem_append_left _, hnone after fun _ => List.mem_append_right _]
  simp

/-- The findings of the whole are split at the whole. -/
theorem refl (findings : List Finding) : SplitAt [] findings findings :=
  ⟨[], [], by simp, by simp⟩

/-- A list that is split at a place is still split there as one of several, if the others begin with
other steps. -/
theorem step {α : Type} {place : List Step} {inner own : List Finding} {list : List α} {a : α}
    (head : α → Step) (found : α → List Finding) (hsplit : SplitAt place inner (found a))
    (hown : ∀ finding ∈ own, finding.steps.head? ≠ some (head a)) (ha : a ∈ list)
    (hheads : (list.map head).Nodup) :
    SplitAt (head a :: place) inner
      (own ++ list.flatMap fun b => (found b).map (.under (head b))) := by
  obtain ⟨before, after, hfound, houtside⟩ := hsplit
  obtain ⟨front, back, rfl⟩ := List.append_of_mem ha
  let others (part : List α) := part.flatMap fun b =>
    (found b).map (Finding.under (head b))
  have hothers : ∀ part : List α, (∀ b ∈ part, head b ≠ head a) →
      ∀ finding ∈ others part, ¬head a :: place <+: finding.steps := by
    intro part hpart finding hfinding hprefix
    obtain ⟨b, hb, hmem⟩ := List.mem_flatMap.mp hfinding
    obtain ⟨_, _, rfl⟩ := List.mem_map.mp hmem
    exact hpart b hb (List.cons_prefix_cons.mp hprefix).1.symm
  rw [List.map_append, List.map_cons, List.nodup_middle, List.nodup_cons,
    ← List.map_append] at hheads
  have hne : ∀ b ∈ front ++ back, head b ≠ head a :=
    fun b hb heq => hheads.1 (heq ▸ List.mem_map_of_mem hb)
  refine ⟨own ++ others front ++ before.map (.under (head a)),
    after.map (.under (head a)) ++ others back, ?_, fun finding hfinding => ?_⟩
  · simp [others, hfound, Finding.under, Finding.below]
  · have hinside : ∀ finding ∈ (before ++ after).map (Finding.under (head a)),
        ¬head a :: place <+: finding.steps := by
      intro finding hfinding hprefix
      obtain ⟨outer, houter, rfl⟩ := List.mem_map.mp hfinding
      exact houtside outer houter (List.cons_prefix_cons.mp hprefix).2
    simp only [List.mem_append] at hfinding
    rcases hfinding with ((hmem | hmem) | hmem) | (hmem | hmem)
    · intro hprefix
      obtain ⟨rest, hrest⟩ := hprefix
      exact hown finding hmem (by simp [← hrest])
    · exact hothers front (fun b hb => hne b (List.mem_append_left _ hb)) finding hmem
    · exact hinside finding (by rw [List.map_append]; exact List.mem_append_left _ hmem)
    · exact hinside finding (by rw [List.map_append]; exact List.mem_append_right _ hmem)
    · exact hothers back (fun b hb => hne b (List.mem_append_right _ hb)) finding hmem

end Finding.SplitAt

namespace Checker

/-- What is found about the number of items lies at the array itself. -/
theorem steps_of_mem_countFindings {least most : Option UInt64} {found : Nat} {finding : Finding}
    (hfinding : finding ∈ countFindings least most found) : finding.steps = [] := by
  rcases List.mem_append.mp hfinding with hmem | hmem <;>
    obtain ⟨_, _, rfl⟩ := List.mem_map.mp hmem <;> rfl

/-- A missing key lies one step below the object, and the object lacks it. -/
theorem exists_key_of_mem_missingFindings {required : List String} {bag : PropertyBag}
    {finding : Finding} (hfinding : finding ∈ missingFindings required bag) :
    ∃ key, finding.steps = [.key key] ∧ key ∈ required ∧ key ∉ Entries.keys bag := by
  obtain ⟨key, hkey, rfl⟩ := List.mem_map.mp hfinding
  obtain ⟨hrequired, habsent⟩ := List.mem_filter.mp hkey
  exact ⟨key, rfl, hrequired, by simpa [Entries.hasKey] using habsent⟩

/-- What is found in an item stands in one piece among what is found in the array. -/
theorem array_splitAt {check : Checker} {least most : Option UInt64} {levels index : Nat}
    {values : List Value} {child : Value} {place : List Step} {inner : List Finding}
    (hstop : (array check least most levels values).stop = none)
    (hitem : values[index]? = some child)
    (hsplit : Finding.SplitAt place inner (check levels child).findings) :
    Finding.SplitAt (.index index :: place) inner (array check least most levels values).findings
    := by
  have hcount : ∀ finding ∈ countFindings least most values.length,
      finding.steps.head? ≠ some (.index index) := by
    intro finding hfinding
    simp [steps_of_mem_countFindings hfinding]
  rw [array_findings hstop]
  exact hsplit.step (fun item => Step.index item.2) (fun item => (check levels item.1).findings)
    hcount (List.mk_mem_zipIdx_iff_getElem?.mpr hitem) (Step.nodup_indices values)

/-- What is found in an entry stands in one piece among what is found in the object. -/
theorem object_splitAt {properties : List (String × Checker)} {required : List String}
    {refuse : Bool} {levels : Nat} {bag : PropertyBag} {key : String} {child : Value}
    {check : Checker} {place : List Step} {inner : List Finding}
    (hstop : (object properties required refuse levels bag).stop = none)
    (hkeys : (Entries.keys bag).Nodup) (hentry : (key, child) ∈ bag)
    (hcheck : properties.lookup key = some check)
    (hsplit : Finding.SplitAt place inner (check levels child).findings) :
    Finding.SplitAt (.key key :: place) inner
      (object properties required refuse levels bag).findings := by
  have hmissing : ∀ finding ∈ missingFindings required bag,
      finding.steps.head? ≠ some (.key key) := by
    intro finding hfinding hhead
    obtain ⟨name, hsteps, _, habsent⟩ := exists_key_of_mem_missingFindings hfinding
    obtain rfl : name = key := by simpa [hsteps] using hhead
    exact habsent (List.mem_map_of_mem hentry)
  have hfound : (entryValue properties refuse levels (key, child)).findings =
      (check levels child).findings := by
    simp [entryValue, hcheck]
  rw [object_findings hstop]
  exact Finding.SplitAt.step (fun entry => Step.key entry.1)
    (fun entry => (entryValue properties refuse levels entry).findings) (hfound ▸ hsplit)
    hmissing hentry (Step.nodup_keys hkeys)

end Checker

namespace Schema

section

variable [PatternEngine]

/-- A walk of an array that ends has walked its items with one level less. -/
theorem exists_level_of_walk_array {strict : Bool} {items : Schema} {least most : Option UInt64}
    {levels : Nat} {values : List Value}
    (hstop : ((array items least most).walk strict levels (.array values)).stop = none) :
    ∃ below, levels = below + 1 ∧ (array items least most).walk strict levels (.array values) =
      Checker.array (items.walk strict) least most below values :=
  Checker.exists_level_of_stop hstop Value.noConfusion

/-- A walk of an object that ends has walked its entries with one level less. -/
theorem exists_level_of_walk_object {strict : Bool} {properties : List (String × Schema)}
    {required : List String} {additional : Additional} {levels : Nat}
    {entries : List (String × Value)}
    (hstop : ((object properties required additional).walk strict levels (.object entries)).stop =
      none) :
    ∃ below, levels = below + 1 ∧
      (object properties required additional).walk strict levels (.object entries) =
        Checker.object (walkProperties strict properties) required
          (strict && additional = .reject) below entries :=
  Checker.exists_level_of_stop hstop Value.noConfusion

/-- A walk that ends has walked each part that is reached, and what it found there stands in one
piece. -/
theorem Reaches.splitAt {schema target : Schema} {value part : Value} {place : List Step}
    (hreaches : Reaches schema value place target part) (hdistinct : value.DistinctKeys)
    {strict : Bool} {levels : Nat} (hstop : (schema.walk strict levels value).stop = none) :
    ∃ below ≤ levels, (target.walk strict below part).stop = none ∧
      Finding.SplitAt place (target.walk strict below part).findings
        (schema.walk strict levels value).findings := by
  induction hreaches generalizing levels with
  | here => exact ⟨levels, Nat.le_refl levels, hstop, .refl _⟩
  | item hitem _ ih =>
    obtain ⟨levels, rfl, hwalk⟩ := exists_level_of_walk_array hstop
    rw [hwalk] at hstop ⊢
    have hmem := List.mem_of_getElem? hitem
    have hchild := Checker.array_stop_eq_none_iff.mp hstop _ hmem
    obtain ⟨below, hle, hpart, hsplit⟩ := ih (hdistinct.item hmem) hchild
    exact ⟨below, Nat.le_succ_of_le hle, hpart, Checker.array_splitAt hstop hitem hsplit⟩
  | property hentry hdeclared _ ih =>
    obtain ⟨levels, rfl, hwalk⟩ := exists_level_of_walk_object hstop
    rw [hwalk] at hstop ⊢
    have hcheck := lookup_walkProperties_of_declared strict hdeclared
    have hchild := Checker.object_stop_eq_none_iff.mp hstop _ hentry _ hcheck
    obtain ⟨below, hle, hpart, hsplit⟩ := ih (hdistinct.entry hentry) hchild
    exact ⟨below, Nat.le_succ_of_le hle, hpart,
      Checker.object_splitAt hstop hdistinct.self hentry hcheck hsplit⟩

/-- Steps lead to a part of the value, or to a key that an object in it must have and lacks. -/
def Locates (schema : Schema) (value : Value) (steps : List Step) : Prop :=
  (∃ part, value.HasPartAt steps part) ∨
    ∃ place key properties required additional entries, steps = place ++ [.key key] ∧
      Reaches schema value place (.object properties required additional) (.object entries) ∧
      key ∈ required ∧ key ∉ Entries.keys entries

/-- What is located within a part that one step leads to is located within the whole. -/
theorem Locates.step {schema inner : Schema} {value child : Value} {step : Step}
    {steps : List Step} (h : inner.Locates child steps)
    (hpart : ∀ place part, child.HasPartAt place part → value.HasPartAt (step :: place) part)
    (hreaches : ∀ place target part, Reaches inner child place target part →
      Reaches schema value (step :: place) target part) :
    schema.Locates value (step :: steps) := by
  rcases h with ⟨part, h⟩ | ⟨place, key, properties, required, additional, entries, rfl, h, hkey⟩
  · exact .inl ⟨part, hpart steps part h⟩
  · exact .inr ⟨step :: place, key, properties, required, additional, entries, rfl,
      hreaches place _ _ h, hkey⟩

/-- What is wrong with a value itself lies at the value or at a key that it must have and lacks. -/
theorem locates_of_mem_ownFindings {strict : Bool} {schema : Schema} {value : Value}
    {finding : Finding} (hfinding : finding ∈ schema.ownFindings strict value) :
    schema.Locates value finding.steps := by
  suffices h : finding.steps = [] ∨ ∃ properties required additional entries key,
      schema = .object properties required additional ∧ value = .object entries ∧
        key ∈ required ∧ key ∉ Entries.keys entries ∧ finding.steps = [.key key] by
    rcases h with hsteps | ⟨properties, required, additional, entries, key, rfl, rfl, h⟩
    · exact .inl ⟨value, hsteps ▸ .here⟩
    · exact .inr ⟨[], key, properties, required, additional, entries, h.2.2, .here, h.1, h.2.1⟩
  unfold ownFindings at hfinding
  cases hnull : value.isNull with
  | true => simp [hnull] at hfinding
  | false =>
    simp only [hnull, Bool.false_eq_true, if_false] at hfinding
    cases schema with
    | any => simp at hfinding
    | primitive kind =>
      left
      split at hfinding <;> simp_all
    | enumeration values =>
      left
      split at hfinding <;> simp_all
    | pattern form =>
      exact .inl ((walkPattern_isRule form value).steps_eq_nil hfinding)
    | range min max integer =>
      exact .inl ((walkRange_isRule min max integer value).steps_eq_nil hfinding)
    | array items least most =>
      left
      cases value with
      | array values => exact Checker.steps_of_mem_countFindings hfinding
      | _ => simp_all
    | object properties required additional =>
      cases value with
      | object entries =>
        right
        obtain ⟨key, hsteps, hkey⟩ := Checker.exists_key_of_mem_missingFindings hfinding
        exact ⟨properties, required, additional, entries, key, rfl, rfl, hkey.1, hkey.2, hsteps⟩
      | _ => simp_all
    | anyOf branches =>
      left
      split at hfinding <;> simp_all
    | oneOf branches =>
      left
      rcases Checker.exclusive_findings branches.length
        (branches.countP fun branch => branch.Conforms strict value) with h | h | h <;>
          simp_all

/-- All findings of a walk are located. -/
theorem locates_of_mem_visits {strict : Bool} {schema : Schema} {value : Value} {finding : Finding}
    (hfinding : finding ∈ (visits strict schema value).flatMap Visit.located) :
    schema.Locates value finding.steps := by
  induction schema generalizing value finding with
  | array items least most ih =>
    rw [flatMap_visits] at hfinding
    rcases List.mem_append.mp hfinding with hown | hinner
    · exact locates_of_mem_ownFindings hown
    · cases value with
      | array values =>
        obtain ⟨⟨child, index⟩, hchild, hmem⟩ := List.mem_flatMap.mp hinner
        obtain ⟨below, hbelow, rfl⟩ := List.mem_map.mp hmem
        rw [List.mk_mem_zipIdx_iff_getElem?] at hchild
        exact (ih hbelow).step (fun _ _ => .item hchild) fun _ _ _ => .item hchild
      | _ => simp [innerFindings] at hinner
  | object properties required additional ih =>
    rw [flatMap_visits] at hfinding
    rcases List.mem_append.mp hfinding with hown | hinner
    · exact locates_of_mem_ownFindings hown
    · cases value with
      | object entries =>
        obtain ⟨⟨key, child⟩, hchild, hmem⟩ := List.mem_flatMap.mp hinner
        unfold entryFindings at hmem
        cases hdeclared : properties.lookup key with
        | none =>
          simp only [hdeclared] at hmem
          have hsteps : finding.steps = [.key key] := by
            split at hmem <;> simp_all
          exact .inl ⟨child, hsteps ▸ .entry hchild .here⟩
        | some declared =>
          simp only [hdeclared] at hmem
          obtain ⟨below, hbelow, rfl⟩ := List.mem_map.mp hmem
          exact (ih _ (Entries.mem_of_lookup hdeclared) hbelow).step (fun _ _ => .entry hchild)
            fun _ _ _ => .property hchild hdeclared
      | _ => simp [innerFindings] at hinner
  | _ =>
    simp only [flatMap_visits, innerFindings, List.append_nil] at hfinding
    exact locates_of_mem_ownFindings hfinding

/-- A walk that ends has found below each place that is reached what a check of that part gives, and
has found it in one piece. -/
theorem Reaches.foundBelow {schema target : Schema} {value part : Value} {place : List Step}
    (hreaches : Reaches schema value place target part) (hdistinct : value.DistinctKeys)
    {options : ValidationOptions} (hended : (schema.walkValue options value).stop = none) :
    (target.walkValue options part).stop = none ∧
      (schema.walkValue options value).foundBelow place =
        (target.walkValue options part).findings.map (.below place) ∧
      (schema.walkValue options value).foundBelow place <:+:
        (schema.walkValue options value).findings := by
  obtain ⟨below, hle, hpart, hsplit⟩ := hreaches.splitAt hdistinct hended
  -- the part was walked with fewer levels, and with more of them its walk is the same
  have hsame : target.walkValue options part = target.walk options.strict below part :=
    (walk_isMonotone options.strict target _ _ part hle).eq_of_ended hpart
  have hfound : (schema.walkValue options value).foundBelow place =
      (target.walk options.strict below part).findings.map (.below place) :=
    Finding.SplitAt.foundBelow_eq hsplit
  rw [hsame]
  refine ⟨hpart, hfound, ?_⟩
  obtain ⟨before, after, hfindings, _⟩ := hsplit
  exact ⟨before, after, by rw [hfound]; exact hfindings.symm⟩

/-- Of a union only the union itself is found to be wrong, whatever its branches are. -/
theorem walk_union_findings {strict : Bool} {levels : Nat} {value : Value}
    {branches : List Schema} :
    (((anyOf branches).walk strict levels value).stop = none →
      ((anyOf branches).walk strict levels value).findings = [] ∨
      ((anyOf branches).walk strict levels value).findings = [⟨[], .noBranch branches.length⟩]) ∧
    (((oneOf branches).walk strict levels value).stop = none →
      ((oneOf branches).walk strict levels value).findings = [] ∨
      ((oneOf branches).walk strict levels value).findings =
        [⟨[], .noSingleBranch branches.length⟩] ∨
      ∃ matched, ((oneOf branches).walk strict levels value).findings =
        [⟨[], .ambiguous matched branches.length⟩]) := by
  constructor
  · intro hstop
    rw [walk_findings_eq_flatMap_visits hstop, flatMap_visits]
    simp only [ownFindings, innerFindings, List.append_nil]
    split
    · exact .inl rfl
    · split
      · exact .inl rfl
      · exact .inr rfl
  · intro hstop
    rw [walk_findings_eq_flatMap_visits hstop, flatMap_visits]
    simp only [ownFindings, innerFindings, List.append_nil]
    split
    · exact .inl rfl
    · rcases Checker.exclusive_findings branches.length
        (branches.countP fun branch => branch.Conforms strict value) with h | h | h
      · exact .inl h
      · exact .inr (.inl h)
      · exact .inr (.inr ⟨_, h⟩)

/-- **Every problem is reported where it is.** The records of a check are those of the places that
it visits, in pre-order. The records at and below a place that is reached stand in one piece and are
those of a check of that part alone, whose root is the place. A union has one record at most, at its
own place. Each record is at a part of the value or at a key that it must have and lacks. -/
theorem records_are_located {schema : Schema} {options : ValidationOptions} {root : String}
    {value : Value} {records : List Record} (hdistinct : value.DistinctKeys)
    (hok : schema.check options root value = .ok records) :
    records = (schema.walkValue options value).findings.map (Finding.record root) ∧
    records = (visits options.strict schema value).flatMap (fun visit =>
      visit.findings.map (Finding.record (renderPath root visit.place))) ∧
    (∀ place target part, Reaches schema value place target part →
      value.HasPartAt place part ∧
      (schema.walkValue options value).foundBelow place <:+:
        (schema.walkValue options value).findings ∧
      target.check options (renderPath root place) part =
        .ok (((schema.walkValue options value).foundBelow place).map (Finding.record root)) ∧
      (∀ branches, target = anyOf branches →
        (schema.walkValue options value).foundBelow place = [] ∨
        (schema.walkValue options value).foundBelow place =
          [⟨place, .noBranch branches.length⟩]) ∧
      ∀ branches, target = oneOf branches →
        (schema.walkValue options value).foundBelow place = [] ∨
        (schema.walkValue options value).foundBelow place =
          [⟨place, .noSingleBranch branches.length⟩] ∨
        ∃ matched, (schema.walkValue options value).foundBelow place =
          [⟨place, .ambiguous matched branches.length⟩]) ∧
    ∀ record ∈ records, ∃ steps, record.path = renderPath root steps ∧
      schema.Locates value steps := by
  obtain ⟨hended, rfl⟩ := Walk.check_eq_ok_iff.mp hok
  have hvisits : (schema.walkValue options value).findings = _ :=
    walk_findings_eq_flatMap_visits hended
  refine ⟨rfl, ?_, fun place target part hreaches => ?_, fun record hrecord => ?_⟩
  · rw [hvisits, List.map_flatMap]
    refine List.flatMap_congr fun visit _ => ?_
    rw [Visit.located, List.map_map]
    exact List.map_congr_left fun finding _ => Finding.record_below root visit.place finding
  · obtain ⟨hpart, hfound, hmiddle⟩ := hreaches.foundBelow hdistinct hended
    refine ⟨hreaches.hasPartAt, hmiddle, Walk.check_eq_ok_iff.mpr ⟨hpart, ?_⟩, ?_, ?_⟩
    · rw [hfound, List.map_map]
      exact List.map_congr_left fun finding _ => (Finding.record_below root place finding).symm
    · rintro branches rfl
      rcases walk_union_findings.1 hpart with h | h
      · exact .inl (by rw [hfound, walkValue, h]; rfl)
      · exact .inr (by rw [hfound, walkValue, h]; simp [Finding.below])
    · rintro branches rfl
      rcases walk_union_findings.2 hpart with h | h | ⟨matched, h⟩
      · exact .inl (by rw [hfound, walkValue, h]; rfl)
      · exact .inr (.inl (by rw [hfound, walkValue, h]; simp [Finding.below]))
      · exact .inr (.inr ⟨matched, by rw [hfound, walkValue, h]; simp [Finding.below]⟩)
  · obtain ⟨finding, hfinding, rfl⟩ := List.mem_map.mp hrecord
    rw [hvisits] at hfinding
    exact ⟨finding.steps, rfl, locates_of_mem_visits hfinding⟩

end

/-- In a list of labelled items, the item without a label is found under its own path. -/
theorem records_of_item_are_located :
    let label := object [("label", string)] ["label"] .allow
    let schema := object [("items", array label none none), ("size", anyOf [number, string])] ["id"]
      .allow
    let items := [Value.object [("label", .string "a")], .object [("label", .int 1)], .object []]
    let value := Value.object [("items", .array items), ("size", .bool true)]
    value.DistinctKeys ∧
    schema.check ⟨true, 128⟩ "root" value =
      .ok [⟨"root.id", .required⟩, ⟨"root.items[1].label", .wrongKind .string .integer⟩,
        ⟨"root.items[2].label", .required⟩, ⟨"root.size", .noBranch 2⟩] ∧
    label.check ⟨true, 128⟩ "root.items[2]" (.object []) =
      .ok [⟨"root.items[2].label", .required⟩] := by
  intro label schema items value
  have hdistinct : value.DistinctKeys := by
    simp [value, items, Value.DistinctKeys, Value.HasDistinctKeys, Entries.keys]
  have hok : schema.check ⟨true, 128⟩ "root" value =
      .ok [⟨"root.id", .required⟩, ⟨"root.items[1].label", .wrongKind .string .integer⟩,
        ⟨"root.items[2].label", .required⟩, ⟨"root.size", .noBranch 2⟩] := rfl
  have hreaches : Reaches schema value [.key "items", .index 2] label (.object []) :=
    .property (List.mem_cons_self) rfl (.item rfl .here)
  exact ⟨hdistinct, hok, ((records_are_located hdistinct hok).2.2.1 _ _ _ hreaches).2.2.1⟩

end Schema

end ControlProps
