import ControlProps.Proofs.Validation.Conformance
import Mathlib.Data.List.Basic

/-!
# Where findings lie

A walk visits the parts of a value in pre-order and adds at each of them what is wrong there. What
it finds at a part and below is what a walk of that part alone finds, seen from further up.
-/

namespace ControlProps

/-- The same finding seen from the top of a place. -/
def Finding.below (place : List Step) (finding : Finding) : Finding :=
  { finding with steps := place ++ finding.steps }

/-- Seen from the value itself, a finding stays where it is. -/
@[simp] theorem Finding.below_nil : Finding.below [] = id := rfl

/-- The written form of a place goes on from that of a place further up. -/
theorem renderPath_append (root : String) (place inner : List Step) :
    renderPath root (place ++ inner) = renderPath (renderPath root place) inner :=
  List.foldl_append

/-- A record from the root is one from the place below which its finding lies. -/
theorem Finding.record_below (root : String) (place : List Step) (finding : Finding) :
    (finding.below place).record root = finding.record (renderPath root place) := by
  simp only [Finding.record, Finding.below, renderPath_append]

/-- A place that a walk comes to, and what is wrong there, apart from what lies below it. -/
structure Visit where
  place : List Step
  findings : List Finding

namespace Visit

/-- The same visit seen from one level further up. -/
def under (step : Step) (visit : Visit) : Visit := { visit with place := step :: visit.place }

/-- The findings of a visit, seen from the root. -/
def located (visit : Visit) : List Finding := visit.findings.map (.below visit.place)

/-- From further up, the findings of a visit lie one step further in. -/
theorem located_under (step : Step) (visit : Visit) :
    (visit.under step).located = visit.located.map (.under step) := by
  simp [located, under, Finding.below, Finding.under]

end Visit

namespace Schema

variable [PatternEngine]

/-- What is wrong with a value itself, apart from its items and entries. -/
def ownFindings (strict : Bool) (schema : Schema) (value : Value) : List Finding :=
  if value.isNull then []
  else
    match schema, value with
    | any, _ => []
    | primitive kind, value =>
      if kind.admits value then [] else [⟨[], .wrongKind kind value.kind⟩]
    | enumeration values, value =>
      if values.any (·.looselyEquals value) then [] else [⟨[], .notALiteral values⟩]
    | pattern form, value => (walkPattern form value).findings
    | range min max integer, value => (walkRange min max integer value).findings
    | array _ least most, .array values => Checker.countFindings least most values.length
    | array _ _ _, value => [⟨[], .notAnArray value.kind⟩]
    | object _ required _, .object entries => Checker.missingFindings required entries
    | object _ _ _, value => [⟨[], .notAnObject value.kind⟩]
    | anyOf branches, value =>
      if ∃ branch ∈ branches, branch.Conforms strict value then []
      else [⟨[], .noBranch branches.length⟩]
    | oneOf branches, value =>
      (Checker.exclusive branches.length
        (branches.countP fun branch => branch.Conforms strict value)).findings

mutual

/-- The places that a walk of a value comes to, in pre-order. -/
def visits (strict : Bool) (schema : Schema) : Value → List Visit
  | .array values =>
    ⟨[], schema.ownFindings strict (.array values)⟩ ::
      match schema with
      | array items _ _ => itemVisits strict items 0 values
      | _ => []
  | .object entries =>
    ⟨[], schema.ownFindings strict (.object entries)⟩ ::
      match schema with
      | object properties _ additional =>
        entryVisits strict properties (strict && additional = .reject) entries
      | _ => []
  | value => [⟨[], schema.ownFindings strict value⟩]

/-- The visits of items from an index on. -/
def itemVisits (strict : Bool) (items : Schema) (index : Nat) : List Value → List Visit
  | [] => []
  | item :: rest =>
    (visits strict items item).map (.under (.index index)) ++
      itemVisits strict items (index + 1) rest

/-- The visits of entries; one that no schema is declared for may be refused. -/
def entryVisits (strict : Bool) (properties : List (String × Schema)) (refuse : Bool) :
    List (String × Value) → List Visit
  | [] => []
  | (key, child) :: rest =>
    (match properties.lookup key with
      | some declared => (visits strict declared child).map (.under (.key key))
      | none => [⟨[.key key], if refuse then [⟨[], .notAllowed⟩] else []⟩]) ++
      entryVisits strict properties refuse rest

end

/-- A walk of `null` visits it and finds nothing. -/
@[simp] theorem visits_null (strict : Bool) (schema : Schema) :
    visits strict schema .null = [⟨[], []⟩] := by
  simp [visits, ownFindings, Value.isNull]

/-- The findings of the visits of items are those of each item in order. -/
theorem flatMap_itemVisits (strict : Bool) (items : Schema) (index : Nat) (values : List Value) :
    (itemVisits strict items index values).flatMap Visit.located =
      (values.zipIdx index).flatMap fun item =>
        ((visits strict items item.1).flatMap Visit.located).map (.under (.index item.2)) := by
  induction values generalizing index with
  | nil => rfl
  | cons item rest ih =>
    simp [itemVisits, ih, List.flatMap_map, List.map_flatMap, Visit.located_under]

/-- What is found about an entry, in terms of the visits of its value. -/
def entryFindings (strict : Bool) (properties : List (String × Schema)) (refuse : Bool)
    (child : String × Value) : List Finding :=
  match properties.lookup child.1 with
  | some declared =>
    ((visits strict declared child.2).flatMap Visit.located).map (.under (.key child.1))
  | none => if refuse then [⟨[.key child.1], .notAllowed⟩] else []

/-- The findings of the visits of entries are those of each entry in order. -/
theorem flatMap_entryVisits (strict : Bool) (properties : List (String × Schema)) (refuse : Bool)
    (entries : List (String × Value)) :
    (entryVisits strict properties refuse entries).flatMap Visit.located =
      entries.flatMap (entryFindings strict properties refuse) := by
  induction entries with
  | nil => rfl
  | cons child rest ih =>
    obtain ⟨key, value⟩ := child
    rw [entryVisits, List.flatMap_append, ih, List.flatMap_cons]
    congr 1
    cases hlookup : properties.lookup key with
    | some declared =>
      simp [entryFindings, hlookup, List.flatMap_map, List.map_flatMap, Visit.located_under]
    | none => cases refuse <;> simp [entryFindings, hlookup, Visit.located, Finding.below]

/-- What is found in the items of an array or the entries of an object. -/
def innerFindings (strict : Bool) : Schema → Value → List Finding
  | array items _ _, .array values =>
    values.zipIdx.flatMap fun item =>
      ((visits strict items item.1).flatMap Visit.located).map (.under (.index item.2))
  | object properties _ additional, .object entries =>
    entries.flatMap (entryFindings strict properties (strict && additional = .reject))
  | _, _ => []

/-- In pre-order, a value itself comes before its items and entries. -/
theorem flatMap_visits (strict : Bool) (schema : Schema) (value : Value) :
    (visits strict schema value).flatMap Visit.located =
      schema.ownFindings strict value ++ innerFindings strict schema value := by
  have hown (findings : List Finding) : Visit.located ⟨[], findings⟩ = findings := by
    simp [Visit.located]
  cases value with
  | array values =>
    cases schema with
    | array items least most => rw [visits, List.flatMap_cons, hown, flatMap_itemVisits]; rfl
    | _ => simp [visits, hown, innerFindings]
  | object entries =>
    cases schema with
    | object properties required additional =>
      rw [visits, List.flatMap_cons, hown, flatMap_entryVisits]
      rfl
    | _ => simp [visits, hown, innerFindings]
  | _ => cases schema <;> simp [visits, hown, innerFindings]

/-- A guarded check that ends finds what its visits say, if the check below finds so in every value
but `null`. -/
theorem guarded_findings_eq {strict : Bool} {schema : Schema} {check : Checker} {levels : Nat}
    {value : Value} (hstop : (Checker.guarded check levels value).stop = none)
    (hcheck : ∀ below, value.isNull = false → (check below value).stop = none →
      (check below value).findings =
        schema.ownFindings strict value ++ innerFindings strict schema value) :
    (Checker.guarded check levels value).findings =
      (visits strict schema value).flatMap Visit.located := by
  rcases Checker.guarded_cases hstop with rfl | ⟨hne, below, rfl, hbelow⟩
  · simp [Checker.guarded, Value.isNull, Visit.located]
  · rw [hbelow] at hstop ⊢
    rw [flatMap_visits]
    refine hcheck below ?_ hstop
    cases value with
    | null => exact absurd rfl hne
    | _ => rfl

/-- What is found about an entry is what its visits say, if that holds for the value of a declared
key. -/
theorem entry_findings_eq {strict refuse : Bool} {properties : List (String × Schema)}
    {levels : Nat} {child : String × Value}
    (hchild : ∀ declared, properties.lookup child.1 = some declared →
      (declared.walk strict levels child.2).findings =
        (visits strict declared child.2).flatMap Visit.located) :
    (Checker.entry (walkProperties strict properties) refuse levels child).findings =
      entryFindings strict properties refuse child := by
  have hlookup := lookup_walkProperties strict properties child.1
  cases hdeclared : properties.lookup child.1 with
  | none =>
    rw [hdeclared, Option.map_none] at hlookup
    simp only [Checker.entry, Checker.entryValue, entryFindings, hlookup, hdeclared]
    cases refuse <;> simp [Finding.under]
  | some declared =>
    rw [hdeclared, Option.map_some] at hlookup
    simp only [Checker.entry, Checker.entryValue, entryFindings, hlookup, hdeclared,
      Walk.under_findings, hchild declared hdeclared]

/-- **Pre-order.** A walk that ends finds what is wrong at each place that it visits, in order. -/
theorem walk_findings_eq_flatMap_visits {strict : Bool} {schema : Schema} {levels : Nat}
    {value : Value} (hstop : (schema.walk strict levels value).stop = none) :
    (schema.walk strict levels value).findings =
      (visits strict schema value).flatMap Visit.located := by
  induction schema generalizing levels value with
  | any =>
    refine guarded_findings_eq hstop fun _ hnull _ => ?_
    simp [ownFindings, innerFindings, hnull]
  | primitive kind =>
    refine guarded_findings_eq hstop fun _ hnull _ => ?_
    cases h : kind.admits value <;> simp [ownFindings, innerFindings, hnull, h]
  | enumeration values =>
    refine guarded_findings_eq hstop fun _ hnull _ => ?_
    cases h : values.any (·.looselyEquals value) <;>
      simp [ownFindings, innerFindings, hnull, h]
  | pattern form =>
    refine guarded_findings_eq hstop fun _ hnull _ => ?_
    simp [ownFindings, innerFindings, hnull]
  | range min max integer =>
    refine guarded_findings_eq hstop fun _ hnull _ => ?_
    simp [ownFindings, innerFindings, hnull]
  | array items least most ih =>
    refine guarded_findings_eq hstop fun below hnull hended => ?_
    cases value with
    | array values =>
      have hitems := Checker.array_stop_eq_none_iff.mp hended
      rw [Checker.array_findings hended]
      refine congrArg _ (List.flatMap_congr fun item hitem => ?_)
      rw [ih (hitems item.1 (List.fst_mem_of_mem_zipIdx hitem))]
    | _ => simp [ownFindings, innerFindings, hnull]
  | object properties required additional ih =>
    refine guarded_findings_eq hstop fun below hnull hended => ?_
    cases value with
    | object entries =>
      have hentries := Checker.object_stop_eq_none_iff.mp hended
      rw [Checker.object_findings hended]
      refine congrArg _ (List.flatMap_congr fun child hchild => ?_)
      refine entry_findings_eq fun declared hdeclared => ?_
      have hcheck := lookup_walkProperties_of_declared strict hdeclared
      exact ih _ (Entries.mem_of_lookup hdeclared) (hentries child hchild _ hcheck)
    | _ => simp [ownFindings, innerFindings, hnull]
  | anyOf branches _ =>
    refine guarded_findings_eq hstop fun below hnull hended => ?_
    rcases anyOf_conforms_cases hended fun _ _ => walk_findings_eq_nil_iff with
      ⟨hclean, hconforms⟩ | ⟨hproblem, hnone⟩
    · simp only [hclean, ownFindings, innerFindings, hnull, if_pos hconforms]
      rfl
    · simp only [hproblem, ownFindings, innerFindings, hnull, if_neg hnone]
      rfl
  | oneOf branches _ =>
    refine guarded_findings_eq hstop fun below hnull hended => ?_
    rw [walkBranches_eq_map] at hended ⊢
    have hbranches := Checker.stop_of_oneOf_stop hended
    rw [Checker.oneOf_eq_exclusive hbranches, Nat.zero_add, List.countP_map]
    have hcount : branches.countP ((fun check => (check below value).findings.isEmpty) ∘
        walk strict) = branches.countP fun branch => branch.Conforms strict value := by
      refine List.countP_congr fun branch hbranch => ?_
      rw [decide_eq_true_iff,
        ← walk_findings_eq_nil_iff (hbranches _ (List.mem_map_of_mem hbranch))]
      simp
    simp [hcount, ownFindings, innerFindings, hnull]

end Schema

end ControlProps
