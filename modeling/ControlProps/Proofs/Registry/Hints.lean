import ControlProps.Engine.Patterns
import ControlProps.Proofs.Registry.EntryPoints
import ControlProps.Proofs.Validation.Hints

/-!
# Hints of controls

Hints lie below all that a control, the layout and what all controls share declare. So more hints
never add a record: they only drop those that refuse a hinted key.
-/

namespace ControlProps

namespace Walk

/-- Permitting keys drops records that say of these keys that they are not allowed, and keeps the
others in their order. -/
theorem records_of_permitting (keys : List String) (walk : Walk) (root : String) (limit : Nat) :
    ((walk.permitting keys).collect root limit).Sublist (walk.collect root limit) ∧
      ∃ dropped, ((walk.permitting keys).collect root limit ++ dropped).Perm
          (walk.collect root limit) ∧
        ∀ record ∈ dropped, record.message = "is not allowed" ∧
          ∃ key ∈ keys, record.path = Step.extend root (.key key) := by
  let refused := walk.findings.filter (·.refusesKey keys)
  let kept := walk.findings.filter fun finding => !finding.refusesKey keys
  let stopped := walk.stop.toList.map fun place =>
    (DepthExceeded.mk (renderPath root place) limit).record
  have hbefore : walk.collect root limit = walk.findings.map (Finding.record root) ++ stopped := rfl
  have hafter : (walk.permitting keys).collect root limit =
      kept.map (Finding.record root) ++ stopped := rfl
  have hsplit : (kept ++ refused).Perm walk.findings :=
    List.perm_append_comm.trans (List.filter_append_perm (·.refusesKey keys) walk.findings)
  rw [hbefore, hafter]
  refine ⟨(List.filter_sublist.map _).append_right _, refused.map (Finding.record root), ?_, ?_⟩
  · have hrecords := hsplit.map (Finding.record root)
    rw [List.map_append] at hrecords
    rw [List.append_assoc]
    refine (List.perm_append_comm.append_left _).trans ?_
    rw [← List.append_assoc]
    exact hrecords.append_right stopped
  · intro record hrecord
    obtain ⟨finding, hfinding, rfl⟩ := List.mem_map.mp hrecord
    obtain ⟨key, hkey, rfl⟩ := Finding.refusesKey_iff.mp (List.mem_filter.mp hfinding).2
    exact ⟨rfl, key, hkey, rfl⟩

end Walk

namespace Registry

section

variable [SharedPatterns]

/-- A property that is declared without hints is declared alike with them, and every other one is
declared if it is hinted. -/
theorem property?_composed (properties : List (String × Schema)) (required : List String)
    (additional : Additional) (hints : List String) (key : String) :
    (composed ⟨.object properties required additional, hints⟩).property? key =
      (((Schema.object properties required additional).compose
        [SharedSchemas.layout, SharedSchemas.universal]).property? key).or
          (if key ∈ hints then some .any else none) := by
  rw [composed, Schema.property?_compose, Schema.property?_compose, Option.or_assoc,
    ← Schema.property?_catchAll]
  simp only [List.findSome?_cons, List.findSome?_nil]
  cases SharedSchemas.layout.property? key with
  | some declared => rfl
  | none =>
    cases SharedSchemas.universal.property? key with
    | some declared => rfl
    | none => cases (SharedSchemas.catchAll hints).property? key <;> rfl

variable {catalog wider : Catalog} {type : String} {properties : List (String × Schema)}
  {required : List String} {additional : Additional} {hints more : List String} {maxDepth : Nat}

/-- With more hints a registry takes the walk of a bag without the refusals of these hints. -/
theorem walk?_of_hinted
    (hcontrol : catalog.control? type = some ⟨.object properties required additional, hints⟩)
    (hwider : wider.control? type = some ⟨.object properties required additional, hints ++ more⟩)
    (hdepth : 1 ≤ maxDepth) (calls calls' : List Call) (strict : Bool) (bag : PropertyBag) :
    ((ofCatalog wider maxDepth).after calls').walk? type strict bag =
      (((ofCatalog catalog maxDepth).after calls).walk? type strict bag).map
        (Walk.permitting more) := by
  rw [walk?, walk?, maxDepth_after_ofCatalog, maxDepth_after_ofCatalog, schema?_after_ofCatalog,
    schema?_after_ofCatalog, hcontrol, hwider]
  refine congrArg some (Schema.walkBag_of_hinted hdepth (fun key => ?_) bag)
  have hfew := property?_composed properties required additional hints key
  have hmany := property?_composed properties required additional (hints ++ more) key
  have hnames : (if key ∈ hints ++ more then some Schema.any else none) =
      (if key ∈ hints then some Schema.any else none).or
        (if key ∈ more then some .any else none) := by
    by_cases hhint : key ∈ hints <;> simp [hhint]
  rw [hnames, ← Option.or_assoc, ← hfew] at hmany
  exact hmany

omit [SharedPatterns] in
/-- The path of a property of a control. -/
theorem extend_propsPath (type key : String) :
    Step.extend (propsPath type) (.key key) = type ++ ".props." ++ key := by
  have hnonempty : (type ++ ".props").isEmpty = false := by simp
  have hdot : ".props" ++ "." = ".props." := rfl
  rw [propsPath, Step.extend, hnonempty, ← hdot]
  simp only [Bool.false_eq_true, if_false, String.append_assoc]

/-- **Hints only permit.** Let two registries differ in that the second one has further hints for a
control that describes an object. Then the second one gives for every bag some of the records of the
first one, in the same order. Those that it drops say that a key is not allowed, and the key is one
of the further hints; none of these is refused any more. What the control, the layout or the
properties that all controls share declare for a key stays as it is. -/
theorem hints_only_permit
    (hcontrol : catalog.control? type = some ⟨.object properties required additional, hints⟩)
    (hwider : wider.control? type = some ⟨.object properties required additional, hints ++ more⟩)
    (hdepth : 1 ≤ maxDepth) (calls calls' : List Call) (strict : Bool) (bag : PropertyBag) :
    let registry := (ofCatalog catalog maxDepth).after calls
    let hinted := (ofCatalog wider maxDepth).after calls'
    let records := ((validateProps type strict bag).run registry).1
    let hintedRecords := ((validateProps type strict bag).run hinted).1
    hintedRecords.Sublist records ∧
    (∃ dropped, (hintedRecords ++ dropped).Perm records ∧
      ∀ record ∈ dropped, record.message = "is not allowed" ∧
        ∃ key ∈ more, record.path = type ++ ".props." ++ key) ∧
    (∃ walk, ((walkProps type strict bag).run hinted).1 = some walk ∧
      ∀ finding ∈ walk.findings, ∀ key ∈ more, finding.steps = [.key key] →
        (finding.record (propsPath type)).message ≠ "is not allowed") ∧
    ∀ key declared, ((Schema.object properties required additional).compose
        [SharedSchemas.layout, SharedSchemas.universal]).property? key = some declared →
      ((schemaFor type).run hinted).1.bind (·.property? key) = some declared := by
  intro registry hinted records hintedRecords
  have hschema : registry.schema? type =
      some (composed ⟨.object properties required additional, hints⟩) := by
    rw [schema?_after_ofCatalog, hcontrol]
    rfl
  obtain ⟨walk, hwalk⟩ : ∃ walk, registry.walk? type strict bag = some walk := by
    rw [walk?, hschema]
    exact ⟨_, rfl⟩
  have hpermitting : hinted.walk? type strict bag = some (walk.permitting more) := by
    rw [walk?_of_hinted hcontrol hwider hdepth calls calls' strict bag, hwalk]
    rfl
  have hlimit : registry.maxDepth = maxDepth := maxDepth_after_ofCatalog catalog maxDepth calls
  have hhintedLimit : hinted.maxDepth = maxDepth := maxDepth_after_ofCatalog wider maxDepth calls'
  have hrecords : records = walk.collect (propsPath type) maxDepth := by
    simp only [records, validateProps_run, hwalk, hlimit]
  have hhintedRecords :
      hintedRecords = (walk.permitting more).collect (propsPath type) maxDepth := by
    simp only [hintedRecords, validateProps_run, hpermitting, hhintedLimit]
  obtain ⟨hsublist, dropped, hperm, hdropped⟩ :=
    walk.records_of_permitting more (propsPath type) maxDepth
  rw [hrecords, hhintedRecords]
  refine ⟨hsublist, ⟨dropped, hperm, fun record hrecord => ?_⟩, ?_, ?_⟩
  · simp only [← extend_propsPath]
    exact hdropped record hrecord
  · refine ⟨walk.permitting more, by rw [walkProps_run, hpermitting], ?_⟩
    intro finding hfinding key hkey hsteps hmessage
    have hrefusal := (Problem.message_eq_iff_isRefusal finding.problem).mp hmessage
    rw [Walk.isRefusal_of_permitting hfinding hkey hsteps] at hrefusal
    contradiction
  · intro key declared hdeclared
    have hhinted : hinted.schema? type =
        some (composed ⟨.object properties required additional, hints ++ more⟩) := by
      rw [schema?_after_ofCatalog, hwider]
      rfl
    rw [schemaFor_run, hhinted, Option.bind_some, property?_composed, hdeclared]
    rfl

end

/-- Of three further hints at a closed control one permits a key. The other two change nothing: one
is declared by the control, the other by what all controls share. -/
theorem further_hint_permits_one_key :
    let schema := Schema.object [("title", .string)] ["title"] .reject
    let hints := ["icon"]
    let more := ["badge", "title", "opacity"]
    let catalog : Catalog := ⟨[("card", ⟨schema, hints⟩)]⟩
    let wider : Catalog := ⟨[("card", ⟨schema, hints ++ more⟩)]⟩
    let bag : PropertyBag := [("badge", .int 1), ("title", .int 2), ("opacity", .string "high"),
      ("note", .null), ("width", .string "5px")]
    let records := ((validateProps "card" true bag).run (ofCatalog catalog 1)).1
    let hintedRecords := ((validateProps "card" true bag).run ((ofCatalog wider 1).after [.warm])).1
    catalog.control? "card" = some ⟨schema, hints⟩ ∧
      wider.control? "card" = some ⟨schema, hints ++ more⟩ ∧
      records.map (·.path) = ["card.props.badge", "card.props.title", "card.props.opacity",
        "card.props.note", "card.props.width"] ∧
      hintedRecords.map (·.path) = ["card.props.title", "card.props.opacity", "card.props.note",
        "card.props.width"] ∧
      hintedRecords.Sublist records ∧
      ∃ dropped, (hintedRecords ++ dropped).Perm records ∧
        ∀ record ∈ dropped, record.message = "is not allowed" ∧
          ∃ key ∈ more, record.path = "card" ++ ".props." ++ key := by
  intro schema hints more catalog wider bag records hintedRecords
  have hcontrol : catalog.control? "card" = some ⟨schema, hints⟩ := rfl
  have hwider : wider.control? "card" = some ⟨schema, hints ++ more⟩ := rfl
  obtain ⟨hsublist, hdropped, _⟩ :=
    hints_only_permit hcontrol hwider (Nat.le_refl 1) [] [.warm] true bag
  refine ⟨hcontrol, hwider, ?_, ?_, hsublist, hdropped⟩
  · decide +kernel
  · decide +kernel

end Registry

end ControlProps
