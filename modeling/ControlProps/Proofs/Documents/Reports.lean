import ControlProps.CommandLine.Run
import ControlProps.Files.Workspace
import ControlProps.Proofs.Documents.Loading
import ControlProps.Proofs.Registry.Calls
import ControlProps.Proofs.Validation.Bags
import ControlProps.Proofs.Value.RoundTrip

/-!
# Reports on documents

A report has one entry for each document, in their order, and the entry says what the validation of
the document finds. Only `null`, which is in order wherever a value may stand, is no bag and so
refused. All documents are checked by one registry; what it has kept makes no difference. As JSON, a
report lists its entries with all their records.
-/

namespace ControlProps

/-- A value that is no object has one record under an object schema, unless it is `null`. -/
theorem Schema.validate_of_not_object [PatternEngine] {schema : Schema}
    {options : ValidationOptions} {root : String} {value : Value}
    (hobject : schema.properties?.isSome = true) (hvalue : value.object? = none)
    (hnull : value.isNull = false) :
    schema.validate options root value = [⟨root, .notAnObject value.kind⟩] := by
  cases schema with
  | object properties required additional =>
    cases value with
    | null | object => contradiction
    | _ => rfl
  | _ => contradiction

/-- What the entry of a report has to say about a document. -/
structure DocumentReport.IsFaithful [PatternEngine] (schema : Schema)
    (options : ValidationOptions) (root : String) (document : Document) (entry : DocumentReport) :
    Prop where
  source : entry.source = document.source
  /-- Whatever it is but `null`, the document is validated as a value. -/
  records : document.value ≠ .null →
    entry.records = schema.validate options root (.ofJson document.value)
  /-- No bag is `null`, though the validation of a value lets it pass. -/
  null : document.value = .null → entry.isValid = false
  isValid_iff : entry.isValid = true ↔ entry.records = []

/-- No document is counted as invalid exactly if all entries are valid. -/
theorem Report.decide_invalid_eq_zero (report : Report) :
    decide (report.invalid = 0) = report.documents.all DocumentReport.isValid := by
  rw [Bool.eq_iff_iff, decide_eq_true_iff, invalid, List.countP_eq_zero, List.all_eq_true]
  simp only [Bool.not_eq_true', Bool.not_eq_false]

/-- What an object of JSON says about the entry of a report. -/
structure DocumentReport.IsWrittenAs (entry : DocumentReport) (json : Json) : Prop where
  source : json.field? "source" = some (.string entry.source)
  valid : json.field? "valid" = some (.bool entry.isValid)
  errors : ∃ errors, json.field? "errors" = some (.array errors) ∧
    List.Forall₂ (fun record error =>
      error.field? "path" = some (.string record.path) ∧
        error.field? "message" = some (.string record.message)) entry.records errors

/-- The JSON of a report counts its entries and the invalid ones among them, and lists all of them
in their order. -/
theorem Report.toJson_lists (time : String) (report : Report) :
    (report.toJson time).field? "checked" = some (.int report.documents.length) ∧
      (report.toJson time).field? "invalid" =
        some (.int (report.documents.filter fun entry => !entry.isValid).length) ∧
      ∃ entries, (report.toJson time).field? "documents" = some (.array entries) ∧
        List.Forall₂ DocumentReport.IsWrittenAs report.documents entries := by
  refine ⟨rfl, congrArg (fun count : Nat => some (Json.int count)) List.countP_eq_length_filter,
    _, rfl, ?_⟩
  rw [List.forall₂_map_right_iff, List.forall₂_same]
  intro entry _
  refine ⟨rfl, rfl, _, rfl, ?_⟩
  rw [List.forall₂_map_right_iff, List.forall₂_same]
  exact fun _ _ => ⟨rfl, rfl⟩

namespace Registry

variable [SharedPatterns] {registry : Registry} {type : String} {strict : Bool}
  {document : Document} {schema : Schema}

/-- An object is checked as a bag. -/
theorem checkDocument_run_of_bag {bag : PropertyBag} (hbag : Value.bag? document.value = some bag) :
    (checkDocument type strict document).run registry =
      (⟨document.source, ((validateProps type strict bag).run registry).1⟩,
        ((validateProps type strict bag).run registry).2) := by
  rw [checkDocument, hbag]
  rfl

/-- Anything else is refused without a look at the schema. -/
theorem checkDocument_run_of_none (hbag : Value.bag? document.value = none) :
    (checkDocument type strict document).run registry =
      (⟨document.source, [⟨propsPath type, .notAnObject (Value.ofJson document.value).kind⟩]⟩,
        registry) := by
  rw [checkDocument, hbag]
  rfl

/-- The records of a bag are those of the object that it is. -/
theorem validateProps_run_fst (hschema : registry.schema? type = some schema)
    (bag : PropertyBag) :
    ((validateProps type strict bag).run registry).1 =
      schema.validate (registry.options strict) (propsPath type) (.object bag) := by
  rw [validateProps_run, walk?, hschema]
  simp only [Option.map_some, Schema.walkBag_eq_walk]
  rfl

/-- Registries that answer alike find the same in a document, and go on answering alike. -/
theorem AnswersAlike.checkDocument {later : Registry} (halike : registry.AnswersAlike later)
    (document : Document) :
    ((Registry.checkDocument type strict document).run later).1 =
        ((Registry.checkDocument type strict document).run registry).1 ∧
      registry.AnswersAlike ((Registry.checkDocument type strict document).run later).2 := by
  cases hbag : Value.bag? document.value with
  | some bag =>
    rw [checkDocument_run_of_bag hbag, checkDocument_run_of_bag hbag, halike.validateProps]
    exact ⟨rfl, halike.trans (.call later (.validateProps type strict bag))⟩
  | none =>
    rw [checkDocument_run_of_none hbag, checkDocument_run_of_none hbag]
    exact ⟨rfl, halike⟩

/-- In a report, every document is checked as if it was the first one. -/
theorem AnswersAlike.report {later : Registry} (halike : registry.AnswersAlike later)
    (documents : List Document) :
    ((Registry.report type strict documents).run later).1 =
      ⟨type, strict, documents.map fun document =>
        ((Registry.checkDocument type strict document).run registry).1⟩ := by
  let check (document : Document) :=
    ((Registry.checkDocument type strict document).run registry).1
  have hentries : List.Forall₂ (fun document entry => check document = entry) documents
      ((documents.mapM (Registry.checkDocument type strict)).run later).1 :=
    (mapM_run_spec (fun document _ halike => (halike.checkDocument document).imp_left Eq.symm)
      halike).1
  have hsame : List.Forall₂ (· = ·) (documents.map check)
      ((documents.mapM (Registry.checkDocument type strict)).run later).1 :=
    List.forall₂_map_left_iff.mpr hentries
  rw [List.forall₂_eq_eq_eq] at hsame
  exact congrArg (Report.mk type strict) hsame.symm

/-- The entry of a document says what is found in it. -/
theorem checkDocument_isFaithful (hschema : registry.schema? type = some schema)
    (hobject : schema.properties?.isSome = true) (document : Document) :
    DocumentReport.IsFaithful schema (registry.options strict) (propsPath type) document
      ((checkDocument type strict document).run registry).1 := by
  cases hbag : Value.bag? document.value with
  | some bag =>
    have hvalue : Value.ofJson document.value = .object bag := Value.bag?_eq_some_iff.mp hbag
    rw [checkDocument_run_of_bag hbag]
    refine ⟨rfl, fun _ => ?_, fun hnull => ?_, List.isEmpty_iff⟩
    · rw [hvalue]
      exact validateProps_run_fst hschema bag
    · rw [hnull] at hbag
      contradiction
  | none =>
    rw [checkDocument_run_of_none hbag]
    refine ⟨rfl, fun hvalue => ?_, fun _ => rfl, List.isEmpty_iff⟩
    have hnull : (Value.ofJson document.value).isNull = false :=
      Bool.eq_false_iff.mpr fun h => hvalue (Value.isNull_ofJson_iff.mp h)
    exact (Schema.validate_of_not_object hobject hbag hnull).symm

end Registry

namespace Command

section

/-! ### Steps of a command -/

variable {σ : Type} {host : Host (StateM σ)} {s t : σ}

/-- Behind a step that succeeds the next one is taken. -/
theorem bind_run_of_ok {α β : Type} {first : Action (StateM σ) α} {second : α → Action (StateM σ) β}
    {a : α} (hfirst : first.run.run s = (.ok a, t)) :
    (first >>= second).run.run s = (second a).run.run t := by
  rw [ExceptT.run_bind, StateT.run_bind, hfirst]
  rfl

/-- An operation of the host is a step that gives what it gives. -/
theorem attempt_run {α ε : Type} {failure : ε → CommandError} {step : StateM σ (Except ε α)}
    {result : Except ε α} (hstep : step.run s = (result, t)) :
    (attempt failure step).run.run s = (result.mapError failure, t) := by
  rw [attempt, ExceptT.run_mk, StateT.run_bind, hstep]
  rfl

/-- A result that is had without the host is a step that leaves the state as it is. -/
theorem pure_run {α : Type} (result : Except CommandError α) :
    (ExceptT.mk (pure result) : Action (StateM σ) α).run.run s = (result, s) := rfl

variable [SharedPatterns]

/-- A catalog that can be read gives a registry that has composed nothing yet. -/
theorem loadRegistry_run {path text : String} {catalog : Catalog}
    (htext : (host.readText path).run s = (.ok text, t))
    (hcatalog : Catalog.ofText text = .ok catalog) :
    (loadRegistry host path).run.run s =
      (.ok (Registry.ofCatalog catalog ValidationOptions.defaultDepth), t) := by
  rw [loadRegistry, bind_run_of_ok (attempt_run htext), hcatalog]
  rfl

/-- The schema of a control that there is can be had. -/
theorem requireControl_of_schema {registry : Registry} {type : String} {schema : Schema}
    (hschema : registry.schema? type = some schema) :
    requireControl registry type = .ok (schema, registry.remember type) := by
  rw [requireControl, Registry.schemaFor_run, hschema]

/-- Whether a command reads a catalog and then loads documents through its host, which thereby goes
from one state to another. -/
def Finds (host : Host (StateM σ)) (command : ValidateCommand) (catalog : Catalog)
    (documents : List Document) (s t : σ) : Prop :=
  ∃ text between, (host.readText command.catalog).run s = (.ok text, between) ∧
    Catalog.ofText text = .ok catalog ∧
    (Source.load host command.selection command.inputs).run between = (.ok documents, t)

/-- A command that finds all it needs gives the report on the documents. -/
theorem runValidate_run {command : ValidateCommand} {catalog : Catalog} {control : Control}
    {documents : List Document} (hfinds : Finds host command catalog documents s t)
    (hcontrol : catalog.control? command.control = some control) (settings : RunSettings) :
    let registry := Registry.ofCatalog catalog ValidationOptions.defaultDepth
    let report := ((Registry.report command.control command.strict documents).run registry).1
    let text := written settings (settings.colored && command.out.isNone) report command.format
    (runValidate host settings command).run.run s =
      ((fun output => Outcome.mk output (report.documents.all DocumentReport.isValid)) <$>
        emit host command.out text).run.run t := by
  intro registry
  obtain ⟨text, between, htext, hcatalog, hdocuments⟩ := hfinds
  have hschema : registry.schema? command.control = some (Registry.composed control) :=
    congrArg (Option.map Registry.composed) hcontrol
  -- the report is made by the registry that has already composed the schema of the control
  have hreport : ((Registry.report command.control command.strict documents).run
        (registry.remember command.control)).1 =
      ((Registry.report command.control command.strict documents).run registry).1 :=
    ((Registry.AnswersAlike.remember registry command.control).report documents).trans
      ((Registry.AnswersAlike.refl registry).report documents).symm
  simp only [← Report.decide_invalid_eq_zero, ← hreport]
  rw [runValidate, bind_run_of_ok (loadRegistry_run htext hcatalog),
    requireControl_of_schema hschema, bind_run_of_ok (pure_run _),
    bind_run_of_ok (attempt_run hdocuments)]
  rfl

/-- **Reports are faithful.** For a control whose schema is that of an object, a command reports on
the documents that it loads one by one and in their order. The entry of a document other than `null`
has the records of its validation by the composed schema, be it an object or not, and `null` is
invalid; an entry is valid if it has no records. All documents and the invalid ones are counted, the
report is written, and the command ends well exactly if all entries are valid. -/
theorem report_is_faithful {command : ValidateCommand} {catalog : Catalog} {control : Control}
    {documents : List Document} (hfinds : Finds host command catalog documents s t)
    (hcontrol : catalog.control? command.control = some control)
    (hobject : (Registry.composed control).properties?.isSome = true) (settings : RunSettings) :
    let options : ValidationOptions := ⟨command.strict, ValidationOptions.defaultDepth⟩
    let registry := Registry.ofCatalog catalog ValidationOptions.defaultDepth
    let report := ((Registry.report command.control command.strict documents).run registry).1
    let text := written settings (settings.colored && command.out.isNone) report command.format
    report.control = command.control ∧ report.strict = command.strict ∧
      List.Forall₂ (DocumentReport.IsFaithful (Registry.composed control) options
        (command.control ++ ".props")) documents report.documents ∧
      report.checked = documents.length ∧
      report.invalid = (report.documents.filter fun entry => !entry.isValid).length ∧
      (runValidate host settings command).run.run s =
        ((fun output => Outcome.mk output (report.documents.all DocumentReport.isValid)) <$>
          emit host command.out text).run.run t := by
  intro options registry report
  have hschema : registry.schema? command.control = some (Registry.composed control) :=
    congrArg (Option.map Registry.composed) hcontrol
  have hentries : List.Forall₂ (DocumentReport.IsFaithful (Registry.composed control) options
      (command.control ++ ".props")) documents report.documents := by
    rw [show report = _ from (Registry.AnswersAlike.refl registry).report documents,
      List.forall₂_map_right_iff, List.forall₂_same]
    exact fun document _ => Registry.checkDocument_isFaithful hschema hobject document
  exact ⟨rfl, rfl, hentries, hentries.length_eq.symm, List.countP_eq_length_filter,
    runValidate_run hfinds hcontrol settings⟩

/-- A catalog of one control, which says nothing about it. -/
def fieldCatalog : String := "\x7b\"controls\":\x7b\"field\":\x7b\x7d\x7d\x7d"

end

/-- Of these three documents the first is a bag, the second is no object and the last is `null`. -/
theorem report_on_three_documents :
    let command : ValidateCommand :=
      ⟨"catalog.json", "field", true, ["-"], ⟨true, none, none⟩, .text, none⟩
    let workspace := Workspace.ofTexts [("catalog.json", fieldCatalog)] "\x7b\x7d\n3\nnull"
    ∃ report : Report, report.documents.map DocumentReport.isValid = [true, false, false] ∧
      report.checked = 3 ∧ report.invalid = 2 ∧
      ((runValidate Workspace.host ⟨false, ""⟩ command).run.run workspace).1 =
        .ok ⟨report.toText false ++ "\n", false⟩ := by
  intro command workspace
  have htext : workspace.readText "catalog.json" = .ok fieldCatalog :=
    toOption_eq_some_iff.mp (by decide +kernel)
  have hfile : (Workspace.host.readText "catalog.json").run workspace =
      (.ok fieldCatalog, workspace) := congrArg (·, workspace) htext
  have hfield : ((Catalog.ofText fieldCatalog).toOption.any fun catalog =>
      (catalog.control? "field").any fun control =>
        (Registry.composed control).properties?.isSome &&
          ((Registry.composed control).validate ⟨true, ValidationOptions.defaultDepth⟩
            ("field" ++ ".props") (.object [])).isEmpty) = true := by
    decide +kernel
  obtain ⟨catalog, hcatalog, hfield⟩ := (Option.any_eq_true _ _).mp hfield
  obtain ⟨control, hcontrol, hfield⟩ := (Option.any_eq_true _ _).mp hfield
  obtain ⟨hobject, hempty⟩ := (Bool.and_eq_true _ _).mp hfield
  have hinput : Workspace.host.readInput.run workspace =
      (.ok "\x7b\x7d\n3\nnull", { workspace with input := "" }) := rfl
  have hloaded : command.selection.load ([⟨"<stdin>", "\x7b\x7d\n3\nnull"⟩].map .ok) =
      .ok [⟨"<stdin>:1", .object []⟩, ⟨"<stdin>:2", .int 3⟩, ⟨"<stdin>:3", .null⟩] := by
    have htexts : [⟨"<stdin>", "\x7b\x7d\n3\nnull"⟩].flatMap (Source.valueTexts true) =
        [("<stdin>:1", "\x7b\x7d"), ("<stdin>:2", "3"), ("<stdin>:3", "null")] := by
      decide +kernel
    refine Selection.load_eq_ok_iff.mpr ⟨[[⟨"<stdin>:1", .object []⟩], [⟨"<stdin>:2", .int 3⟩],
      [⟨"<stdin>:3", .null⟩]], ?_, rfl⟩
    rw [htexts]
    exact .cons (Selection.contributes_of_parse rfl) (.cons (Selection.contributes_of_parse rfl)
      (.cons (Selection.contributes_of_parse rfl) .nil))
  have hdocuments := (Source.Reads.input hinput .none).load_run command.selection
  rw [hloaded] at hdocuments
  have hfinds : Finds Workspace.host command catalog [⟨"<stdin>:1", .object []⟩,
      ⟨"<stdin>:2", .int 3⟩, ⟨"<stdin>:3", .null⟩] workspace { workspace with input := "" } :=
    ⟨fieldCatalog, workspace, hfile, toOption_eq_some_iff.mp hcatalog, hdocuments⟩
  obtain ⟨_, _, hentries, hchecked, hcounted, hrun⟩ :=
    report_is_faithful hfinds hcontrol hobject ⟨false, ""⟩
  generalize ((Registry.report command.control command.strict _).run _).1 = report
    at hentries hchecked hcounted hrun
  obtain ⟨_, _, entries⟩ := report
  obtain _ | @⟨_, first, _, _, hfirst, _ | @⟨_, second, _, _, hsecond,
    _ | @⟨_, third, _, _, hthird, _ | _⟩⟩⟩ := hentries
  have hvalid : first.isValid = true :=
    hfirst.isValid_iff.mpr ((hfirst.records nofun).trans (List.isEmpty_iff.mp hempty))
  have hinvalid : second.isValid = false := by
    rw [DocumentReport.isValid, hsecond.records nofun,
      Schema.validate_of_not_object hobject rfl rfl]
    rfl
  have hverdicts : [first, second, third].map DocumentReport.isValid = [true, false, false] := by
    simp only [List.map_cons, List.map_nil, hvalid, hinvalid, hthird.null rfl]
  have htwo : ([first, second, third].filter fun entry => !entry.isValid).length = 2 := by
    simp [hvalid, hinvalid, hthird.null rfl]
  have hall : [first, second, third].all DocumentReport.isValid = false := by
    simp only [List.all_cons, hvalid, hinvalid, Bool.false_and, Bool.and_false]
  refine ⟨_, hverdicts, hchecked, hcounted.trans htwo, ?_⟩
  rw [hrun, hall]
  rfl

end Command

end ControlProps
