import ControlProps.Catalog.Document
import ControlProps.CommandLine.Command
import ControlProps.Documents.Sources
import ControlProps.Json.Printer
import ControlProps.Report
import ControlProps.Schema.Emission

/-!
# Running commands

A command reads files through its host and gives what it writes to the output. It fails with the
first thing that goes wrong; what it has found in documents is no failure.
-/

namespace ControlProps

/-- Why a command failed. -/
inductive CommandError where
  | catalogUnreadable (path : String) (cause : FileFault)
  | catalogInvalid (path : String) (cause : CatalogError)
  | unknownControl (type : String) (known : List String)
  | loading (cause : LoadError)
  | coercion (cause : CoercionError)
  | directoryNotMade (path : String) (cause : FileFault)
  | notWritten (path : String) (cause : FileFault)

/-- What is said behind the wording of a catalog error: a schema error once more. -/
def CatalogError.echo : CatalogError → String
  | schema _ ⟨_, .patternInvalid⟩ => ""
  | schema _ cause => ": " ++ cause.message
  | decode _ => ""

/-- The wording of a failure, which says the innermost cause of a catalog error twice. -/
def CommandError.message : CommandError → String
  | catalogUnreadable path cause =>
    s!"failed to load catalog {path}: failed to read catalog {path}: {cause.message}" ++
      s!": {cause.message}"
  | catalogInvalid path cause => s!"failed to load catalog {path}: {cause.message}{cause.echo}"
  | unknownControl type known =>
    s!"unknown control type `{type}` (catalog has: " ++ ", ".intercalate known ++ ")"
  | loading cause => cause.message
  | coercion cause => cause.message
  | directoryNotMade path cause => s!"failed to create {path}: {cause.message}"
  | notWritten path cause => s!"failed to write {path}: {cause.message}"

/-- What a command wrote to the output, and whether all was found to be valid. -/
structure Outcome where
  output : String
  valid : Bool

/-- What a run depends on besides files. -/
structure RunSettings where
  /-- Whether the output shows colours. -/
  colored : Bool
  /-- The time that is put into reports. -/
  time : String

namespace Command

variable [SharedPatterns]

/-- The value that a word of the command line stands for: JSON, or else the word itself. -/
def valueOf (literal : String) : Value :=
  match Json.parse literal with
  | .ok json => .ofJson json
  | .error _ => .string literal

/-- One line for each control of a catalog, with the hints that there are. -/
def listing (colored : Bool) (catalog : Catalog) : String :=
  String.join (catalog.controls.map fun (type, control) =>
    if control.hints.isEmpty then type ++ "\n"
    else
      let hints := "(hints: " ++ ", ".intercalate control.hints ++ ")"
      type ++ " " ++ Style.faint.apply colored hints ++ "\n")

/-- A report in the given format. -/
def written (settings : RunSettings) (colored : Bool) (report : Report) : ReportFormat → String
  | .text => report.toText colored
  | .json => (report.toJson settings.time).pretty

/-- The schema of a control, which the catalog must have. -/
def requireControl (registry : Registry) (type : String) :
    Except CommandError (Schema × Registry) :=
  match (Registry.schemaFor type).run registry with
  | (some composed, registry) => .ok (composed, registry)
  | (none, registry) => .error (.unknownControl type registry.catalog.types)

section

variable {m : Type → Type} [Monad m] (host : Host m)

/-- A step of a command that can fail. -/
abbrev Action (m : Type → Type) := ExceptT CommandError m

/-- A step that fails as an operation of the host does. -/
def attempt {α ε : Type} (failure : ε → CommandError) (step : m (Except ε α)) : Action m α :=
  ExceptT.mk do return (← step).mapError failure

/-- The registry of the catalog at a path. -/
def loadRegistry (path : String) : Action m Registry := do
  let text ← attempt (.catalogUnreadable path) (host.readText path)
  let catalog ← ExceptT.mk (pure ((Catalog.ofText text).mapError (.catalogInvalid path)))
  return Registry.ofCatalog catalog ValidationOptions.defaultDepth

/-- Writes a text to the file at a path, or else gives it as output with the end of a line. -/
def emit (out : Option String) (text : String) : Action m String := do
  match out with
  | none => return text ++ "\n"
  | some path =>
    if let some outer := Path.parent? path then
      attempt (.directoryNotMade outer) (host.createDirectories outer)
    attempt (.notWritten path) (host.writeText path text)
    return ""

/-- Checks documents and reports on them. -/
def runValidate (settings : RunSettings) (command : ValidateCommand) : Action m Outcome := do
  let registry ← loadRegistry host command.catalog
  let (_, registry) ← ExceptT.mk (pure (requireControl registry command.control))
  let documents ← attempt .loading (Source.load host command.selection command.inputs)
  let (report, _) := (Registry.report command.control command.strict documents).run registry
  let colored := settings.colored && command.out.isNone
  let output ← emit host command.out (written settings colored report command.format)
  return ⟨output, report.invalid = 0⟩

/-- Runs a command. -/
def run (settings : RunSettings) : Command → Action m Outcome
  | validate command => runValidate host settings command
  | schema catalog control out => do
    let registry ← loadRegistry host catalog
    let (composed, _) ← ExceptT.mk (pure (requireControl registry control))
    return ⟨← emit host out composed.toJson.pretty, true⟩
  | normalize normalizer strict literal => do
    let shaped ← ExceptT.mk (pure ((normalizer.apply strict (valueOf literal)).mapError .coercion))
    return ⟨(shaped.getD .null).toJson.compress ++ "\n", true⟩
  | list catalog => do
    let registry ← loadRegistry host catalog
    return ⟨listing settings.colored registry.catalog, true⟩

end

end Command

end ControlProps
