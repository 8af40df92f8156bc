import ControlProps.CommandLine.Options
import ControlProps.Documents.Basic
import ControlProps.Geometry.Normalizer
import ControlProps.Query.Reader

/-!
# Commands

The program validates documents, shows the schema of a control, normalizes one value, or lists the
controls of a catalog. `Command.ofArguments` reads which of them is asked for.
-/

namespace ControlProps

/-- How a report is written. -/
inductive ReportFormat where
  | text
  | json
  deriving DecidableEq

/-- What to check as the properties of which control, and where the report goes. -/
structure ValidateCommand where
  catalog : String
  control : String
  strict : Bool
  inputs : List String
  selection : Selection
  format : ReportFormat
  out : Option String

/-- A command of the program. -/
inductive Command where
  | validate (command : ValidateCommand)
  | schema (catalog control : String) (out : Option String)
  | normalize (normalizer : Normalizer) (strict : Bool) (literal : String)
  | list (catalog : String)

/-- The formats of reports by their names. -/
def ReportFormat.named : List (String × ReportFormat) := [("text", text), ("json", json)]

/-- The normalizers by the names that the command line gives them. -/
def Normalizer.named : List (String × Normalizer) := [
  ("dimension", dimension), ("padding", padding), ("alignment", alignment), ("offset", offset),
  ("scale", scale), ("skew", skew), ("color-matrix", colorMatrix), ("frame", frame)]

namespace Command

/-- The name of a command. -/
inductive Name where
  | validate
  | schema
  | normalize
  | list
  deriving DecidableEq

/-- The commands by name. -/
def names : List (String × Name) :=
  [("validate", .validate), ("schema", .schema), ("normalize", .normalize), ("list", .list)]

/-- Any text. -/
def anyText : OptionUse := .value fun _ => true

/-- A text that can be a path. -/
def anyPath : OptionUse := .value fun text => !text.isEmpty

/-- One of the given names. -/
def oneOf {α : Type} (named : List (String × α)) : OptionUse :=
  .value fun text => (named.lookup text).isSome

/-- The options of every command. -/
def sharedRules : List OptionRule :=
  [⟨"verbose", some 'v', .counter⟩, ⟨"help", some 'h', .help⟩]

/-- The options before the name of a command. -/
def outerRules : List OptionRule := ⟨"version", some 'V', .version⟩ :: sharedRules

/-- The options of a command. -/
def Name.rules : Name → List OptionRule
  | validate => [⟨"catalog", none, anyPath⟩, ⟨"control", none, anyText⟩, ⟨"strict", none, .switch⟩,
      ⟨"ndjson", none, .switch⟩, ⟨"json-pointer", none, anyText⟩, ⟨"jq-expr", none, anyText⟩,
      ⟨"input", some 'i', .values⟩, ⟨"format", none, oneOf ReportFormat.named⟩,
      ⟨"out", some 'o', anyPath⟩] ++ sharedRules
  | schema => [⟨"catalog", none, anyPath⟩, ⟨"control", none, anyText⟩,
      ⟨"out", some 'o', anyPath⟩] ++ sharedRules
  | normalize => [⟨"kind", none, oneOf Normalizer.named⟩, ⟨"strict", none, .switch⟩] ++ sharedRules
  | list => ⟨"catalog", none, anyPath⟩ :: sharedRules

/-- How many operands a command takes. -/
def Name.operands : Name → Nat
  | normalize => 1
  | _ => 0

/-- A part of a command that must be given. -/
def required {α : Type} (part : Option α) : Except UsageError α :=
  match part with
  | some part => .ok part
  | none => .error .missingArgument

/-- Whether to be strict: as the option says or, without it, the setting of the environment. -/
def strictness (setting : Option String) (scan : Scan) : Except UsageError Bool :=
  if scan.has "strict" then .ok true
  else
    match setting with
    | none | some "false" => .ok false
    | some "true" => .ok true
    | some _ => .error .invalidValue

/-- The command of a name whose arguments are read. -/
def ofScan (setting : Option String) (scan : Scan) : Name → Except UsageError Command
  | .validate => do
    let strict ← strictness setting scan
    let catalog ← required (scan.value? "catalog")
    let control ← required (scan.value? "control")
    let _ ← required (scan.value? "input")
    let format := (scan.value? "format").bind fun name => ReportFormat.named.lookup name
    let query := (scan.value? "jq-expr").map Query.runText
    return .validate {
      catalog, control, strict
      format := format.getD .text
      inputs := scan.values "input"
      selection := ⟨scan.has "ndjson", scan.value? "json-pointer", query⟩
      out := scan.value? "out" }
  | .schema => do
    let catalog ← required (scan.value? "catalog")
    let control ← required (scan.value? "control")
    return .schema catalog control (scan.value? "out")
  | .normalize => do
    let strict ← strictness setting scan
    let normalizer ← required ((scan.value? "kind").bind fun name => Normalizer.named.lookup name)
    let literal ← required scan.operands.head?
    return .normalize normalizer strict literal
  | .list => return .list (← required (scan.value? "catalog"))

/-- The answer to a call for help on the command that the given words name. -/
def helpOn : List String → UsageError
  | [] => .help
  | [word] => if word = "help" ∨ (names.lookup word).isSome then .help else .unknownSubcommand
  | _ => .unknownSubcommand

/-- The command that arguments ask for, behind those that are read already. -/
def readOuter (setting : Option String) (scan : Scan) : List String → Except UsageError Command
  | [] => .error (if scan.given.isEmpty then .helpForNothing else .missingSubcommand)
  | word :: rest =>
    let known := word = "help" ∨ (names.lookup word).isSome
    if scan.closed then .error (if known then .unknownArgument else .unknownSubcommand)
    else if word = "--" then readOuter setting { scan with closed := true } rest
    else
      match scan.options? outerRules word with
      | some (.error cause) => .error cause
      | some (.ok scan) => readOuter setting scan rest
      | none =>
        match names.lookup word with
        | some name => do
          ofScan setting (← Scan.arguments name.rules name.operands rest) name
        | none => .error (if word = "help" then helpOn rest else .unknownSubcommand)

/-- The variable of the environment that holds the setting for strictness. -/
def strictVariable : String := "CONTROL_CONTRACT_STRICT"

/-- The command that arguments ask for, under the given setting for strictness. -/
def ofArguments (setting : Option String) (arguments : List String) :
    Except UsageError Command := readOuter setting .start arguments

end Command

end ControlProps
