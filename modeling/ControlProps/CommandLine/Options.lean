/-!
# Options of commands

A command takes options and operands. An option is written `--name` or, if it has a letter, `-x`;
its value follows as the next argument, behind `=`, or right behind the letter. What begins with a
hyphen is an option, unless it stands behind `--` or is a lone hyphen.
-/

namespace ControlProps

/-- Why arguments are not a command. Asking for help or for the version ends reading, too. -/
inductive UsageError where
  | unknownArgument
  | invalidValue
  | unneededValue
  | missingArgument
  | unknownSubcommand
  | missingSubcommand
  | repeated
  | help
  | helpForNothing
  | version
  deriving DecidableEq

/-- What an option takes and how often it can be given. -/
inductive OptionUse where
  /-- Takes nothing; at most once. -/
  | switch
  /-- Takes nothing; any number of times. -/
  | counter
  /-- Takes one value that is admitted; at most once. -/
  | value (admits : String → Bool)
  /-- Takes one or more values; any number of times. -/
  | values
  /-- Asks for help. -/
  | help
  /-- Asks for the version. -/
  | version

/-- Whether an option takes values. -/
def OptionUse.takesValue : OptionUse → Bool
  | value _ | values => true
  | _ => false

/-- An option. -/
structure OptionRule where
  name : String
  letter : Option Char
  use : OptionUse

/-- What is read of arguments so far. -/
structure Scan where
  /-- The options that are complete, with their values in order. -/
  given : List (String × List String)
  /-- The operands in order. -/
  operands : List String
  /-- The option whose values are being read, with the values read so far. -/
  pending : Option (OptionRule × List String)
  /-- Whether `--` was read. -/
  closed : Bool

namespace Scan

/-- Nothing is read yet. -/
def start : Scan := ⟨[], [], none, false⟩

/-- Whether an option is complete. -/
def has (scan : Scan) (name : String) : Bool := (scan.given.lookup name).isSome

/-- The values of an option. -/
def values (scan : Scan) (name : String) : List String := (scan.given.lookup name).getD []

/-- The value of an option. -/
def value? (scan : Scan) (name : String) : Option String := (scan.values name).head?

/-- Adds values to those that an option has. -/
def record (scan : Scan) (name : String) (values : List String) : Scan :=
  { scan with given := (name, scan.values name ++ values) ::
      scan.given.filter fun entry => entry.1 != name }

/-- Completes an option with its values. -/
def take (scan : Scan) (rule : OptionRule) (values : List String) : Except UsageError Scan :=
  match rule.use with
  | .help => .error .help
  | .version => .error .version
  | .counter => .ok (scan.record rule.name values)
  | .switch => if scan.has rule.name then .error .repeated else .ok (scan.record rule.name values)
  | .values => if values.isEmpty then .error .invalidValue else .ok (scan.record rule.name values)
  | .value admits =>
    if values.isEmpty then .error .invalidValue
    else if scan.has rule.name then .error .repeated
    else if values.all admits then .ok (scan.record rule.name values)
    else .error .invalidValue

/-- Completes the option whose values are being read. -/
def settle (scan : Scan) : Except UsageError Scan :=
  match scan.pending with
  | none => .ok scan
  | some (rule, values) => { scan with pending := none }.take rule values

/-- Begins an option, which completes the one before it. -/
def begin (scan : Scan) (rule : OptionRule) (value : Option String) : Except UsageError Scan := do
  let settled ← scan.settle
  match rule.use.takesValue, value with
  | true, none => return { settled with pending := some (rule, []) }
  | _, value => settled.take rule value.toList

/-- The option whose values are being read with one more value, if it can take one. -/
def withValue? (scan : Scan) (value : String) : Option Scan :=
  match scan.pending with
  | some (⟨name, letter, .value admits⟩, []) =>
    some { scan with pending := some (⟨name, letter, .value admits⟩, [value]) }
  | some (⟨name, letter, .values⟩, values) =>
    some { scan with pending := some (⟨name, letter, .values⟩, values ++ [value]) }
  | _ => none

/-- An option by its name, which an equals sign and a value may follow. -/
def long (rules : List OptionRule) (text : List Char) (scan : Scan) : Except UsageError Scan :=
  let name := String.ofList (text.takeWhile (· != '='))
  let value := match text.dropWhile (· != '=') with
    | '=' :: value => some (String.ofList value)
    | _ => none
  match rules.find? fun rule => rule.name == name with
  | none => .error .unknownArgument
  | some rule =>
    if value.isSome && !rule.use.takesValue then .error .unneededValue else scan.begin rule value

/-- Options by their letters; the value of the last one may follow it directly. -/
def letters (rules : List OptionRule) : List Char → Scan → Except UsageError Scan
  | [], scan => .ok scan
  | letter :: rest, scan =>
    match rules.find? fun rule => rule.letter == some letter with
    | none => .error .unknownArgument
    | some rule =>
      if rule.use.takesValue then
        match rest with
        | [] => scan.begin rule none
        | '=' :: value => scan.begin rule (some (String.ofList value))
        | value => scan.begin rule (some (String.ofList value))
      else do letters rules rest (← scan.begin rule none)

/-- Reads an argument as options, if it is written as such. -/
def options? (rules : List OptionRule) (argument : String) (scan : Scan) :
    Option (Except UsageError Scan) :=
  match argument.toList with
  | '-' :: '-' :: text => some (scan.long rules text)
  | '-' :: letter :: rest => some (letters rules (letter :: rest) scan)
  | _ => none

/-- Adds an operand, if fewer than `limit` are there. -/
def operand (limit : Nat) (argument : String) (scan : Scan) : Except UsageError Scan :=
  if scan.operands.length < limit then do
    let settled ← scan.settle
    return { settled with operands := settled.operands ++ [argument] }
  else .error .unknownArgument

/-- Reads one more argument of a command. -/
def argument (rules : List OptionRule) (limit : Nat) (scan : Scan) (argument : String) :
    Except UsageError Scan :=
  if scan.closed then scan.operand limit argument
  else if argument = "--" then .ok { scan with closed := true }
  else
    match scan.options? rules argument with
    | some result => result
    | none =>
      match scan.withValue? argument with
      | some scan => .ok scan
      | none => scan.operand limit argument

/-- Reads all arguments of a command. -/
def arguments (rules : List OptionRule) (limit : Nat) (arguments : List String) :
    Except UsageError Scan := do
  let scan ← arguments.foldlM (Scan.argument rules limit) Scan.start
  scan.settle

end Scan

end ControlProps
