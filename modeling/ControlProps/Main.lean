import ControlProps.CommandLine.Run
import ControlProps.Engine.Patterns
import Std.Time.Format

/-!
# The program

This is the outer layer: it reads the arguments and the environment, lends a command the files of
the system, and prints what comes of it.
-/

namespace ControlProps.Program

/-- The place of a path, seen from the current directory. -/
def located (path : String) := do return (← IO.currentDir) / path

/-- A fault of the system as a fault of a host. -/
def faultOf : IO.Error → FileFault
  | .noFileOrDirectory .. => .notFound
  | .alreadyExists .. => .alreadyExists
  | .inappropriateType .. => .notADirectory
  | other => .other (toString other)

/-- What an operation of the system gives, or its fault. -/
def guarded {α : Type} (operation : IO α) : IO (Except FileFault α) := do
  try return .ok (← operation) catch error => return .error (faultOf error)

/-- What is at a path. -/
def kindAt (path : String) : IO (Option FileKind) := do
  if path.isEmpty then return none
  match ← guarded (do return (← (← located path).metadata).type) with
  | .ok .dir => return some .directory
  | .ok _ => return some .file
  | .error _ => return none

/-- The text that bytes spell. -/
def textOf (bytes : ByteArray) : Except FileFault String :=
  match String.fromUTF8? bytes with
  | some text => .ok text
  | none => .error .notText

/-- An operation on the file at a path, where no directory may be. -/
def onFile {α : Type} (path : String) (operation : IO α) : IO (Except FileFault α) := do
  if path.isEmpty then return .error .notFound
  if (← kindAt path) == some .directory then return .error .isADirectory
  guarded operation

/-- All bytes that are left of a stream, behind those that are read already. -/
partial def remaining (stream : IO.FS.Stream) (read : ByteArray) : IO ByteArray := do
  let bytes ← stream.read 65536
  if bytes.isEmpty then return read else remaining stream (read ++ bytes)

/-- The files of the system. -/
def host : Host IO where
  readText path := return (← onFile path do IO.FS.readBinFile (← located path)).bind textOf
  readInput := return (← guarded do remaining (← IO.getStdin) .empty).bind textOf
  kindAt := kindAt
  namesIn path := do
    match ← guarded (do (← located path).readDir) with
    | .ok entries => return (entries.toList.map IO.FS.DirEntry.fileName).mergeSort
    | .error _ => return []
  createDirectory path := guarded do IO.FS.createDir (← located path)
  writeText path text := onFile path do IO.FS.writeFile (← located path) text

/-- The time, to the second and its parts, as reports give it. -/
def time : IO String := do
  let now ← Std.Time.Timestamp.now
  let moment := Std.Time.PlainDateTime.ofWallTime
    (Std.Time.WallTime.ofTimestamp now Std.Time.TimeZone.Offset.zero)
  return moment.format "uuuu-MM-dd" ++ "T" ++ moment.format "HH:mm:ss.SSSSSSSSS" ++ "+00:00"

/-- Whether the environment asks for colours, or leaves them to be shown on terminals only. -/
def isColored : IO Bool := do
  let isOn (value : Option String) : Bool := value.any (· != "0")
  if isOn (← IO.getEnv "CLICOLOR_FORCE") then return true
  if (← IO.getEnv "NO_COLOR").isSome then return false
  let isWanted := (← IO.getEnv "CLICOLOR").all (· != "0")
  return isWanted && (← (← IO.getStdout).isTty)

/-- How the program is called. -/
def usage : String := String.join [
  "Usage: control-contract [OPTIONS] <COMMAND>\n\n",
  "Commands:\n",
  "  validate   validate property bags for one control type\n",
  "  schema     print the composed schema of a control type as JSON Schema\n",
  "  normalize  coerce one JSON literal with a named normalizer\n",
  "  list       list the control types of a catalog\n"]

/-- Says what is wrong with the arguments, or what was asked for instead of a command. -/
def explain : UsageError → IO UInt32
  | .help => do
    IO.print usage
    return 0
  | .version => do
    IO.println "control-contract 0.1.0"
    return 0
  | .helpForNothing => do
    IO.eprint usage
    return 2
  | cause => do
    IO.eprintln s!"error: {wording cause}\n"
    IO.eprint usage
    return 2
where
  /-- The wording of what is wrong. -/
  wording : UsageError → String
    | .unknownArgument => "unexpected argument"
    | .invalidValue => "invalid or missing value of an option"
    | .unneededValue => "an option has a value that it does not take"
    | .missingArgument => "a required argument is missing"
    | .unknownSubcommand => "unrecognized command"
    | .missingSubcommand => "a command is required"
    | .repeated => "an option is given more than once"
    | .help | .helpForNothing | .version => ""

/-- Runs the command that the arguments ask for and gives the status to end with. -/
def run (arguments : List String) : IO UInt32 := do
  match Command.ofArguments (← IO.getEnv Command.strictVariable) arguments with
  | .error cause => explain cause
  | .ok command =>
    let colored ← isColored
    match ← (command.run host ⟨colored, ← time⟩).run with
    | .ok outcome =>
      IO.print outcome.output
      return if outcome.valid then 0 else 1
    | .error cause =>
      IO.eprintln (Style.boldRed.apply colored "error:" ++ " " ++ cause.message)
      return 2

end ControlProps.Program

/-- The program. -/
def main (arguments : List String) : IO UInt32 := ControlProps.Program.run arguments
