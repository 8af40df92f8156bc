import ControlProps.Documents.Basic

/-!
# Finding and reading sources

Inputs are paths, glob patterns, or `-` for the input of the program. All of them are resolved to
paths before the first file is read.
-/

namespace ControlProps.Source

variable {m : Type → Type} [Monad m] (host : Host m)

/-- The path that stands for the input of the program. -/
def inputPath : String := "-"

/-- The paths that one input stands for. -/
def pathsOf (input : String) : m (Except LoadError (List String)) := do
  if !Glob.isPattern input then return .ok [input]
  match Glob.ofText input with
  | .error cause => return .error (.badPattern input cause)
  | .ok glob =>
    let paths ← glob.paths host
    return if paths.isEmpty then .error (.noMatch input) else .ok paths

/-- The paths that all inputs stand for, in their order. -/
def resolve : List String → m (Except LoadError (List String))
  | [] => return .ok []
  | input :: rest => do
    match ← pathsOf host input with
    | .error cause => return .error cause
    | .ok paths => return (← resolve rest).map fun others => paths ++ others

/-- The source at a path. -/
def read (path : String) : m (Except LoadError Source) := do
  if path = inputPath then
    match ← host.readInput with
    | .ok text => return .ok ⟨"<stdin>", text⟩
    | .error cause => return .error (.inputUnreadable cause)
  else
    match ← host.readText path with
    | .ok text => return .ok ⟨path, text⟩
    | .error cause => return .error (.unreadable path cause)

/-- The documents that a selection takes from the given inputs. -/
def load (selection : Selection) (inputs : List String) : m (Except LoadError (List Document)) := do
  match ← resolve host inputs with
  | .error cause => return .error cause
  | .ok paths => return selection.load (← paths.mapM (read host))

end ControlProps.Source
