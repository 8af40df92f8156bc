import ControlProps.Text.Parts

/-!
# Files around a program

A host is all that the program sees of files and of its input. Paths are texts; the parts of a path
are the names between its slashes.
-/

namespace ControlProps

/-- Why a file operation failed. -/
inductive FileFault where
  | notFound
  | alreadyExists
  | notADirectory
  | isADirectory
  | notText
  | other (description : String)
  deriving DecidableEq

/-- The wording of a fault, with the number that the system gives it. -/
def FileFault.message : FileFault → String
  | notFound => "No such file or directory (os error 2)"
  | alreadyExists => "File exists (os error 17)"
  | notADirectory => "Not a directory (os error 20)"
  | isADirectory => "Is a directory (os error 21)"
  | notText => "stream did not contain valid UTF-8"
  | other description => description

/-- What can be at a path. -/
inductive FileKind where
  | file
  | directory
  deriving DecidableEq

/-- What a program sees and changes of the files around it, in a monad of effects. -/
structure Host (m : Type → Type) where
  /-- The text of the file at a path. -/
  readText : String → m (Except FileFault String)
  /-- All of the input that has not been read yet. -/
  readInput : m (Except FileFault String)
  /-- What is at a path, if anything is. -/
  kindAt : String → m (Option FileKind)
  /-- The names in the directory at a path, in alphabetical order. -/
  namesIn : String → m (List String)
  /-- Makes a directory in one that is there already. -/
  createDirectory : String → m (Except FileFault Unit)
  /-- Makes or replaces the file at a path. -/
  writeText : String → String → m (Except FileFault Unit)

namespace Path

/-- The parts of a path. -/
def parts (path : String) : List String := (partsBetween '/' path.toList).map String.ofList

/-- The path with the given parts. -/
def ofParts (parts : List String) : String := "/".intercalate parts

/-- A part that leads nowhere. -/
def isVoid (part : String) : Bool := part.isEmpty || part == "."

/-- Parts in reverse order, without void ones at the end; the first part always counts. -/
def dropVoid : List String → List String
  | [] => []
  | [first] => [first]
  | last :: rest => if isVoid last then dropVoid rest else last :: rest

/-- The path of what a path is in; a lone name is in the empty path, and the root in nothing. -/
def parent? (path : String) : Option String :=
  match dropVoid (parts path).reverse with
  | [] | [""] => none
  | _ :: outer =>
    match dropVoid outer with
    | [""] => some "/"
    | outer => some (ofParts outer.reverse)

/-- A path and the paths of all that it is in, from inside to outside. -/
def ancestors (levels : Nat) (path : String) : List String :=
  match levels with
  | 0 => [path]
  | levels + 1 =>
    match parent? path with
    | some outer => path :: ancestors levels outer
    | none => [path]

/-- A path one name further in. -/
def join (path name : String) : String :=
  if path.endsWith "/" then path ++ name else path ++ "/" ++ name

end Path

namespace Host

variable {m : Type → Type} [Monad m] (host : Host m)

/-- Whether there is a directory at a path. -/
def isDirectory (path : String) : m Bool := return (← host.kindAt path) == some .directory

/-- Makes a directory, unless there is one. -/
def ensureDirectory (path : String) : m (Except FileFault Unit) := do
  match ← host.createDirectory path with
  | .ok _ => return .ok ()
  | .error fault => return if ← host.isDirectory path then .ok () else .error fault

/--
Makes the first of the given directories, which is in the second one, and so on. Those further out
are made only if those further in have no place yet; the empty path needs none.
-/
def ensureDirectories : List String → m (Except FileFault Unit)
  | [] => return .error (.other "failed to create whole tree")
  | path :: outer => do
    if path.isEmpty then return .ok ()
    match ← host.createDirectory path with
    | .ok _ => return .ok ()
    | .error .notFound =>
      match ← ensureDirectories outer with
      | .ok _ => host.ensureDirectory path
      | .error fault => return .error fault
    | .error fault => return if ← host.isDirectory path then .ok () else .error fault

/-- Makes a directory and all directories that it is in. -/
def createDirectories (path : String) : m (Except FileFault Unit) :=
  host.ensureDirectories (Path.ancestors path.length path)

end Host

end ControlProps
