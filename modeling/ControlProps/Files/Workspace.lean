import ControlProps.Engine.Patterns
import ControlProps.Entries
import ControlProps.Files.Basic

/-!
# Files in memory

A workspace holds files, the directory that relative paths start from, and an input. It is a host
without effects outside of itself. Commands that are run in one use the engine of expressions.
-/

namespace ControlProps

/-- Files and directories by name. -/
inductive FileTree where
  | file (text : String)
  | directory (entries : List (String × FileTree))
  deriving Inhabited

namespace FileTree

/-- What is at the end of a way of names. -/
def at? : List String → FileTree → Option FileTree
  | [], tree => some tree
  | name :: rest, directory entries => (entries.lookup name).bind (at? rest)
  | _ :: _, file _ => none

/-- Puts something at the end of a way of names, in directories that are made on the way. -/
def put : List String → FileTree → FileTree → FileTree
  | [], _, new => new
  | name :: rest, directory entries, new =>
    let entry := (entries.lookup name).getD (directory [])
    directory (Entries.set entries name (put rest entry new))
  | _ :: _, file text, _ => file text

/-- What kind of thing this is. -/
def kind : FileTree → FileKind
  | file _ => .file
  | directory _ => .directory

/-- The names in this, in alphabetical order. -/
def names : FileTree → List String
  | file _ => []
  | directory entries => (Entries.keys entries).mergeSort

mutual

/-- The paths and texts of all files, below the given path. -/
def texts (path : List String) : FileTree → List (String × String)
  | file text => [(Path.ofParts path, text)]
  | directory entries => textsOfEntries path entries

/-- The paths and texts of all files in the entries of the directory at the given path. -/
def textsOfEntries (path : List String) : List (String × FileTree) → List (String × String)
  | [] => []
  | (name, entry) :: rest => entry.texts (path ++ [name]) ++ textsOfEntries path rest

end

/--
The way of names that a path leads to, which may end where nothing is yet. The path is given by its
parts and starts at the directory `here`.
-/
def locate (tree : FileTree) (here : List String) : List String → Except FileFault (List String)
  | [] => .ok here
  | part :: rest =>
    match tree.at? here with
    | none => .error .notFound
    | some (file _) => .error .notADirectory
    | some (directory _) =>
      if Path.isVoid part then locate tree here rest
      else if part = ".." then locate tree here.dropLast rest
      else locate tree (here ++ [part]) rest

end FileTree

/-- Files, the directory in them that relative paths start from, and what can be read as input. -/
structure Workspace where
  files : FileTree
  here : List String
  input : String

namespace Workspace

/-- A directory `work` with the given files, and in it all relative paths start. -/
def ofTexts (texts : List (String × String)) (input : String) : Workspace :=
  let put (files : FileTree) (entry : String × String) : FileTree :=
    files.put ("work" :: Path.parts entry.1) (.file entry.2)
  ⟨texts.foldl put (.directory [("work", .directory [])]), ["work"], input⟩

/-- The way of names that a path leads to. -/
def locate (workspace : Workspace) (path : String) : Except FileFault (List String) :=
  if path.isEmpty then .error .notFound
  else if path.startsWith "/" then workspace.files.locate [] (Path.parts path)
  else workspace.files.locate workspace.here (Path.parts path)

/-- What is at a path. -/
def find (workspace : Workspace) (path : String) : Except FileFault FileTree := do
  match workspace.files.at? (← workspace.locate path) with
  | some tree => return tree
  | none => throw .notFound

/-- The text of the file at a path. -/
def readText (workspace : Workspace) (path : String) : Except FileFault String := do
  match ← workspace.find path with
  | .file text => return text
  | .directory _ => throw .isADirectory

/-- A new directory at a path. -/
def createDirectory (workspace : Workspace) (path : String) : Except FileFault Workspace := do
  let way ← workspace.locate path
  match workspace.files.at? way with
  | some _ => throw .alreadyExists
  | none => return { workspace with files := workspace.files.put way (.directory []) }

/-- A file with the given text at a path. A path that ends in a slash is no path of a file. -/
def writeText (workspace : Workspace) (path text : String) : Except FileFault Workspace :=
  match workspace.locate path with
  | .error fault =>
    .error (if fault = .notFound ∧ path.endsWith "/" then .isADirectory else fault)
  | .ok way =>
    match workspace.files.at? way with
    | some (.directory _) => .error .isADirectory
    | _ => .ok { workspace with files := workspace.files.put way (.file text) }

/-- The files below the directory that relative paths start from. -/
def texts (workspace : Workspace) : List (String × String) :=
  ((workspace.files.at? workspace.here).map (FileTree.texts [])).getD []

/-- Keeps the new workspace, if there is one. -/
def keep : Except FileFault Workspace → StateM Workspace (Except FileFault Unit)
  | .ok workspace => do
    set workspace
    return .ok ()
  | .error fault => return .error fault

/-- A workspace as the host of a program. -/
def host : Host (StateM Workspace) where
  readText path := return (← get).readText path
  readInput := modifyGet fun workspace => (.ok workspace.input, { workspace with input := "" })
  kindAt path := return ((← get).find path).toOption.map FileTree.kind
  namesIn path := return (((← get).find path).toOption.map FileTree.names).getD []
  createDirectory path := do keep ((← get).createDirectory path)
  writeText path text := do keep ((← get).writeText path text)

end Workspace

end ControlProps
