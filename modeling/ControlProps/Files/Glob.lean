import ControlProps.Files.Basic

/-!
# Glob patterns

A glob pattern is a path in which `?` stands for one character of a name, `*` for any number of
them, brackets for one character of a set, and the whole part `**` for any number of directories.
-/

namespace ControlProps

/-- A part of the pattern of a name. -/
inductive GlobToken where
  | char (c : Char)
  | anyChar
  | anyRun
  | oneOf (ranges : List (Char × Char))
  | noneOf (ranges : List (Char × Char))
  | everywhere
  deriving DecidableEq

/-- What can be wrong with a glob pattern. -/
inductive GlobFault where
  | tooManyStars
  | partialEverywhere
  | unclosedSet
  deriving DecidableEq

/-- The wording of a fault. -/
def GlobFault.message : GlobFault → String
  | tooManyStars => "wildcards are either regular `*` or recursive `**`"
  | partialEverywhere => "recursive wildcards must form a single path component"
  | unclosedSet => "invalid range pattern"

/-- A fault with its place: the number of characters before it. -/
structure GlobError where
  place : Nat
  fault : GlobFault
  deriving DecidableEq

/-- The wording of a fault and of its place. -/
def GlobError.message (error : GlobError) : String :=
  s!"Pattern syntax error near position {error.place}: {error.fault.message}"

namespace GlobToken

/-- The ranges between the brackets of a set. -/
def ranges : List Char → List (Char × Char)
  | low :: '-' :: high :: rest => (low, high) :: ranges rest
  | c :: rest => (c, c) :: ranges rest
  | [] => []

/-- What is between the brackets of a set and what is behind them; at least one character is. -/
def readSet : List Char → Option (List (Char × Char) × List Char)
  | first :: rest =>
    match rest.dropWhile (· != ']') with
    | ']' :: behind => some (ranges (first :: rest.takeWhile (· != ']')), behind)
    | _ => none
  | [] => none

/-- A set behind its opening bracket, and what follows it; `!` takes the complement. -/
def readBrackets : List Char → Option (GlobToken × List Char)
  | '!' :: rest => (readSet rest).map fun (ranges, behind) => (noneOf ranges, behind)
  | rest => (readSet rest).map fun (ranges, behind) => (oneOf ranges, behind)

/--
The tokens of a pattern. The first of them follows the character `before`, if there is one, and
stands at the given place. Each token takes one unit of `fuel`.
-/
def read (fuel place : Nat) (before : Option Char) (text : List Char) :
    Except GlobError (List GlobToken) :=
  match fuel, text with
  | 0, _ | _, [] => .ok []
  | fuel + 1, '?' :: rest => do
    let tokens ← read fuel (place + 1) (some '?') rest
    return anyChar :: tokens
  | _ + 1, '*' :: '*' :: '*' :: _ => .error ⟨place + 2, .tooManyStars⟩
  | fuel + 1, '*' :: '*' :: rest =>
    if before.any (· != '/') then .error ⟨place - 1, .partialEverywhere⟩
    else
      match rest with
      | [] => .ok [everywhere]
      | '/' :: rest => do
        let tokens ← read fuel (place + 3) (some '/') rest
        return everywhere :: tokens
      | _ => .error ⟨place + 2, .partialEverywhere⟩
  | fuel + 1, '*' :: rest => do
    let tokens ← read fuel (place + 1) (some '*') rest
    return anyRun :: tokens
  | fuel + 1, '[' :: rest =>
    match readBrackets rest with
    | none => .error ⟨place, .unclosedSet⟩
    | some (token, behind) => do
      let tokens ← read fuel (place + 1 + (rest.length - behind.length)) (some ']') behind
      return token :: tokens
  | fuel + 1, c :: rest => do
    let tokens ← read fuel (place + 1) (some c) rest
    return char c :: tokens

/-- The tokens of a whole pattern. -/
def ofText (text : List Char) : Except GlobError (List GlobToken) := read text.length 0 none text

/-- Whether a character is in one of the ranges. -/
def within (ranges : List (Char × Char)) (c : Char) : Bool :=
  ranges.any fun (low, high) => low ≤ c && c ≤ high

/-- What is left of a text behind each of its beginnings. -/
def suffixes : List Char → List (List Char)
  | [] => [[]]
  | c :: rest => (c :: rest) :: suffixes rest

/-- Whether a token stands for the given character. -/
def admits : GlobToken → Char → Bool
  | char d, c => c == d
  | anyChar, _ => true
  | oneOf ranges, c => within ranges c
  | noneOf ranges, c => !within ranges c
  | anyRun, _ | everywhere, _ => false

/-- Whether tokens stand for a whole name. -/
def matchName : List GlobToken → List Char → Bool
  | [], name => name.isEmpty
  | anyRun :: rest, name | everywhere :: rest, name => (suffixes name).any (matchName rest)
  | token :: rest, c :: name => token.admits c && matchName rest name
  | _ :: _, [] => false

/-- The name that tokens stand for, if they stand for a single one. -/
def literal? : List GlobToken → Option (List Char)
  | [] => some []
  | char c :: rest => (literal? rest).map (c :: ·)
  | _ => none

end GlobToken

/-- A part of a glob pattern: the pattern of one name, or any number of directories. -/
inductive GlobPart where
  | name (tokens : List GlobToken)
  | everywhere
  deriving DecidableEq

/-- A glob pattern. With `directoriesOnly`, it stands for directories alone. -/
structure Glob where
  absolute : Bool
  parts : List GlobPart
  directoriesOnly : Bool
  deriving DecidableEq

namespace Glob

/-- The characters that make a path a glob pattern. -/
def isPattern (path : String) : Bool := path.toList.any ['*', '?', '[', '\x7b'].contains

/-- One part of a pattern. -/
def readPart (text : List Char) : Except GlobError GlobPart :=
  (GlobToken.ofText text).map fun tokens =>
    if tokens = [.everywhere] then .everywhere else .name tokens

/-- Several parts in a row that stand for any directories are as good as one. -/
def collapse : List GlobPart → List GlobPart
  | .everywhere :: rest =>
    match collapse rest with
    | .everywhere :: rest => .everywhere :: rest
    | rest => .everywhere :: rest
  | part :: rest => part :: collapse rest
  | [] => []

/-- The parts of a path, without the empty one behind a slash at its end. -/
def texts (path : List Char) : List (List Char) :=
  match (partsBetween '/' path).reverse with
  | [] :: rest => rest.reverse
  | parts => parts.reverse

/-- The pattern that a text spells; both the whole and each of its parts have to be a pattern. -/
def ofText (text : String) : Except GlobError Glob := do
  let _ ← GlobToken.ofText text.toList
  let (absolute, path) : Bool × List Char :=
    match text.toList with
    | '/' :: rest => (true, rest)
    | path => (false, path)
  let parts ← (texts path).mapM readPart
  return ⟨absolute, collapse parts, text.endsWith "/"⟩

/-- No path has more names than this. -/
def levelLimit : Nat := 2048

/-- The path of a name in a directory; names in the current directory stand alone. -/
def child (path name : String) : String := if path = "." then name else Path.join path name

section

variable {m : Type → Type} [Monad m] (host : Host m)

/-- What `visit` gives for everything below a directory, outer things before inner ones. -/
def below (visit : String → String → Bool → m (List String)) : Nat → String → m (List String)
  | 0, _ => return []
  | levels + 1, path => do
    (← host.namesIn path).flatMapM fun name => do
      let inner := child path name
      let isDirectory ← host.isDirectory inner
      let own ← visit inner name isDirectory
      let deeper ← if isDirectory then below visit levels inner else pure []
      return own ++ deeper

/-- The names for the directory itself and for the one around it; a pattern must ask for them. -/
def specialNames : List GlobToken → List String
  | .char '.' :: rest => ["..", "."].filter fun name =>
    GlobToken.matchName (.char '.' :: rest) name.toList
  | _ => []

/-- The paths below a path that parts of a pattern stand for, in alphabetical order. -/
def pathsFrom (directoriesOnly : Bool) : List GlobPart → String → m (List String)
  | [], path => do
    if directoriesOnly && !(← host.isDirectory path) then return [] else return [path]
  | .everywhere :: rest, path => do
    if !(← host.isDirectory path) then return []
    below host (fun inner name isDirectory =>
      match rest with
      | .name tokens :: rest =>
        if GlobToken.matchName tokens name.toList then pathsFrom directoriesOnly rest inner
        else pure []
      | _ => pure (if isDirectory then [inner] else [])) levelLimit path
  | .name tokens :: rest, path => do
    let isDirectory ← host.isDirectory path
    match GlobToken.literal? tokens with
    | some name =>
      let inner := child path (String.ofList name)
      let found ← host.kindAt inner
      let isThere := if name = ['.'] ∨ name = ['.', '.'] then isDirectory else found.isSome
      if isThere then pathsFrom directoriesOnly rest inner else return []
    | none =>
      if !isDirectory then return []
      let special ← (specialNames tokens).flatMapM fun name =>
        pathsFrom directoriesOnly rest (Path.join path name)
      let names := (← host.namesIn path).filter fun name => GlobToken.matchName tokens name.toList
      let others ← names.flatMapM fun name => pathsFrom directoriesOnly rest (child path name)
      return special ++ others

/-- The paths that a pattern stands for. -/
def paths (glob : Glob) : m (List String) :=
  match glob.absolute, glob.parts with
  | _, [] => return []
  | true, parts => pathsFrom host glob.directoriesOnly parts "/"
  | false, parts => pathsFrom host glob.directoriesOnly parts "."

end

end Glob

end ControlProps
