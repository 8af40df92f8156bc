import ControlProps.Files.Glob
import ControlProps.Json.Pointer
import ControlProps.Query.Basic
import ControlProps.Text.Blank

/-!
# Documents

A source is a text with a label. It holds one JSON value, or one on each line that is not blank. A
selection takes documents from each value: the part that a pointer leads to, and of this part all
answers of a query. The documents of several sources are those of the first, then those of the
second, and so on.
-/

namespace ControlProps

/-- One JSON value and where it came from. -/
structure Document where
  source : String
  value : Json

/-- A text and where it came from. -/
structure Source where
  label : String
  text : String

/-- Why documents could not be loaded. -/
inductive LoadError where
  | badPattern (pattern : String) (cause : GlobError)
  | noMatch (pattern : String)
  | unreadable (path : String) (cause : FileFault)
  | inputUnreadable (cause : FileFault)
  | notJson (label : String) (cause : FaultAt)
  | lineNotJson (label : String) (cause : FaultAt)
  | nothingSelected (pointer label : String)
  | queryFailed (label : String) (cause : QueryError)
  deriving DecidableEq

/-- The wording of an error. What was wrong with a query is not told. -/
def LoadError.message : LoadError → String
  | badPattern pattern cause => s!"invalid glob pattern: {pattern}: {cause.message}"
  | noMatch pattern => s!"glob pattern matched no files: {pattern}"
  | unreadable path cause => s!"failed to read source file {path}: {cause.message}"
  | inputUnreadable cause => s!"failed to read stdin: {cause.message}"
  | notJson label cause => s!"failed to parse JSON source ({label}): {cause.message}"
  | lineNotJson label cause => s!"failed to parse NDJSON line ({label}): {cause.message}"
  | nothingSelected pointer label => s!"JSON pointer {pointer} selects nothing in {label}"
  | queryFailed label _ => s!"failed to apply jq expression to {label}"

/-- How documents are taken from sources. -/
structure Selection where
  /-- Whether each line holds a value of its own. -/
  byLine : Bool
  /-- The text of the pointer to the part that is taken. -/
  pointer : Option String
  /-- What is asked of this part. -/
  query : Option (Json → Except QueryError (List Json))

/-- A JSON value and the label it goes by. -/
abbrev Labelled := String × Json

namespace Source

/--
The lines of a text without the characters that end them. A text that ends in a newline has no line
behind it.
-/
def lines (text : List Char) : List (List Char) :=
  match (partsBetween '\n' text).reverse with
  | [] => []
  | last :: ended => (ended.reverse.map withoutReturn) ++ (if last.isEmpty then [] else [last])
where
  /-- A line without the carriage return that may stand before its end. -/
  withoutReturn (line : List Char) : List Char :=
    match line.reverse with
    | '\r' :: rest => rest.reverse
    | _ => line

/-- The lines that are not blank, with their numbers; the first line has the given number. -/
def numbered (number : Nat) : List (List Char) → List (Nat × List Char)
  | [] => []
  | line :: rest =>
    if (trimBlanks line).isEmpty then numbered (number + 1) rest
    else (number, line) :: numbered (number + 1) rest

/-- The label of a line. -/
def lineLabel (source : Source) (number : Nat) : String := s!"{source.label}:{number}"

/-- The value on a line. -/
def valueOfLine (source : Source) (line : Nat × List Char) : Except LoadError Labelled :=
  let label := source.lineLabel line.1
  match Json.parse (String.ofList line.2) with
  | .ok value => .ok (label, value)
  | .error cause => .error (.lineNotJson label cause)

/-- The values of a source in order. -/
def values (source : Source) (byLine : Bool) : Except LoadError (List Labelled) :=
  if byLine then (numbered 1 (lines source.text.toList)).mapM source.valueOfLine
  else
    match Json.parse source.text with
    | .ok value => .ok [(source.label, value)]
    | .error cause => .error (.notJson source.label cause)

end Source

namespace Selection

/-- The part of a value that the pointer leads to. -/
def part (selection : Selection) (labelled : Labelled) : Except LoadError Json :=
  match selection.pointer with
  | none => .ok labelled.2
  | some text =>
    match (Pointer.ofText? text).bind fun pointer => pointer.resolve? labelled.2 with
    | some part => .ok part
    | none => .error (.nothingSelected text labelled.1)

/-- Documents for the answers of a query; several answers are numbered from zero. -/
def label (source : String) (answers : List Json) : List Document :=
  match answers with
  | [answer] => [⟨source, answer⟩]
  | _ => answers.mapIdx fun number answer => ⟨s!"{source}#{number}", answer⟩

/-- The documents of a value. -/
def documentsOf (selection : Selection) (labelled : Labelled) : Except LoadError (List Document) :=
  match selection.part labelled with
  | .error cause => .error cause
  | .ok part =>
    match selection.query with
    | none => .ok [⟨labelled.1, part⟩]
    | some query =>
      match query part with
      | .ok answers => .ok (label labelled.1 answers)
      | .error cause => .error (.queryFailed labelled.1 cause)

/-- The documents of a source. Its values are all read before the first of them is used. -/
def documents (selection : Selection) (source : Source) : Except LoadError (List Document) := do
  let values ← source.values selection.byLine
  let documents ← values.mapM selection.documentsOf
  return documents.flatten

/-- The documents of all sources, or the first error in their order. -/
def load (selection : Selection) (sources : List (Except LoadError Source)) :
    Except LoadError (List Document) := do
  let documents ← sources.mapM fun source => do selection.documents (← source)
  return documents.flatten

end Selection

end ControlProps
