import ControlProps.Documents.Basic
import ControlProps.Registry
import ControlProps.Text.Style

/-!
# Reports

A report lists what was found in each document that was checked as the properties of a control. A
document is valid if nothing was found in it. Reports are written as text or as JSON.
-/

namespace ControlProps

/-- What was found in one document. -/
structure DocumentReport where
  source : String
  records : List Record

/-- What was found in all documents. -/
structure Report where
  control : String
  strict : Bool
  documents : List DocumentReport

namespace DocumentReport

/-- Whether nothing was found. -/
def isValid (report : DocumentReport) : Bool := report.records.isEmpty

/-- The lines for one document: its verdict, and below it what was found. -/
def lines (colored : Bool) (report : DocumentReport) : List String :=
  if report.isValid then [Style.boldGreen.apply colored "ok" ++ " " ++ report.source]
  else
    (Style.boldRed.apply colored "invalid" ++
      s!" {report.source} ({report.records.length} error(s))") ::
    report.records.map fun record =>
      "  " ++ Style.yellow.apply colored record.path ++ " " ++ record.message

/-- A record as JSON. -/
def recordJson (record : Record) : Json :=
  .object [("path", .string record.path), ("message", .string record.message)]

/-- What was found in one document, as JSON. -/
def toJson (report : DocumentReport) : Json := .object [
  ("source", .string report.source),
  ("valid", .bool report.isValid),
  ("errors", .array (report.records.map recordJson))]

end DocumentReport

namespace Report

/-- The number of documents. -/
def checked (report : Report) : Nat := report.documents.length

/-- The number of documents in which something was found. -/
def invalid (report : Report) : Nat := report.documents.countP fun document => !document.isValid

/-- The last line of a report. -/
def summary (colored : Bool) (report : Report) : String :=
  (if report.invalid = 0 then Style.green else Style.red).apply colored
    s!"{report.checked} checked, {report.invalid} invalid"

/-- A report as text. -/
def toText (colored : Bool) (report : Report) : String :=
  "\n".intercalate
    (report.documents.flatMap (DocumentReport.lines colored) ++ [report.summary colored])

/-- A report as JSON, with the time at which it was made. -/
def toJson (time : String) (report : Report) : Json := .object [
  ("generated_at", .string time),
  ("control", .string report.control),
  ("strict", .bool report.strict),
  ("checked", .int report.checked),
  ("invalid", .int report.invalid),
  ("documents", .array (report.documents.map DocumentReport.toJson))]

end Report

namespace Registry

variable [SharedPatterns]

/-- What is found in a document. Only an object holds properties. -/
def checkDocument (type : String) (strict : Bool) (document : Document) :
    StateM Registry DocumentReport := do
  match Value.bag? document.value with
  | some bag => return ⟨document.source, ← validateProps type strict bag⟩
  | none =>
    let kind := (Value.ofJson document.value).kind
    return ⟨document.source, [⟨propsPath type, .notAnObject kind⟩]⟩

/-- What is found in documents, in their order. -/
def report (type : String) (strict : Bool) (documents : List Document) : StateM Registry Report :=
  return ⟨type, strict, ← documents.mapM (checkDocument type strict)⟩

end Registry

end ControlProps
