import PineCheck.Lint
import PineCheck.Value.Json.Encode
/-!
# Reports

A report holds the findings on one file under its path; it passes when no finding is an
error. A run holds the reports on several files. Reports are written as text, one line
`path:line:column - [SEVERITY] CODE - message` per finding, or as a JSON list of records
with the keys `file`, `line`, `column`, `code`, `message` and `severity`, in that order.
-/

namespace PineCheck

/-- The findings on one file. -/
structure Report where
  path : String
  diagnostics : List Diagnostic

namespace Report

/-- Lint a source text, or say why it could not be linted. -/
def ofText (s : Settings) (path : String) (content : String) : Except Uncaught Report :=
  (lintText s content.toList).map (⟨path, ·⟩)

/-- Whether no finding is an error. -/
def passed (r : Report) : Bool := !r.diagnostics.any (·.isError)

/-- The number of errors. -/
def errorCount (r : Report) : Nat := (r.diagnostics.filter (·.isError)).length

/-- The number of warnings. -/
def warningCount (r : Report) : Nat := (r.diagnostics.filter (!·.isError)).length

/-- The codes of the findings, in order. -/
def codes (r : Report) : List String := r.diagnostics.map (·.code.name)

/-- One line of text per finding. -/
def textLines (r : Report) : List String :=
  r.diagnostics.map fun d =>
    let path := r.path
    let line := d.line
    let column := d.column
    let severity := d.severity.label
    let code := d.code.name
    s!"{path}:{line}:{column} - [{severity}] {code} - " ++ d.message

end Report

/-- A finding as a record, without the path. -/
def Diagnostic.toValue (d : Diagnostic) : Value :=
  .object [(.str "line", .int d.line), (.str "column", .int d.column), (.str "code", .str d.code.name),
    (.str "message", .str d.message), (.str "severity", .str d.severity.label)]

/-- A finding as a record with the path of its file. -/
def Diagnostic.toRecord (path : String) (d : Diagnostic) : Value :=
  .object [(.str "file", .str path), (.str "line", .int d.line), (.str "column", .int d.column),
    (.str "code", .str d.code.name), (.str "message", .str d.message),
    (.str "severity", .str d.severity.label)]

/-- The findings of several reports as text lines joined by line feeds. -/
def formatText (reports : List Report) : String :=
  "\n".intercalate (reports.flatMap Report.textLines)

/-- The findings of several reports as an indented JSON list of records. -/
def formatJson (reports : List Report) : String :=
  Json.encode .indented
    (.list (reports.flatMap fun r => r.diagnostics.map (Diagnostic.toRecord r.path)))

/-- Whether every report passes. -/
def runPassed (reports : List Report) : Bool := reports.all Report.passed

end PineCheck
