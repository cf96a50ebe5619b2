import PineCheck.Report
import PineCheck.Workspace.Text
/-!
# Linting files of the workspace

Each path is read as a text file and linted; a file that cannot be read gets a report with
one `E_IO` error at line 1 that gives the reason. A run over several paths keeps their
reports in order, passes when every report passes, and counts all errors and warnings.
-/

namespace PineCheck

/-- The report on one file of the workspace, under the path as given, or why it could not
be linted. -/
def lintFile (s : Settings) (w : Workspace) (path : String) : Except Uncaught Report :=
  match w.readText (RelPath.parse path) with
  | .error e => .ok ⟨path, [Diagnostic.make .unreadable ("Unable to read file: " ++ e.message) 1 1]⟩
  | .ok text => Report.ofText s path text

/-- The reports on several files, in order, or the first failure to lint one. -/
def lintFiles (s : Settings) (w : Workspace) (paths : List String) : Except Uncaught (List Report) :=
  paths.mapM (lintFile s w)

/-- The number of errors in all reports. -/
def totalErrors (reports : List Report) : Nat := (reports.map Report.errorCount).foldr (· + ·) 0

/-- The number of warnings in all reports. -/
def totalWarnings (reports : List Report) : Nat := (reports.map Report.warningCount).foldr (· + ·) 0

end PineCheck
