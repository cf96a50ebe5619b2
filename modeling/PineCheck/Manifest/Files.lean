import PineCheck.Manifest.Basic
import PineCheck.Workspace.Text
import PineCheck.Value.Json.Decode
import PineCheck.Settings.Basic
/-!
# Strategy directories

Each directory under `strategies/` holds one strategy and must ship three files:
`manifest.json`, `README.md` and `strategy.pine`. A missing file is a problem of its own, and
a manifest that is there must read as JSON and pass `Manifest.check`; a manifest that cannot
be read or parsed is one problem. A manifest nested deeper than the JSON reader goes is no
problem of the strategy: it stops the whole check with that failure.
-/

namespace PineCheck

/-- The files every strategy directory must hold, in the order they are checked. -/
def requiredStrategyFiles : List String := ["manifest.json", "README.md", "strategy.pine"]

/-- The problems of a manifest file. -/
def manifestFileProblems (w : Workspace) (p : RelPath) : Except Uncaught (List String) :=
  match w.readText p with
  | .error e => .ok ["Invalid JSON: " ++ e.message]
  | .ok text =>
    match Json.decodeFile text with
    | .error (.inl message) => .ok ["Invalid JSON: " ++ message]
    | .error (.inr message) => .error ⟨"RecursionError", message⟩
    | .ok v => .ok (manifestProblems v)

/-- The problems of a strategy directory: missing files, then those of its manifest. -/
def strategyDirProblems (w : Workspace) (dir : RelPath) : Except Uncaught (List String) := do
  let missing := requiredStrategyFiles.filterMap fun f =>
    if w.hasEntry (dir ++ [f]) then none else some ("Missing " ++ f)
  let manifest := dir ++ ["manifest.json"]
  return missing ++ (← if w.hasEntry manifest then manifestFileProblems w manifest else pure [])

/-- The strategies directory below a project directory. -/
def strategiesDir (root : RelPath) : RelPath := root ++ ["strategies"]

/-- Every strategy directory of a project with problems, by name in name order, with its
problems. -/
def strategyFailures (w : Workspace) (root : RelPath) :
    Except Uncaught (List (String × List String)) :=
  if !w.isDir (strategiesDir root) then .ok []
  else
    let names := (w.childNames (strategiesDir root)).mergeSort fun a b => decide (a ≤ b)
    names.filterMapM fun name => do
      let dir := strategiesDir root ++ [name]
      if !w.isDir dir then return none
      else
        match ← strategyDirProblems w dir with
        | [] => return none
        | problems => return some (name, problems)

end PineCheck
