import PineCheck.Settings.Basic
import PineCheck.Workspace.Text
import PineCheck.Value.Json.Decode
import PineCheck.Value.Order
import PineCheck.Yaml.Load
/-!
# Finding and reading the settings file

The settings of a run are the defaults with the options of at most one settings file laid
over them. The file is the one named explicitly, else the one the environment names (when
it names one), else the first of `.pinelintrc.json`, `.pinelintrc.yaml` and
`.pinelintrc.yml` that exists in the project directory.

A file whose name ends in `.yaml` or `.yml` is read as YAML, any other as JSON. It must hold
a mapping (or nothing, which counts as an empty one). A file that cannot be read, does not
parse or holds something else leaves the defaults in force, with one warning saying why.
Otherwise unknown keys are named in a warning, sorted, and the known ones are laid over the
defaults; when a value is refused, the defaults stay in force and a last warning counts the
refused values.

Sorting and naming the unknown keys needs them to be texts: a file with a key of another
kind (YAML allows numbers, booleans and null as keys) makes resolution fail.
-/

namespace PineCheck

/-- The names of the settings files looked for in the project directory, in order. -/
def settingsFileNames : List String := [".pinelintrc.json", ".pinelintrc.yaml", ".pinelintrc.yml"]

/-- The settings file to read: the explicit one, else the environment's when it is not
empty, else the first settings file in the project directory that exists (a directory of
that name counts). -/
def findSettingsFile (w : Workspace) (root : RelPath) (explicit : Option RelPath)
    (env : Option String) : Option RelPath :=
  let inProject := (settingsFileNames.map fun n => root ++ [n]).find? w.hasEntry
  match explicit with
  | some p => some p
  | none =>
    match env with
    | some e => if e.isEmpty then inProject else some (RelPath.parse e)
    | none => inProject

/-- What reading a settings file gave: its entries (none for an empty file), the reason it
could not be used, or a failure that is not a reading problem. -/
inductive SettingsRead where
  | entries (es : List (Value × Value))
  | unusable (reason : String)
  | failed (u : Uncaught)

/-- Whether a settings file is read as YAML. -/
def isYamlPath (p : RelPath) : Bool := p.suffix == ".yaml" || p.suffix == ".yml"

/-- The data of a settings file with the name of its kind, or why it could not be read. -/
def loadSettingsData (w : Workspace) (p : RelPath) : Except SettingsRead (Value × String) :=
  if isYamlPath p then
    match w.readTextStreamed p with
    | .error e => .error (.unusable e.message)
    | .ok text =>
      match Yaml.load text with
      | .ok l => .ok (l.value, l.kind)
      | .error (.caught e) => .error (.unusable (e.message (RelPath.render p)))
      | .error (.escaped k m) => .error (.failed ⟨k, m⟩)
  else
    match w.readText p with
    | .error e => .error (.unusable e.message)
    | .ok text =>
      match Json.decodeFile text with
      | .ok v => .ok (v, v.kindName)
      | .error (.inl m) => .error (.unusable m)
      | .error (.inr m) => .error (.failed ⟨"RecursionError", m⟩)

/-- Read a settings file: a mapping gives its entries, nothing gives none, and anything else
is unusable. -/
def readSettingsFile (w : Workspace) (p : RelPath) : SettingsRead :=
  match loadSettingsData w p with
  | .error r => r
  | .ok (.null, _) => .entries []
  | .ok (.object es, "dict") => .entries es
  | .ok (_, kind) => .unusable s!"expected a mapping, got {kind}"

/-- The settings of a run and the warnings about the settings file. -/
structure Resolution where
  settings : Settings
  warnings : List String

/-- The warning about the unknown keys of a settings file, if there are any. -/
def unknownKeysWarning (name : String) (es : List (Value × Value)) :
    Except Uncaught (List String) := do
  let sorted ← (Value.sortValues (Settings.unknownKeys es)).mapError fun m => ⟨"TypeError", m⟩
  if sorted.isEmpty then return []
  let names ← (Value.joinTexts ", " sorted).mapError fun m => ⟨"TypeError", m⟩
  return [s!"Unknown option(s) in {name} ignored: {names}"]

/-- The settings of a run in project directory `root`, given an explicit settings file and
the environment's, with the warnings about the file used. -/
def resolveSettings (w : Workspace) (root : RelPath) (explicit : Option RelPath)
    (env : Option String) : Except Uncaught Resolution := do
  match findSettingsFile w root explicit env with
  | none => return ⟨Settings.default, []⟩
  | some p =>
    let name := p.name
    match readSettingsFile w p with
    | .unusable reason => return ⟨Settings.default, [s!"Failed to read {name}: {reason}"]⟩
    | .failed u => throw u
    | .entries es =>
      let warnings ← unknownKeysWarning name es
      match Settings.default.merge es with
      | .ok s => return ⟨s, warnings⟩
      | .error errs =>
        return ⟨Settings.default, warnings ++ [s!"Invalid {name}: {errs.length} bad value(s)"]⟩

end PineCheck
