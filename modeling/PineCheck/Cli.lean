import PineCheck.Run
import PineCheck.Scaffold
import PineCheck.Manifest.Files
import PineCheck.Workspace.Glob
import PineCheck.Settings.Resolve
import PineCheck.Console
/-!
# The command line

Three commands work on a project directory (`--root`, the current directory by default):

* `lint PATTERNS... [--format text|json] [--config FILE]` lints the files the patterns name.
  Findings go to standard output, as text lines or as a JSON list; text output is followed
  by a summary on the console. It exits with 1 when any file has an error, with 2 for an
  unknown format.
* `new NAME [--force]` creates a strategy and says where; it exits with 1 when the name is
  refused or a file is in the way.
* `manifests` checks every strategy directory and lists the problems; it exits with 1 when
  there are any.

Options may stand anywhere among the arguments, as `--name value`, `--name=value`, or for
the short forms `-f value` and `-fvalue`; after `--` everything is an argument. The console
receives messages with style markup (see `Console`). A failure that is not a refusal of the
command (a bad pattern, an unusable settings key, an operation the file tree refuses) stops
the command with exit code 1 and is reported as such.
-/

namespace PineCheck.Cli

/-- What a run of commands has shown and left behind. -/
structure Session where
  workspace : Workspace
  stdout : String
  stderr : List String

/-- Why a command stopped early: an exit with a code, or a failure. -/
inductive Stop where
  | exit (code : Nat)
  | fail (u : Uncaught)

/-- Computations of a command: they change the session and may stop early. -/
abbrev CliM := ExceptT Stop (StateM Session)

/-- Show a message with markup on the console. The console's stream escapes lone
surrogates, after the message is laid out in lines. -/
def say (markup : String) : CliM Unit := do
  match Console.printLines markup with
  | .ok lines => modify fun s => { s with stderr := s.stderr ++ lines.map Text.escapeSurrogates }
  | .error e => throw (.fail ⟨e.kind, e.message⟩)

/-- Write a text and a line end to standard output. -/
def echo (text : String) : CliM Unit :=
  modify fun s => { s with stdout := s.stdout ++ text ++ "\n" }

/-- Stop with a failure. -/
def failWith (kind message : String) : CliM α := throw (.fail ⟨kind, message⟩)

/-- The output formats of `lint`. -/
def formats : List String := ["text", "json"]

/-- The `lint` command. -/
def lint (env : Option String) (patterns : List String) (format : String)
    (config : Option String) (root : String) : CliM Unit := do
  if !formats.contains format then
    say s!"[red]Invalid format '{format}'.[/red] Choose from: text, json"
    throw (.exit 2)
  let w := (← get).workspace
  let rootPath := RelPath.parse root
  let r ← match resolveSettings w rootPath (config.map RelPath.parse) env with
    | .ok r => pure r
    | .error u => throw (.fail u)
  for warning in r.warnings do
    say s!"[yellow]config:[/yellow] {warning}"
  let files ← match w.discover rootPath patterns with
    | .ok fs => pure fs
    | .error e => failWith e.kindName e.message
  if files.isEmpty then
    say "[yellow]No files matched.[/yellow]"
    return
  let reports ← match lintFiles r.settings w (files.map RelPath.render) with
    | .ok rs => pure rs
    | .error u => throw (.fail u)
  if format == "json" then echo (formatJson reports)
  else
    let text := formatText reports
    if !text.isEmpty then echo text
    let count := reports.length
    let errors := totalErrors reports
    let warnings := totalWarnings reports
    say s!"[bold]{count} file(s)[/bold]  [red]{errors} error(s)[/red]  [yellow]{warnings} warning(s)[/yellow]"
  if !runPassed reports then throw (.exit 1)

/-- The `new` command. -/
def create (name : String) (force : Bool) (root : String) : CliM Unit := do
  let (w, result) := createStrategy (← get).workspace (RelPath.parse root) name force
  modify fun s => { s with workspace := w }
  match result with
  | .error (.os e) => failWith e.fault.kindName e.message
  | .error e =>
    let message := e.message
    say s!"[red]{message}[/red]"
    throw (.exit 1)
  | .ok dir =>
    let shown := dir.render
    let source := (dir ++ ["strategy.pine"]).render
    let manifest := (dir ++ ["manifest.json"]).render
    say s!"[green]Created[/green] {shown}"
    say "Next steps:"
    say s!"- Edit {source} to add your custom signals."
    say s!"- Update {manifest} with live symbols/timeframes."
    say "- Run pinelint lint and pinelint manifests to validate."

/-- The `manifests` command. -/
def manifests (root : String) : CliM Unit := do
  let failures ← match strategyFailures (← get).workspace (RelPath.parse root) with
    | .ok fs => pure fs
    | .error u => throw (.fail u)
  if !failures.isEmpty then
    for (name, errors) in failures do
      say s!"[red]Strategy {name} manifest validation failed:[/red]"
      for err in errors do
        say s!"  - {err}"
    throw (.exit 1)
  say "[green]All strategy manifests are valid.[/green]"

/-! ## Reading the command line -/

/-- An option: its spellings, the name its value is kept under, and whether it takes a
value (else it is a flag). -/
structure OptionSpec where
  names : List String
  key : String
  takesValue : Bool

/-- What reading arguments gave: option values by key (the last one given wins) and the
arguments in order. -/
structure Parsed where
  options : List (String × String)
  arguments : List String

/-- The value of an option. -/
def Parsed.get? (p : Parsed) (key : String) : Option String :=
  (p.options.reverse.find? (·.1 == key)).map (·.2)

/-- The option with a long spelling (more than one letter after the dash). -/
def findLong (specs : List OptionSpec) (name : String) : Option OptionSpec :=
  if name.length ≤ 2 then none else specs.find? (·.names.contains name)

/-- The option with a short spelling `-c`. -/
def findShort (specs : List OptionSpec) (c : Char) : Option OptionSpec :=
  let name := String.ofList ['-', c]
  specs.find? (·.names.contains name)

/-- Read a cluster of short options (the letters after a single dash): flags, then at most
one option with a value, which takes the rest of the cluster or else the next token. Gives
the values read and the tokens left. -/
def shortCluster (specs : List OptionSpec) (letters : List Char) (more : List String) :
    Except String (List (String × String) × List String) := do
  let mut opts : List (String × String) := []
  let mut left := letters
  for _ in [0:letters.length + 1] do
    match left with
    | [] => break
    | c :: tail =>
      let name := String.ofList ['-', c]
      match findShort specs c with
      | none => throw s!"No such option: {name}"
      | some spec =>
        if spec.takesValue then
          if !tail.isEmpty then return (opts ++ [(spec.key, String.ofList tail)], more)
          match more with
          | v :: more' => return (opts ++ [(spec.key, v)], more')
          | [] => throw s!"Option '{name}' requires an argument."
        opts := opts ++ [(spec.key, "")]
        left := tail
  return (opts, more)

/-- Read arguments and options. `stopAtArgument` stops at the first argument (for the
options before a command name), leaving the rest unread. -/
def parseArgs (specs : List OptionSpec) (stopAtArgument : Bool) (tokens : List String) :
    Except String (Parsed × List String) := do
  let mut opts : List (String × String) := []
  let mut args : List String := []
  let mut rest := tokens
  for _ in [0:tokens.length + 1] do
    match rest with
    | [] => break
    | t :: more =>
      if t == "--" then
        args := args ++ more
        rest := []
        break
      else if t.startsWith "-" && t.length > 1 then
        let (name, attached) := match t.splitOn "=" with
          | n :: v :: vs => (n, some ("=".intercalate (v :: vs)))
          | _ => (t, none)
        match findLong specs name with
        | some spec =>
          if spec.takesValue then
            match attached, more with
            | some v, _ =>
              opts := opts ++ [(spec.key, v)]
              rest := more
            | none, v :: more' =>
              opts := opts ++ [(spec.key, v)]
              rest := more'
            | none, [] => throw s!"Option '{name}' requires an argument."
          else
            if attached.isSome then throw s!"Option '{name}' does not take a value."
            opts := opts ++ [(spec.key, "")]
            rest := more
        | none =>
          if t.startsWith "--" then throw s!"No such option: {name}"
          let (got, left) ← shortCluster specs (t.toList.drop 1) more
          opts := opts ++ got
          rest := left
      else if stopAtArgument then break
      else
        args := args ++ [t]
        rest := more
  return (⟨opts, args⟩, rest)

/-- A command line, read. -/
inductive Invocation where
  | lint (patterns : List String) (format : String) (config : Option String) (root : String)
  | create (name : String) (force : Bool) (root : String)
  | manifests (root : String)
  | usage (message : String)

/-- The options before the command name. -/
def groupOptions : List OptionSpec :=
  [⟨["--log-level"], "log-level", true⟩, ⟨["--verbose", "-V"], "verbose", false⟩,
    ⟨["--install-completion"], "install-completion", false⟩,
    ⟨["--show-completion"], "show-completion", false⟩]

/-- The options of `lint`. -/
def lintOptions : List OptionSpec :=
  [⟨["--format", "-f"], "format", true⟩, ⟨["--config", "-c"], "config", true⟩,
    ⟨["--root"], "root", true⟩]

/-- The options of `new`. -/
def newOptions : List OptionSpec := [⟨["--force"], "force", false⟩, ⟨["--root"], "root", true⟩]

/-- The options of `manifests`. -/
def manifestsOptions : List OptionSpec := [⟨["--root"], "root", true⟩]

/-- Read a command line. -/
def readInvocation (tokens : List String) : Invocation :=
  match parseArgs groupOptions true tokens with
  | .error m => .usage m
  | .ok (_, rest) =>
    match rest with
    | [] => .usage "Missing command."
    | "lint" :: more =>
      match parseArgs lintOptions false more with
      | .error m => .usage m
      | .ok (p, _) =>
        if p.arguments.isEmpty then .usage "Missing argument 'PATTERNS...'."
        else .lint p.arguments ((p.get? "format").getD "text") (p.get? "config")
          ((p.get? "root").getD ".")
    | "new" :: more =>
      match parseArgs newOptions false more with
      | .error m => .usage m
      | .ok (p, _) =>
        match p.arguments with
        | [name] => .create name (p.get? "force").isSome ((p.get? "root").getD ".")
        | [] => .usage "Missing argument 'NAME'."
        | _ :: extra :: _ => .usage s!"Got unexpected extra argument ({extra})"
    | "manifests" :: more =>
      match parseArgs manifestsOptions false more with
      | .error m => .usage m
      | .ok (p, _) =>
        match p.arguments with
        | [] => .manifests ((p.get? "root").getD ".")
        | extra :: _ => .usage s!"Got unexpected extra argument ({extra})"
    | other :: _ => .usage s!"No such command '{other}'."

/-- What one command gave: its exit code, and the failure that stopped it, if any. -/
structure Outcome where
  exitCode : Nat
  failure : Option Uncaught

/-- Run one command line, with the settings file the environment names, if any. -/
def runInvocation (env : Option String) : Invocation → CliM Unit
  | .lint patterns format config root => lint env patterns format config root
  | .create name force root => create name force root
  | .manifests root => manifests root
  | .usage message => do
    modify fun s => { s with stderr := s.stderr ++ [Text.escapeSurrogates message] }
    throw (.exit 2)

/-- Run one command line on a workspace: the outcome and the session afterwards. Each
command starts with empty outputs. -/
def run (w : Workspace) (env : Option String) (tokens : List String) : Outcome × Session :=
  let (result, session) := ((runInvocation env (readInvocation tokens)).run).run ⟨w, "", []⟩
  let outcome : Outcome := match result with
    | .ok () => ⟨0, none⟩
    | .error (.exit code) => ⟨code, none⟩
    | .error (.fail u) => ⟨1, some u⟩
  (outcome, session)

end PineCheck.Cli
