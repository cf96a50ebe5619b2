import PineCheck.Source.Brackets
import PineCheck.Rules.Statement
import PineCheck.Rules.File
/-!
# Linting a source text

One forward pass over the lines of a file. Before it, two preconditions (no carriage return
anywhere, a line feed at the end) and the bracket balance of the whole file are checked.
Then each line is read in order (`Pass.step`): the text rules run on every line; a code line
is handed to the scope tracker, ends the statement before it unless it continues it, and is
checked by the line rules. The statement rules run on each statement once it is complete,
and after the last line on the last statement; a last code line that dangles is reported
too. The whole-file rules run on the tally of all lines.

The report lists the findings of the pass sorted by line, those of one line in the order
they were found, followed by the whole-file findings.

Linting fails outright, with no findings, when the settings cannot be used: the entry guard
window must fit in a signed 64-bit size, and a setting written out in a message must have at
most 4300 decimal digits. The version is written out on every text (in the check of the first
line, or in the finding that it is missing); the other settings only in the findings that
name them.
-/

namespace PineCheck

/-- The findings on a file as a whole before its lines are read. -/
def preconditionFindings (content : List Char) : List Diagnostic :=
  let lines := physicalLines content
  let newline := if content.contains '\r' then
      [Diagnostic.make .newline "Use Unix newlines (no CR characters)." 1 1]
    else []
  let finalNewline := if content.getLast? == some '\n' then []
    else
      let last := lines.length
      let column := match lines.getLast? with
        | some l => l.length + 1
        | none => 1
      [Diagnostic.make .noFinalNewline "File must end with a newline." (max last 1) column]
  newline ++ finalNewline

/-- The statement rules on a complete statement. -/
def flushStatement (s : Settings) (lines : List Line) (scope : Option Snapshot) : List Diagnostic :=
  match lines, scope with
  | [], _ => []
  | _, none => []
  | ls, some sc => statementFindings s ⟨ls, sc⟩

/-- The state of the pass between lines. -/
structure Pass where
  tracker : Tracker
  tally : Tally
  /-- The lines of the statement read so far. -/
  statement : List Line
  /-- The scope at the first line of that statement. -/
  scope : Option Snapshot
  /-- The findings so far, in the order they were found. -/
  found : List Diagnostic

namespace Pass

/-- The pass before the first line. -/
def start (s : Settings) : Pass := ⟨Tracker.start s.entryGuardWindow, Tally.empty, [], none, []⟩

/-- Read one line. -/
def step (s : Settings) (p : Pass) (line : Line) : Pass :=
  let isFirst := p.tally.firstNonblank.isNone && line.kind != .blank
  let tally := p.tally.observe line
  let text := textFindings s line isFirst
  if line.kind != .code then { p with tally := tally, found := p.found ++ text }
  else
    let (scope, trackerFound, tracker) := p.tracker.advance line
    let (flushed, statement, stScope) :=
      if scope.continuation && !p.statement.isEmpty then ([], p.statement ++ [line], p.scope)
      else (flushStatement s p.statement p.scope, [line], some scope)
    { tracker := tracker
      tally := tally
      statement := statement
      scope := stScope
      found := p.found ++ text ++ trackerFound ++ flushed ++ lineFindings s line scope }

/-- The findings after the last line: the last statement and a dangling last line. -/
def finish (s : Settings) (p : Pass) : List Diagnostic :=
  p.found ++ flushStatement s p.statement p.scope ++
    (match p.tracker.danglingLine with
     | some d => [danglingFinding d]
     | none => [])

end Pass

/-- The pass over all lines of a file. -/
def runPass (s : Settings) (lines : List Line) : Pass := lines.foldl (Pass.step s) (Pass.start s)

/-- Sort findings by line, keeping the order of those on one line. -/
def sortByLine (ds : List Diagnostic) : List Diagnostic :=
  ds.mergeSort fun a b => decide (a.line ≤ b.line)

/-- The findings on a source text, in report order. -/
def lintContent (s : Settings) (content : List Char) : List Diagnostic :=
  let lines := classifyLines content
  let pass := runPass s lines
  let lineLevel := preconditionFindings content ++ checkBrackets (lines.map (·.code)) ++
    pass.finish s
  sortByLine lineLevel ++ fileFindings s pass.tally

/-- The most decimal digits an integer may have to be written out. -/
def writableDigits : Nat := 4300

/-- Whether a number has too many digits to be written out. -/
def tooLongToWrite (n : Nat) : Bool := (toString n).length > writableDigits

/-- The failure of writing out an integer with too many digits. -/
def Uncaught.digitLimit : Uncaught :=
  ⟨"ValueError", s!"Exceeds the limit ({writableDigits} digits) for integer string conversion; use sys.set_int_max_str_digits() to increase the limit"⟩

/-- The failure of a window size beyond a signed 64-bit size. -/
def Uncaught.sizeOverflow : Uncaught :=
  ⟨"OverflowError", "Python int too large to convert to C ssize_t"⟩

/-- The setting the message of a finding with this code writes out, if any. -/
def writtenSetting (s : Settings) : Code → Option Nat
  | .indentWarn | .indentError | .blockIndent => some s.indentUnit
  | .lineLength => some s.maxLineLength
  | .inputBloat => some s.maxInputs
  | .securityBloat => some s.maxRequestSecurity
  | _ => none

/-- The findings on a source text, in report order, or the failure of linting it with
settings that cannot be used. -/
def lintText (s : Settings) (content : List Char) : Except Uncaught (List Diagnostic) := do
  if s.entryGuardWindow ≥ Nat.pow 2 63 then throw Uncaught.sizeOverflow
  if tooLongToWrite s.version then throw Uncaught.digitLimit
  let found := lintContent s content
  if found.any (fun d => (writtenSetting s d.code).any tooLongToWrite) then
    throw Uncaught.digitLimit
  return found

end PineCheck
