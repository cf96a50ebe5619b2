import PineCheck.Scope.Tracker
import PineCheck.Settings.Basic
import PineCheck.Script.Call
/-!
# Rules on a single line

Text rules look at every physical line: a tab, trailing blanks, and the version line, which
must be the first line that is not blank and read exactly `//@version=N` once stripped.

Line rules look at a code line together with its scope:

* a dangling line whose next code line does not continue it;
* an indent that is no multiple of the indent unit (outside continuations);
* a first statement of a block indented less than one unit deeper than its opener;
* a reserved word used as the target of a top-level assignment;
* a persistent variable changed in place inside a function;
* a plot inside a block or function;
* `calc_on_every_tick = true` and `barstate.isrealtime`;
* more than one input call on a line, `;` between statements, and a long line with a call.
-/

namespace PineCheck

open Script Text

/-! ## Text rules -/

/-- The version line that the settings ask for. -/
def versionMarker (s : Settings) : String := "//@version=" ++ toString s.version

/-- The version finding of the first line that is not blank. -/
def versionFinding (s : Settings) (line : Line) : List Diagnostic :=
  let marker := versionMarker s
  let st := trimBlank line.text
  if st == marker.toList then []
  else
    let message := if "//@version=".toList.isPrefixOf st then "Version line must be " ++ marker ++ "."
      else "First non-empty line must declare " ++ marker ++ "."
    [Diagnostic.make .version message line.number 1]

/-- The findings of the text rules on a line; `isFirst` marks the first line that is not
blank. -/
def textFindings (s : Settings) (line : Line) (isFirst : Bool) : List Diagnostic :=
  (if s.disallowTabs then line.tabFinding else []) ++ line.trailingSpaceFinding ++
    (if isFirst then versionFinding s line else [])

/-! ## Line rules -/

/-- The finding on a dangling line, at its last character. -/
def danglingFinding (line : Line) : Diagnostic :=
  Diagnostic.make .eolContinuation
    "Line ends with an operator, comma or open bracket but the next line does not continue it."
    line.number (dropBlankEnd line.code).length

/-- A dangling line before a line that does not continue it. -/
def eolContinuationRule (scope : Snapshot) : List Diagnostic :=
  match scope.dangling with
  | some d => if scope.continuation then [] else [danglingFinding d]
  | none => []

/-- An indent that is no multiple of the unit. -/
def indentRule (s : Settings) (line : Line) (scope : Snapshot) : List Diagnostic :=
  if scope.continuation || line.indent == 0 || line.indent % s.indentUnit == 0 then []
  else
    let unit := s.indentUnit
    let found := line.indent
    let message := s!"Indentation should use {unit}-space multiples (found {found})."
    [Diagnostic.make (if s.strictIndent then .indentError else .indentWarn) message line.number 1]

/-- The finding on a first statement of a block at `(line, column)`, which names the line of
the block's opener. -/
def blockIndentFinding (unit openerLine line column : Nat) : Diagnostic :=
  Diagnostic.make .blockIndent s!"Expected indent by {unit} spaces after block opener on line {openerLine}."
    line column

/-- The first statement of a block, not indented a unit deeper than its opener. -/
def blockIndentRule (s : Settings) (line : Line) (scope : Snapshot) : List Diagnostic :=
  match scope.blockOpener with
  | some o =>
    if line.indent ≥ o.indent + s.indentUnit then []
    else [blockIndentFinding s.indentUnit o.number line.number (line.indent + 1)]
  | none => []

/-- The words that no variable may be named. -/
def reservedWords : List String :=
  ["and", "or", "not", "if", "else", "for", "to", "by", "in", "while", "switch", "var", "varip",
    "import", "export", "method", "type", "true", "false", "na", "continue", "break", "const",
    "simple", "series"]

/-- A reserved word as the target of a top-level assignment. -/
def reservedIdentifierRule (line : Line) (scope : Snapshot) : List Diagnostic :=
  if line.indent != 0 || scope.continuation then []
  else
    match assignmentTarget line.code with
    | some (name, pos) =>
      let word := String.ofList name
      if reservedWords.contains word then
        [Diagnostic.make .reservedIdentifier
          ("Reserved keyword '" ++ word ++ "' cannot be used as a variable name.") line.number (pos + 1)]
      else []
    | none => []

/-- A persistent variable changed in place inside a function, for each such variable. -/
def globalMutationRule (line : Line) (scope : Snapshot) : List Diagnostic :=
  if !scope.inFunction || scope.globals.isEmpty || scope.continuation then []
  else
    scope.globals.filterMap fun name =>
      (search (updateOf name) line.code).map fun (pos, _) =>
        Diagnostic.make .globalMutation
          ("Global var '" ++ String.ofList name ++ "' modified inside function.") line.number (pos + 1)

/-- A plot inside a block or function. -/
def plotScopeRule (line : Line) (scope : Snapshot) : List Diagnostic :=
  if !(scope.inBlock || scope.inFunction) then []
  else
    match search plotCall line.code with
    | some (pos, _) =>
      [Diagnostic.make .plotScope
        "Plotting call inside a local block or function; Pine requires global-scope plotting."
        line.number (pos + 1)]
    | none => []

/-- `calc_on_every_tick = true`. -/
def everyTickRule (s : Settings) (line : Line) : List Diagnostic :=
  match search everyTickOn line.code with
  | some (pos, _) =>
    [Diagnostic.make (if s.disallowEveryTick then .everyTickError else .everyTickWarn)
      "calc_on_every_tick=true can cause live/backtest drift." line.number (pos + 1)]
  | none => []

/-- `barstate.isrealtime`. -/
def realtimeRule (line : Line) : List Diagnostic :=
  match search realtimeState line.code with
  | some (pos, _) =>
    [Diagnostic.make .realtime "barstate.isrealtime can diverge between live and backtest."
      line.number (pos + 1)]
  | none => []

/-- More than one input call on a line, reported at the first. -/
def inputStyleRule (s : Settings) (line : Line) : List Diagnostic :=
  if !s.oneInputPerLine then []
  else
    match allMatches inputCall line.code with
    | (pos, _) :: _ :: _ =>
      [Diagnostic.make .inputStyle "Use one input.* call per line." line.number (pos + 1)]
    | _ => []

/-- A `;` between statements. -/
def multiStatementRule (line : Line) : List Diagnostic :=
  match search statementSeparator line.code with
  | some (pos, _) =>
    [Diagnostic.make .multiStatement "Avoid multiple statements on one line separated by ';'."
      line.number (pos + 1)]
  | none => []

/-- A line longer than the limit that holds a call. -/
def lineLengthRule (s : Settings) (line : Line) : List Diagnostic :=
  let code := dropBlankEnd line.code
  let limit := s.maxLineLength
  if code.length ≤ limit || !occurs callLike code then []
  else
    [Diagnostic.make .lineLength s!"Line exceeds {limit} characters; consider line breaks."
      line.number (limit + 1)]

/-- The findings of the line rules on a code line, in their fixed order. -/
def lineFindings (s : Settings) (line : Line) (scope : Snapshot) : List Diagnostic :=
  eolContinuationRule scope ++ indentRule s line scope ++ blockIndentRule s line scope ++
    reservedIdentifierRule line scope ++ globalMutationRule line scope ++
    plotScopeRule line scope ++ everyTickRule s line ++ realtimeRule line ++
    inputStyleRule s line ++ multiStatementRule line ++ lineLengthRule s line

end PineCheck
