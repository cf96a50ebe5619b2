import PineCheck.Source.Line
import PineCheck.Script.Shape
/-!
# Scope tracking

Pine Script scopes follow indentation. The tracker reads the code lines of a file in order
and keeps:

* the open frames: function bodies and loops, each with the indent of its head line; a line
  that starts a statement closes every frame whose head is indented as deep or deeper;
* the persistent variables (`var`, `varip`) declared at indent 0;
* whether the line continues the statement of an earlier line: while brackets are open, or
  when the previous code line dangles and this one is indented deeper than it;
* the line that opened a block, handed to the first statement after it;
* the stripped code of the last few lines (the window), for rules that look back.

Open brackets are counted per line, of any kind, never below zero. They carry over to the
next line only while that line is deeper than the start of the statement or the previous
line dangles; otherwise the count starts again from zero.

`Tracker.advance` reads one line and returns what the rules see of the scope at that line
(`Snapshot`), with a finding for a loop nested in another loop.
-/

namespace PineCheck

open Script

/-- The kinds of frame. -/
inductive FrameKind where
  | function
  | loop
  deriving DecidableEq, Repr

/-- The name of a frame kind. -/
def FrameKind.name : FrameKind → String
  | .function => "function"
  | .loop => "loop"

/-- An open frame: its kind and the indent of its head line. -/
structure Frame where
  kind : FrameKind
  indent : Nat
  deriving DecidableEq, Repr

/-- What the rules see of the scope at a line. -/
structure Snapshot where
  indent : Nat
  inFunction : Bool
  inBlock : Bool
  /-- The persistent variables declared so far, in increasing order. -/
  globals : List (List Char)
  continuation : Bool
  /-- The line that opened the block this statement is the first of. -/
  blockOpener : Option Line
  /-- The previous code line, when it dangles. -/
  dangling : Option Line
  /-- The stripped code of the lines before, oldest first. -/
  recent : List (List Char)
  deriving DecidableEq, Repr

/-- Insert a name into an increasing list of names, once. -/
def insertName (name : List Char) : List (List Char) → List (List Char)
  | [] => [name]
  | n :: rest =>
    if name == n then n :: rest
    else if name < n then name :: n :: rest
    else n :: insertName name rest

/-- The last `n` items of a list. -/
def lastItems (n : Nat) (xs : List α) : List α := xs.drop (xs.length - n)

/-- The net count of brackets a text opens: openers less closers, of every kind. -/
def netBrackets (code : List Char) : Int :=
  (code.countP fun c => c == '(' || c == '[' || c == '{' : Int) -
    (code.countP fun c => c == ')' || c == ']' || c == '}' : Int)

/-- The state of the tracker between lines. -/
structure Tracker where
  /-- The open frames, innermost first. -/
  frames : List Frame
  globals : List (List Char)
  pendingBlock : Option Line
  lastCode : Option Line
  openBrackets : Nat
  statementIndent : Nat
  recent : List (List Char)
  /-- How many lines `recent` keeps. -/
  window : Nat
  deriving DecidableEq, Repr

namespace Tracker

/-- The tracker before any line, keeping a window of `window` lines. -/
def start (window : Nat) : Tracker := ⟨[], [], none, none, 0, 0, [], window⟩

/-- The last code line, when it asks for a continuation. -/
def danglingLine (t : Tracker) : Option Line :=
  match t.lastCode with
  | some p => if endsWithContinuation p.code then some p else none
  | none => none

/-- The open brackets that carry over to a line. -/
def carriedBrackets (t : Tracker) (line : Line) : Nat :=
  if t.openBrackets > 0 && t.danglingLine.isNone && line.indent ≤ t.statementIndent then 0
  else t.openBrackets

/-- Whether a line continues the statement before it. -/
def continues (t : Tracker) (line : Line) : Bool :=
  t.carriedBrackets line > 0 ||
    match t.danglingLine with
    | some d => line.indent > d.indent
    | none => false

/-- The frames after a line at `indent` with stripped code `code` starts a statement, and
the finding for a nested loop. -/
def openFrames (frames : List Frame) (line : Line) (code : List Char) :
    List Frame × List Diagnostic :=
  let frames := frames.dropWhile (·.indent ≥ line.indent)
  let frames := if isFunctionHead code then ⟨.function, line.indent⟩ :: frames else frames
  if isLoopHead code then
    let found := if frames.any (·.kind == .loop) then
        [Diagnostic.make .nestedLoop "Nested loops detected; consider simplifying." line.number
          (line.indent + 1)]
      else []
    (⟨.loop, line.indent⟩ :: frames, found)
  else (frames, [])

/-- Read one line: what the rules see, the tracker's findings, and the next state. -/
def advance (t : Tracker) (line : Line) : Snapshot × List Diagnostic × Tracker :=
  let code := line.stripped
  let dangling := t.danglingLine
  let carried := t.carriedBrackets line
  let continuation := t.continues line
  let (frames, found, globals, pending, opener, statementIndent) :=
    if continuation then (t.frames, [], t.globals, t.pendingBlock, none, t.statementIndent)
    else
      let (frames, found) := openFrames t.frames line code
      let globals := if line.indent == 0 then
          match persistentName code with
          | some name => insertName name t.globals
          | none => t.globals
        else t.globals
      let pending := if opensBlock code then some line else none
      (frames, found, globals, pending, t.pendingBlock, line.indent)
  let snapshot : Snapshot :=
    { indent := line.indent
      inFunction := frames.any (·.kind == .function)
      inBlock := line.indent > 0
      globals := globals
      continuation := continuation
      blockOpener := opener
      dangling := dangling
      recent := t.recent }
  let next : Tracker :=
    { frames := frames
      globals := globals
      pendingBlock := pending
      lastCode := some line
      openBrackets := ((carried : Int) + netBrackets line.code).toNat
      statementIndent := statementIndent
      recent := lastItems t.window (t.recent ++ [code])
      window := t.window }
  (snapshot, found, next)

/-- The open frames, outermost first. -/
def frameStack (t : Tracker) : List Frame := t.frames.reverse

/-- Read lines one by one: for each, what the rules see, the findings and the state after
it. -/
def trace : Tracker → List Line → List (Snapshot × List Diagnostic × Tracker)
  | _, [] => []
  | t, l :: ls =>
    let r := t.advance l
    r :: trace r.2.2 ls

end Tracker

end PineCheck
