import PineCheck.Rules.Line
/-!
# Rules on the whole file

A tally collects, over the lines that are not blank, what the whole-file rules need: the
first such line, the version line, the top-level declarations (`strategy(` or
`indicator(` at indent 0), the number of input and external-data calls, the order entries
and whether any order is cancelled or closed.

The file rules then report, in this order: a file with no line but blank ones (so no
version line), a missing or repeated declaration, a declaration before the version line,
too many inputs, too many external-data calls, and order entries that nothing cancels.
-/

namespace PineCheck

open Script Text

/-- What the file rules need to know of a file. -/
structure Tally where
  firstNonblank : Option Nat
  versionLine : Option Nat
  /-- The lines of top-level declarations, in order. -/
  declarations : List Nat
  inputCount : Nat
  securityCount : Nat
  /-- Where each order entry starts, in order. -/
  entries : List (Nat × Nat)
  hasCancel : Bool
  deriving DecidableEq, Repr

namespace Tally

/-- The tally of no line. -/
def empty : Tally := ⟨none, none, [], 0, 0, [], false⟩

/-- Count one more line. -/
def observe (t : Tally) (line : Line) : Tally :=
  if line.kind == .blank then t
  else
    let t := { t with
      firstNonblank := t.firstNonblank.or (some line.number)
      versionLine :=
        if t.versionLine.isNone && isVersionLine (trimBlank line.text) then some line.number
        else t.versionLine }
    if line.kind != .code then t
    else
      let code := line.code
      { t with
        declarations := if line.indent == 0 && isDeclaration code then t.declarations ++ [line.number]
          else t.declarations
        inputCount := t.inputCount + (allMatches inputCall code).length
        securityCount := t.securityCount + (allMatches securityCall code).length
        entries := t.entries ++ (allMatches entryCall code).map fun (pos, _) => (line.number, pos + 1)
        hasCancel := t.hasCancel || occurs cancelCall code }

end Tally

/-- No line that is not blank, hence no version line. -/
def versionPresentRule (s : Settings) (t : Tally) : List Diagnostic :=
  if t.firstNonblank.isSome then []
  else [Diagnostic.make .version ("Missing " ++ versionMarker s ++ " declaration.") 1 1]

/-- No declaration, or more than one. -/
def declarationCountRule (t : Tally) : List Diagnostic :=
  match t.declarations with
  | [] =>
    [Diagnostic.make .declarationMissing "Missing top-level strategy()/indicator() declaration."
      (t.firstNonblank.getD 1) 1]
  | [_] => []
  | _ :: second :: _ =>
    let count := t.declarations.length
    [Diagnostic.make .declarationCount
      s!"Multiple strategy()/indicator() declarations found ({count}); only one allowed." second 1]

/-- A declaration at or before the version line. -/
def declarationOrderRule (t : Tally) : List Diagnostic :=
  match t.declarations, t.versionLine with
  | first :: _, some v =>
    if first ≤ v then
      [Diagnostic.make .declarationOrder "strategy()/indicator() must appear after the version line."
        first 1]
    else []
  | _, _ => []

/-- More input calls than allowed. -/
def inputCeilingRule (s : Settings) (t : Tally) : List Diagnostic :=
  if t.inputCount ≤ s.maxInputs then []
  else
    let count := t.inputCount
    let limit := s.maxInputs
    [Diagnostic.make .inputBloat s!"Too many input.* calls ({count}) > maxInputs ({limit})." 1 1]

/-- More external-data calls than allowed. -/
def securityCeilingRule (s : Settings) (t : Tally) : List Diagnostic :=
  if t.securityCount ≤ s.maxRequestSecurity then []
  else
    let count := t.securityCount
    let limit := s.maxRequestSecurity
    [Diagnostic.make .securityBloat s!"Too many request.security calls ({count}) > limit ({limit})." 1 1]

/-- Order entries and no cancel or close. -/
def cancelPresenceRule (t : Tally) : List Diagnostic :=
  match t.entries with
  | (line, column) :: _ =>
    if t.hasCancel then []
    else
      [Diagnostic.make .noCancel
        "Order entries found but no strategy.cancel/close call; unfilled limits never time out."
        line column]
  | [] => []

/-- The findings of the file rules, in their fixed order. -/
def fileFindings (s : Settings) (t : Tally) : List Diagnostic :=
  versionPresentRule s t ++ declarationCountRule t ++ declarationOrderRule t ++
    inputCeilingRule s t ++ securityCeilingRule s t ++ cancelPresenceRule t

end PineCheck
