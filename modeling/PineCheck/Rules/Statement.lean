import PineCheck.Rules.Line
/-!
# Rules on a statement

A statement is a code line with the continuation lines after it. Its text is the code of
its lines joined by line feeds, so that a call and its arguments may span lines; a position
in that text is mapped back to a line and column by `Statement.locate`.

Three rules read the calls of a statement:

* external data (`request.security`) with `lookahead = barmerge.lookahead_on`, which
  repaints, or with no `lookahead =` at all;
* an order entry with no `limit =`, or with the raw bar price `close` or `open` as limit;
* order entries with no guard (a crossing, the position, a confirmed bar) in the statement
  or in the window of lines before it.
-/

namespace PineCheck

open Script Text

/-- A statement: its lines, first line first, and the scope at its first line. -/
structure Statement where
  lines : List Line
  scope : Snapshot

namespace Statement

/-- The code of the lines, joined by line feeds. -/
def text (st : Statement) : List Char := List.intercalate ['\n'] (st.lines.map (·.code))

/-- The line and column of a position in a statement's text: past the end of the text, the
end of the last line. -/
def locateIn : List Line → Nat → Nat × Nat
  | [], _ => (1, 1)
  | [l], offset => if offset ≤ l.code.length then (l.number, offset + 1) else (l.number, l.code.length + 1)
  | l :: rest, offset =>
    if offset ≤ l.code.length then (l.number, offset + 1)
    else locateIn rest (offset - (l.code.length + 1))

/-- The line and column of a position in the statement's text. -/
def locate (st : Statement) (offset : Nat) : Nat × Nat := locateIn st.lines offset

/-- A finding at a position of the statement's text. -/
def findingAt (st : Statement) (code : Code) (message : String) (offset : Nat) : Diagnostic :=
  let (line, column) := st.locate offset
  Diagnostic.make code message line column

end Statement

/-- A call found in a text: where its name starts, where its arguments start (after the
`(`), and the arguments. -/
structure CallSite where
  offset : Nat
  argsStart : Nat
  args : List Char

/-- Every call that a probe finds in a text. -/
def callSites (p : Probe) (text : List Char) : List CallSite :=
  (allMatches p text).map fun (pos, len) =>
    ⟨pos, pos + len, argumentsFrom text (pos + len - 1)⟩

/-- External data that repaints, or that leaves `lookahead` unset. -/
def lookaheadRule (s : Settings) (st : Statement) : List Diagnostic :=
  (callSites securityCall st.text).flatMap fun call =>
    match search lookaheadOn call.args with
    | some (pos, _) =>
      if s.disallowLookahead then
        [st.findingAt .lookaheadOn
          "request.security with lookahead=barmerge.lookahead_on is disallowed (repainting risk)."
          (call.argsStart + pos)]
      else []
    | none =>
      if occurs lookaheadSet call.args then []
      else
        [st.findingAt .lookaheadDefault
          "request.security without an explicit lookahead= setting; state it to avoid surprises."
          call.offset]

/-- An order entry with no limit price, or with the raw bar price as limit. -/
def limitOrderRule (s : Settings) (st : Statement) : List Diagnostic :=
  (callSites entryCall st.text).flatMap fun call =>
    if !occurs limitSet call.args then
      if s.requireLimitOrders then
        [st.findingAt .limitOrder "Order entry must set an explicit limit= price." call.offset]
      else []
    else
      match search limitAtBarPrice call.args with
      | some (pos, _) =>
        [st.findingAt .limitMarketLike
          "Limit price equals the raw bar price; the order behaves like a market order."
          (call.argsStart + pos)]
      | none => []

/-- Order entries with no guard in the statement or the lines before it. -/
def entryGatingRule (st : Statement) : List Diagnostic :=
  let calls := callSites entryCall st.text
  if calls.isEmpty then []
  else
    let source := List.intercalate ['\n'] (st.scope.recent ++ [st.text])
    if occurs entryGuard source then []
    else
      calls.map fun call =>
        st.findingAt .spamEntry
          "Order entry may fire every bar: no crossover, position or confirmed-bar guard nearby."
          call.offset

/-- The findings of the statement rules, in their fixed order. -/
def statementFindings (s : Settings) (st : Statement) : List Diagnostic :=
  lookaheadRule s st ++ limitOrderRule s st ++ entryGatingRule st

end PineCheck
