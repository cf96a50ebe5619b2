/-!
# Findings

A finding (`Diagnostic`) names a rule by its code, a place in the source by line and column
(both counted from 1, in characters) and says what is wrong. Every code has one severity:
codes that start with `E_` are errors and make a file fail, codes that start with `W_` are
warnings.
-/

namespace PineCheck

/-- How serious a finding is. -/
inductive Severity where
  | error
  | warn
  deriving DecidableEq, Repr

/-- The label of a severity in reports. -/
def Severity.label : Severity → String
  | .error => "ERROR"
  | .warn => "WARN"

/-- The rules that can report a finding. -/
inductive Code where
  | newline
  | noFinalNewline
  | delimiter
  | tab
  | trailingSpace
  | version
  | eolContinuation
  | indentWarn
  | indentError
  | blockIndent
  | reservedIdentifier
  | globalMutation
  | plotScope
  | everyTickWarn
  | everyTickError
  | realtime
  | inputStyle
  | multiStatement
  | lineLength
  | nestedLoop
  | lookaheadOn
  | lookaheadDefault
  | limitOrder
  | limitMarketLike
  | spamEntry
  | declarationMissing
  | declarationCount
  | declarationOrder
  | inputBloat
  | securityBloat
  | noCancel
  | unreadable
  deriving DecidableEq, Repr

/-- The name of a code in reports. -/
def Code.name : Code → String
  | .newline => "E_NEWLINE"
  | .noFinalNewline => "E_NO_FINAL_NEWLINE"
  | .delimiter => "E_DELIM"
  | .tab => "E_TAB"
  | .trailingSpace => "E_TRAILING_WS"
  | .version => "E_VERSION"
  | .eolContinuation => "E_EOL_CONTINUATION"
  | .indentWarn => "W_INDENT"
  | .indentError => "E_INDENT"
  | .blockIndent => "W_BLOCK_INDENT"
  | .reservedIdentifier => "E_RESERVED_IDENTIFIER"
  | .globalMutation => "E_GLOBAL_MUTATION"
  | .plotScope => "W_PLOT_SCOPE"
  | .everyTickWarn => "W_EVERY_TICK"
  | .everyTickError => "E_EVERY_TICK"
  | .realtime => "W_REALTIME"
  | .inputStyle => "W_INPUT_STYLE"
  | .multiStatement => "W_MULTI_STATEMENT"
  | .lineLength => "W_LINE_LENGTH"
  | .nestedLoop => "W_NESTED_LOOP"
  | .lookaheadOn => "E_LOOKAHEAD_ON"
  | .lookaheadDefault => "W_LOOKAHEAD_DEFAULT"
  | .limitOrder => "E_LIMIT_ORDER"
  | .limitMarketLike => "W_LIMIT_MARKET_LIKE"
  | .spamEntry => "W_SPAM_ENTRY"
  | .declarationMissing => "E_DECLARATION_MISSING"
  | .declarationCount => "E_DECLARATION_COUNT"
  | .declarationOrder => "E_DECLARATION_ORDER"
  | .inputBloat => "W_INPUT_BLOAT"
  | .securityBloat => "W_SECURITY_BLOAT"
  | .noCancel => "W_NO_CANCEL"
  | .unreadable => "E_IO"

/-- The severity of a code. -/
def Code.severity : Code → Severity
  | .indentWarn | .blockIndent | .plotScope | .everyTickWarn | .realtime | .inputStyle
  | .multiStatement | .lineLength | .nestedLoop | .lookaheadDefault | .limitMarketLike
  | .spamEntry | .inputBloat | .securityBloat | .noCancel => .warn
  | _ => .error

/-- A finding: a rule's code, where it points and what it says. -/
structure Diagnostic where
  line : Nat
  column : Nat
  code : Code
  message : String
  deriving DecidableEq, Repr

namespace Diagnostic

/-- A finding at a line and column; a column below 1 is moved to 1. -/
def make (code : Code) (message : String) (line column : Nat) : Diagnostic :=
  ⟨line, max column 1, code, message⟩

/-- The severity of a finding, which its code decides. -/
def severity (d : Diagnostic) : Severity := d.code.severity

/-- Whether a finding is an error. -/
def isError (d : Diagnostic) : Bool := d.severity == .error

end Diagnostic

end PineCheck
