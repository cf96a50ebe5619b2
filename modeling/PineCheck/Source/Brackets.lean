import PineCheck.Diagnostic
/-!
# Bracket balance

The brackets `( )`, `[ ]` and `{ }` of a file's code must nest: read across all lines in
order, each closer closes the innermost open bracket, of its own kind, and no bracket stays
open. Brackets inside string literals count like any other.

The check reads the brackets once with a stack of open brackets and reports:

* a closer with nothing open (`unmatched`);
* a closer of another kind than the innermost open bracket (`mismatched`). When an open
  bracket of the closer's kind lies further down, the closer is taken to close that one,
  which leaves the innermost bracket open (crossed pairs such as `(a, [b)]` are reported
  once); otherwise the innermost bracket is dropped;
* at the end, the innermost bracket still open, if any (`unclosed`).
-/

namespace PineCheck

/-- The three kinds of bracket. -/
inductive Bracket where
  | round
  | square
  | curly
  deriving DecidableEq, Repr

namespace Bracket

/-- The kind of an opening bracket character. -/
def ofOpener? : Char → Option Bracket
  | '(' => some .round
  | '[' => some .square
  | '{' => some .curly
  | _ => none

/-- The kind of a closing bracket character. -/
def ofCloser? : Char → Option Bracket
  | ')' => some .round
  | ']' => some .square
  | '}' => some .curly
  | _ => none

/-- The opening character of a kind. -/
def opener : Bracket → Char
  | .round => '('
  | .square => '['
  | .curly => '{'

/-- The closing character of a kind. -/
def closer : Bracket → Char
  | .round => ')'
  | .square => ']'
  | .curly => '}'

end Bracket

/-- An open bracket and where it stands. -/
structure OpenBracket where
  kind : Bracket
  line : Nat
  column : Nat
  deriving DecidableEq, Repr

/-- What is wrong with a bracket. -/
inductive BracketFault where
  /-- A closer at `(line, column)` with nothing open. -/
  | unmatched (kind : Bracket) (line column : Nat)
  /-- A closer at `(line, column)` whose kind differs from the innermost open bracket. -/
  | mismatched (innermost : OpenBracket) (kind : Bracket) (line column : Nat)
  /-- A bracket left open at the end. -/
  | unclosed (innermost : OpenBracket)
  deriving DecidableEq, Repr

/-- The finding for a bracket fault. -/
def BracketFault.toDiagnostic : BracketFault → Diagnostic
  | .unmatched k line column =>
    Diagnostic.make .delimiter s!"Unmatched closing delimiter '{k.closer}'." line column
  | .mismatched o k line column =>
    let inner := o.kind.opener
    let innerLine := o.line
    let close := k.closer
    Diagnostic.make .delimiter
      s!"Mismatched delimiter: '{inner}' (line {innerLine}) closed by '{close}'." line column
  | .unclosed o =>
    Diagnostic.make .delimiter s!"Unclosed delimiter '{o.kind.opener}'." o.line o.column

/-- The open brackets, innermost first, and the faults found so far, last first. -/
structure BracketScan where
  stack : List OpenBracket
  faults : List BracketFault
  deriving DecidableEq, Repr

/-- The stack without its first bracket of a kind, if it has one. -/
def eraseFirstOfKind (kind : Bracket) : List OpenBracket → Option (List OpenBracket)
  | [] => none
  | o :: rest =>
    if o.kind == kind then some rest
    else (eraseFirstOfKind kind rest).map (o :: ·)

namespace BracketScan

/-- The scan before any character. -/
def empty : BracketScan := ⟨[], []⟩

/-- Read the character at `(line, column)`. -/
def step (s : BracketScan) (line column : Nat) (c : Char) : BracketScan :=
  match Bracket.ofOpener? c with
  | some k => { s with stack := ⟨k, line, column⟩ :: s.stack }
  | none =>
    match Bracket.ofCloser? c with
    | none => s
    | some k =>
      match s.stack with
      | [] => { s with faults := .unmatched k line column :: s.faults }
      | top :: rest =>
        if top.kind == k then { s with stack := rest }
        else
          let stack := match eraseFirstOfKind k rest with
            | some rest' => top :: rest'
            | none => rest
          ⟨stack, .mismatched top k line column :: s.faults⟩

/-- Read the characters of a line from column `column` on. -/
def readLine (line : Nat) : BracketScan → Nat → List Char → BracketScan
  | s, _, [] => s
  | s, column, c :: rest => readLine line (s.step line column c) (column + 1) rest

/-- Read lines numbered from `line` on. -/
def readLines : BracketScan → Nat → List (List Char) → BracketScan
  | s, _, [] => s
  | s, line, l :: rest => readLines (s.readLine line 1 l) (line + 1) rest

/-- All faults of a scan, in the order they were met, with the innermost open bracket last. -/
def allFaults (s : BracketScan) : List BracketFault :=
  s.faults.reverse ++ (match s.stack with
    | top :: _ => [.unclosed top]
    | [] => [])

end BracketScan

/-- The bracket faults of the code lines of a file, line 1 first. -/
def bracketFaults (codes : List (List Char)) : List BracketFault :=
  (BracketScan.empty.readLines 1 codes).allFaults

/-- The bracket findings of the code lines of a file, line 1 first. -/
def checkBrackets (codes : List (List Char)) : List Diagnostic :=
  (bracketFaults codes).map BracketFault.toDiagnostic

end PineCheck
