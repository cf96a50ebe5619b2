import PineCheck.Text.Blank
import PineCheck.Diagnostic
/-!
# Physical lines

A source text is cut into physical lines at each line feed; a final line feed ends the last
line rather than starting an empty one, and one carriage return at the end of a line is
dropped. Each line is then classified: its code is the text before the first `//`, its
indent the number of blank characters it starts with, and it is blank (blank characters
only), a comment (blank code) or code.

Two hygiene checks look at every line: a tab anywhere, and blank characters at the end of a
line that is not blank.
-/

namespace PineCheck

/-- What a line holds. -/
inductive LineKind where
  | blank
  | comment
  | code
  deriving DecidableEq, Repr

/-- The name of a line kind. -/
def LineKind.name : LineKind → String
  | .blank => "blank"
  | .comment => "comment"
  | .code => "code"

/-- A classified physical line. -/
structure Line where
  /-- The line number, from 1. -/
  number : Nat
  /-- The whole text of the line. -/
  text : List Char
  /-- The text before the first `//`. -/
  code : List Char
  /-- How many blank characters the line starts with. -/
  indent : Nat
  kind : LineKind
  deriving DecidableEq, Repr

/-- The text before the first `//`. -/
def stripComment : List Char → List Char
  | '/' :: '/' :: _ => []
  | c :: rest => c :: stripComment rest
  | [] => []

namespace Line

/-- Classify the text of line `number`. -/
def classify (number : Nat) (text : List Char) : Line :=
  let code := stripComment text
  { number := number
    text := text
    code := code
    indent := (text.takeWhile Text.isBlank).length
    kind := if Text.allBlank text then .blank else if Text.allBlank code then .comment else .code }

/-- The code without blank characters at either end. -/
def stripped (l : Line) : List Char := Text.trimBlank l.code

/-- Whether the line holds code. -/
def isCode (l : Line) : Bool := l.kind == .code

/-- The first tab of the line. -/
def tabFinding (l : Line) : List Diagnostic :=
  match l.text.idxOf? '\t' with
  | some i => [Diagnostic.make .tab "Tabs are not allowed; use spaces." l.number (i + 1)]
  | none => []

/-- Blank characters at the end of a line that is not blank, reported where they start. -/
def trailingSpaceFinding (l : Line) : List Diagnostic :=
  if l.kind == .blank then []
  else
    let run := (l.text.reverse.takeWhile Text.isBlank).length
    if run == 0 then []
    else [Diagnostic.make .trailingSpace "Trailing whitespace detected." l.number
      (l.text.length - run + 1)]

end Line

/-- The pieces of a text between the separators. -/
def splitAt (sep : Char) : List Char → List (List Char)
  | [] => [[]]
  | c :: rest =>
    if c == sep then [] :: splitAt sep rest
    else
      match splitAt sep rest with
      | piece :: pieces => (c :: piece) :: pieces
      | [] => [[c]]

/-- A line without one carriage return at its end. -/
def dropCarriageReturn (l : List Char) : List Char :=
  if l.getLast? == some '\r' then l.dropLast else l

/-- The physical lines of a source text. -/
def physicalLines (content : List Char) : List (List Char) :=
  let pieces := splitAt '\n' content
  let pieces := if content.getLast? == some '\n' then pieces.dropLast else pieces
  pieces.map dropCarriageReturn

/-- The classified lines of a source text, numbered from 1. -/
def classifyLines (content : List Char) : List Line :=
  (physicalLines content).zipIdx.map fun (text, i) => Line.classify (i + 1) text

end PineCheck
