import PineCheck.Text.Scan
/-!
# Shapes of Pine Script lines

The scope of a line and the rules that read it depend on a few shapes of its code, each
recognised at the start of the (stripped) code:

* a function head `[export] [method] name(…) =>`;
* a loop head, `for` or `while` as a whole word;
* a persistent declaration `var`/`varip` [type] `name =`;
* an assignment `[var|varip|const|simple|series …] [type] name =` (or `:=`), whose target
  name the reserved-word rule checks;
* a block opener: a line that starts with `if`, `else`, `for`, `while`, `switch` or `type`,
  ends with `=>`, or assigns an `if`, `switch`, `for` or `while` expression;
* a dangling end: a line whose last token (an operator, a comma, an open bracket, or one of
  the words `and`, `or`, `not`) asks for the statement to go on, unless it ends with `=>`.

A name starts with an ASCII letter or an underscore and goes on with word characters. A
type is a name that may hold dots, optionally followed by `<…>` and by `[]`.
-/

namespace PineCheck.Script

open Text

/-- The length of the name at the start of a text. -/
def nameLength : List Char → Option Nat
  | c :: rest => if isNameStart c then some (1 + (rest.takeWhile isWord).length) else none
  | [] => none

/-- A keyword followed by at least one blank: the length of both. -/
def keywordBlanks (word cs : List Char) : Option Nat :=
  match afterPrefix word cs with
  | some rest => if blankRun rest > 0 then some (word.length + blankRun rest) else none
  | none => none

/-- A keyword as a whole word at the start of a text. -/
def startsWithWord (word cs : List Char) : Bool :=
  match afterPrefix word cs with
  | some rest => wordEnds rest
  | none => false

/-- A type followed by at least one blank: its length. -/
def typeLength (cs : List Char) : Option Nat :=
  match cs with
  | c :: rest =>
    if isNameStart c then
      let base := 1 + (rest.takeWhile fun d => isWord d || d == '.').length
      let r1 := cs.drop base
      let generic := match r1 with
        | '<' :: r => (match r.idxOf? '>' with
          | some j => if j < r.length then j + 2 else 0
          | none => 0)
        | _ => 0
      let r2 := r1.drop generic
      let array := if ['[', ']'].isPrefixOf r2 then 2 else 0
      let gap := blankRun (r2.drop array)
      if gap > 0 then some (base + generic + array + gap) else none
    else none
  | [] => none

/-- What may follow an assignment sign: neither `=` nor `>`. -/
def assignEnds : List Char → Bool
  | '=' :: _ => false
  | '>' :: _ => false
  | _ => true

/-- A name, blanks and `=` or `:=` (not the start of `==`, `=>`, `:==` or `:=>`): the name. -/
def assignedName (cs : List Char) : Option (List Char) :=
  match nameLength cs with
  | some n =>
    let ok := match dropBlank (cs.drop n) with
      | ':' :: '=' :: r => assignEnds r
      | '=' :: r => assignEnds r
      | _ => false
    if ok then some (cs.take n) else none
  | none => none

/-- The words that may stand before a declared name. -/
def declarationKeywords : List (List Char) :=
  ["var".toList, "varip".toList, "const".toList, "simple".toList, "series".toList]

/-- A declaration keyword followed by blanks: their length. -/
def declarationKeywordLength (cs : List Char) : Option Nat :=
  declarationKeywords.findSome? fun w => keywordBlanks w cs

/-- The positions after 0, 1, 2, … leading declaration keywords, most keywords first. -/
def keywordStops (cs : List Char) (pos : Nat) : (fuel : Nat) → List Nat
  | 0 => [pos]
  | fuel + 1 =>
    match declarationKeywordLength (cs.drop pos) with
    | some n => keywordStops cs (pos + n) fuel ++ [pos]
    | none => [pos]

/-- The target of a name, typed or not, declared or assigned at `pos`: the name and where it
starts. A type is tried first. -/
def targetAt (cs : List Char) (pos : Nat) : Option (List Char × Nat) :=
  let rest := cs.drop pos
  let typed := match typeLength rest with
    | some t => (assignedName (rest.drop t)).map fun name => (name, pos + t)
    | none => none
  match typed with
  | some r => some r
  | none => (assignedName rest).map fun name => (name, pos)

/-- The name that an assignment at the start of the code gives a value, and where it
starts: after as many declaration keywords as will still leave an assignment. -/
def assignmentTarget (cs : List Char) : Option (List Char × Nat) :=
  (keywordStops cs 0 cs.length).findSome? (targetAt cs)

/-- The name of a persistent (`var` or `varip`) declaration at the start of the code. -/
def persistentName (cs : List Char) : Option (List Char) :=
  let declared (rest : List Char) : Option (List Char) :=
    match nameLength rest with
    | some n =>
      match dropBlank (rest.drop n) with
      | '=' :: r => if r.head? == some '=' then none else some (rest.take n)
      | _ => none
    | none => none
  let afterKeyword :=
    match keywordBlanks "var".toList cs with
    | some n => some n
    | none => keywordBlanks "varip".toList cs
  match afterKeyword with
  | some k =>
    let rest := cs.drop k
    let typed := match typeLength rest with
      | some t => declared (rest.drop t)
      | none => none
    match typed with
    | some name => some name
    | none => declared rest
  | none => none

/-- Whether `)` comes, with no line feed before it, followed by blanks and `=>`. -/
def closesBeforeArrow : List Char → Bool
  | [] => false
  | c :: rest =>
    (c == ')' && (afterPrefix "=>".toList (dropBlank rest)).isSome) ||
      (c != '\n' && closesBeforeArrow rest)

/-- A name, blanks, `(`, then a closing `)` followed by `=>`. -/
def headAfterModifiers (cs : List Char) : Bool :=
  match nameLength cs with
  | some n =>
    match dropBlank (cs.drop n) with
    | '(' :: rest => closesBeforeArrow rest
    | _ => false
  | none => false

/-- The text after an optional keyword and its blanks: with the keyword first, then
without. -/
def optionalKeyword (word cs : List Char) : List (List Char) :=
  match keywordBlanks word cs with
  | some n => [cs.drop n, cs]
  | none => [cs]

/-- A function head: `[export] [method] name(…) =>`. -/
def isFunctionHead (cs : List Char) : Bool :=
  (optionalKeyword "export".toList cs).any fun r =>
    (optionalKeyword "method".toList r).any headAfterModifiers

/-- A loop head: `for` or `while` as a whole word. -/
def isLoopHead (cs : List Char) : Bool :=
  startsWithWord "for".toList cs || startsWithWord "while".toList cs

/-- The words that open a block at the start of a line. -/
def blockKeywords : List (List Char) :=
  ["if".toList, "else".toList, "for".toList, "while".toList, "switch".toList, "type".toList]

/-- The expressions whose value an assignment can take from a block. -/
def blockExpressions : List (List Char) :=
  ["if".toList, "switch".toList, "for".toList, "while".toList]

/-- An assignment of a block expression: after the first `=`, blanks and one of `if`,
`switch`, `for`, `while` as a whole word. -/
def assignsBlock (cs : List Char) : Bool :=
  match cs.idxOf? '=' with
  | some e =>
    if e < cs.length then
      let rest := dropBlank (cs.drop (e + 1))
      blockExpressions.any fun w => startsWithWord w rest
    else false
  | none => false

/-- Whether a text ends with `=>`. -/
def endsWithArrow (cs : List Char) : Bool := "=>".toList.isSuffixOf cs

/-- Whether a line of code opens a block. -/
def opensBlock (code : List Char) : Bool :=
  let s := trimBlank code
  blockKeywords.any (fun w => startsWithWord w s) || endsWithArrow s || assignsBlock s

/-- The characters whose place at the end of a line continues the statement. -/
def continuationChars : List Char :=
  [',', '+', '-', '*', '/', '%', '?', ':', '<', '>', '=', '(', '[', '{']

/-- Whether a text ends with a word as a whole word. -/
def endsWithWord (word cs : List Char) : Bool :=
  word.isSuffixOf cs && !wordAt (cs.reverse.drop word.length).head?

/-- Whether a line of code asks for the statement to go on on the next line. -/
def endsWithContinuation (code : List Char) : Bool :=
  let s := dropBlankEnd code
  match s.getLast? with
  | none => false
  | some last =>
    !endsWithArrow s &&
      (continuationChars.contains last || endsWithWord "and".toList s ||
        endsWithWord "or".toList s || endsWithWord "not".toList s)

end PineCheck.Script
