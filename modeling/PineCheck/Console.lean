import PineCheck.Text.Blank
import PineCheck.Console.Cells
import PineCheck.Console.Emoji
import PineCheck.Console.Style
import PineCheck.Console.Literal
/-!
# Console text

Messages for people go to a console that reads style markup and wraps lines.

Markup: `[name]` opens a style and `[/name]` (or `[/]`) closes it; a tag starts with a
lowercase letter, `#`, `/` or `@`, holds no `[`, and ends at the first `]`. Tags are
removed from the text. A backslash before a tag keeps it as text; pairs of backslashes
before a tag read as single ones. Styles are matched by their normal forms
(`PineCheck.Console.Style`), so `[b]` is closed by `[/bold]`; closing a style that is not
open is an error. A meta tag (`[@name=parameters]`) checks its parameters when it closes:
a handler name and parenthesised arguments, or a whole literal
(`PineCheck.Console.Literal`). Emoji codes in the text are replaced
(`PineCheck.Console.Emoji`). The control characters bell, backspace, vertical tab, form
feed and carriage return are dropped.

Wrapping: each line is cut into words (blanks, then non-blanks, then blanks) and filled
into lines of 80 cells. A word that does not fit moves to the next line; a word longer than
a whole line is folded into pieces of at most 80 cells. Tabs first become spaces up to the
next multiple of 8 cells. Trailing blanks past the width are dropped.
-/

namespace PineCheck.Console

/-- The width of the console in cells. -/
def width : Nat := 80

/-- A markup tag: its name and its parameters after `=`, if any. -/
structure Tag where
  name : String
  parameters : Option String

/-- The tag as written. -/
def Tag.markup (t : Tag) : String :=
  match t.parameters with
  | none => "[" ++ t.name ++ "]"
  | some p => "[" ++ t.name ++ "=" ++ p ++ "]"

/-- A piece of markup: plain text or a tag, at a position. -/
inductive Piece where
  | plain (text : List Char)
  | tag (position : Nat) (t : Tag)

/-- Whether a character can start a tag name. -/
def startsTag (c : Char) : Bool := ('a' ≤ c && c ≤ 'z') || c == '#' || c == '/' || c == '@'

/-- A tag at the front of `cs`: the backslashes before it, the tag text, and the length of
the whole match. -/
def tagAt (cs : List Char) : Option (Nat × List Char × Nat) :=
  let slashes := (cs.takeWhile (· == '\\')).length
  match cs.drop slashes with
  | '[' :: c :: rest =>
    if startsTag c then
      let body := rest.takeWhile fun d => d != ']' && d != '['
      match rest.drop body.length with
      | ']' :: _ => some (slashes, c :: body, slashes + 3 + body.length)
      | _ => none
    else none
  | _ => none

/-- Split markup into plain pieces and tags, left to right. `fuel` bounds the steps. -/
def pieces (fuel : Nat) (cs : List Char) (pos : Nat) (pending : List Char) : List Piece :=
  match fuel, cs with
  | 0, _ => [.plain (pending.reverse ++ cs)]
  | _, [] => if pending.isEmpty then [] else [.plain pending.reverse]
  | fuel + 1, c :: rest =>
    match tagAt cs with
    | none => pieces fuel rest (pos + 1) (c :: pending)
    | some (slashes, text, len) =>
      let before := if pending.isEmpty then [] else [Piece.plain pending.reverse]
      let kept := List.replicate (slashes / 2) '\\'
      let lead := if kept.isEmpty then [] else [Piece.plain kept]
      let after := cs.drop len
      if slashes % 2 == 1 then
        before ++ lead ++ [.plain ('[' :: text ++ [']'])] ++ pieces fuel after (pos + len) []
      else
        let name := text.takeWhile (· != '=')
        let params := match text.drop name.length with
          | '=' :: p => some (String.ofList p)
          | _ => none
        before ++ lead ++ [.tag (pos + slashes) ⟨String.ofList name, params⟩] ++
          pieces fuel after (pos + len) []

/-- A failure of printing: its kind and message. -/
structure PrintFault where
  kind : String
  message : String

/-- The control characters the console drops. -/
def isDroppedControl (c : Char) : Bool :=
  c == '\x07' || c == '\x08' || c == '\x0b' || c == '\x0c' || c == '\r'

/-- The emoji code that starts with the colon at the front of `cs`: its name, the
variation selector it asks for, and its length. A name is the shortest run of non-blank
characters that a colon ends, or `-emoji` or `-text` and a colon. -/
def emojiCodeAt (cs : List Char) : Option (List Char × List Char × Nat) :=
  let rest := cs.drop 1
  let rec go (fuel : Nat) (j : Nat) : Option (List Char × List Char × Nat) :=
    match fuel with
    | 0 => none
    | fuel + 1 =>
      let here := rest.drop j
      if here.take 7 == "-emoji:".toList then some (rest.take j, ['\uFE0F'], j + 8)
      else if here.take 6 == "-text:".toList then some (rest.take j, ['\uFE0E'], j + 7)
      else match here with
        | ':' :: _ => some (rest.take j, [], j + 2)
        | c :: _ => if Text.isBlank c then none else go fuel (j + 1)
        | [] => none
  go (rest.length + 1) 0

/-- Replace the emoji codes of a text by their emoji; a code with an unknown name stays. -/
def replaceEmoji : Nat → List Char → List Char
  | 0, cs => cs
  | _, [] => []
  | fuel + 1, c :: rest =>
    if c == ':' then
      match emojiCodeAt (c :: rest) with
      | some (name, variant, len) =>
        let code := (c :: rest).take len
        let shown := match emojiOf? (String.ofList name) with
          | some e => e.toList ++ variant
          | none => code
        shown ++ replaceEmoji fuel ((c :: rest).drop len)
      | none => c :: replaceEmoji fuel rest
    else c :: replaceEmoji fuel rest

/-- Plain text with `\[` read as `[`. -/
def unescapeBrackets : List Char → List Char
  | '\\' :: '[' :: rest => '[' :: unescapeBrackets rest
  | c :: rest => c :: unescapeBrackets rest
  | [] => []

/-- The arguments of a meta tag's handler, when the parameters are a name of word
characters and points followed by nothing or by parenthesised arguments: the arguments,
`()` when there are none. Any other parameters are kept whole. -/
def handlerArguments (params : List Char) : List Char :=
  let name := params.takeWhile fun c => Text.isWord c || c == '.'
  match params.drop name.length with
  | [] => "()".toList
  | rest =>
    if rest.head? == some '(' && rest.getLast? == some ')' && rest.length ≥ 2 &&
        !rest.contains '\n' then rest
    else params

/-- Whether the parameters of a closing meta tag can be read. -/
def metaParametersOk (params : Option String) : Bool :=
  match params with
  | none => true
  | some p =>
    if p.isEmpty then true
    else Literal.isLiteral (String.ofList (handlerArguments (Text.trimBlank p.toList)))

/-- An open tag: its normal name and its parameters. -/
abbrev OpenTag := String × Option String

/-- Close the most recent open tag of a name, searching from the most recent. -/
def closeStyle (name : String) : List OpenTag → Option (OpenTag × List OpenTag)
  | [] => none
  | t :: rest =>
    if t.1 == name then some (t, rest)
    else (closeStyle name rest).map fun (found, more) => (found, t :: more)

/-- The normal form of a tag name, or the failure of reading it. -/
def normalTag (name : String) : Except PrintFault String :=
  (normalizeStyle name).mapError fun m => ⟨"ValueError", m⟩

/-- The tag a closing tag closes (`written` is its name without the slash) and the tags
left open, or why it closes none. -/
def closeTag (position : Nat) (t : Tag) (written : String) (open_ : List OpenTag) :
    Except PrintFault (OpenTag × List OpenTag) := do
  if written.isEmpty then
    match open_ with
    | top :: more => pure (top, more)
    | [] => throw ⟨"MarkupError", s!"closing tag '[/]' at position {position} has nothing to close"⟩
  else
    let name ← normalTag written
    match closeStyle name open_ with
    | some found => pure found
    | none =>
      let shown := t.markup
      throw ⟨"MarkupError", s!"closing tag '{shown}' at position {position} doesn't match any open tag"⟩

/-- The text of markup with its tags removed and its emoji codes replaced, or the failure
of a tag that closes nothing, of meta parameters that are no literal, or of a style that
cannot be read. -/
def render (markup : String) : Except PrintFault String := do
  let cs := markup.toList
  if !cs.contains '[' then
    return String.ofList ((replaceEmoji (cs.length + 1) cs).filter (!isDroppedControl ·))
  let mut out : List Char := []
  let mut open_ : List OpenTag := []
  for p in pieces (cs.length + 1) cs 0 [] do
    match p with
    | .plain text =>
      let plain := unescapeBrackets text
      out := out ++ (replaceEmoji (plain.length + 1) plain).filter (!isDroppedControl ·)
    | .tag position t =>
      match t.name.toList with
      | '/' :: rest =>
        let closed ← closeTag position t (String.ofList (Text.trimBlank rest)) open_
        let ((name, params), more) := closed
        open_ := more
        if name.startsWith "@" && !metaParametersOk params then
          throw ⟨"MarkupError", s!"error parsing parameters of {name}"⟩
      | _ =>
        let name ← normalTag t.name
        open_ := (name, t.parameters) :: open_
  return String.ofList out

/-- Tabs as spaces up to the next multiple of 8 cells. -/
def expandTabs (cs : List Char) : List Char :=
  (cs.foldl (fun (acc : List Char × Nat) c =>
    if c == '\t' then
      let n := 8 - acc.2 % 8
      (acc.1 ++ List.replicate n ' ', acc.2 + n)
    else (acc.1 ++ [c], acc.2 + cellWidth c)) ([], 0)).1

/-- The words of a line: each a run of blanks, non-blanks, then blanks, with its start. -/
def words (cs : List Char) : List (Nat × List Char) :=
  let rec go (fuel : Nat) (rest : List Char) (pos : Nat) : List (Nat × List Char) :=
    match fuel with
    | 0 => []
    | fuel + 1 =>
      let lead := rest.takeWhile Text.isBlank
      let body := (rest.drop lead.length).takeWhile (!Text.isBlank ·)
      if body.isEmpty then []
      else
        let trail := (rest.drop (lead.length + body.length)).takeWhile Text.isBlank
        let n := lead.length + body.length + trail.length
        (pos, rest.take n) :: go fuel (rest.drop n) (pos + n)
  go (cs.length + 1) cs 0

/-- A text cut into pieces of at most `w` cells each. -/
def chopCells (w : Nat) (cs : List Char) : List (List Char) :=
  let (lines, last, _) := cs.foldl (fun (acc : List (List Char) × List Char × Nat) c =>
    let (done, cur, total) := acc
    let cw := cellWidth c
    if total + cw > w then (done ++ [cur], [c], cw) else (done, cur ++ [c], total + cw)) ([], [], 0)
  lines ++ [last]

/-- Where a line is broken to fit the width: before each word that does not fit, and
inside each word longer than a line. -/
def breaks (cs : List Char) : List Nat :=
  let step := fun (acc : List Nat × Nat) (wd : Nat × List Char) =>
    let (out, offset) := acc
    let (start, word) := wd
    let wordLength := cellLength (Text.dropBlankEnd word)
    if (width : Int) - offset ≥ wordLength then (out, offset + cellLength word)
    else if wordLength > width then
      let pieces := chopCells width word
      let (out', _, offset') := pieces.zipIdx.foldl (fun (a : List Nat × Nat × Nat) (piece, i) =>
        let (o, st, off) := a
        let o := if st != 0 then o ++ [st] else o
        if i + 1 == pieces.length then (o, st, cellLength piece) else (o, st + piece.length, off)) (out, start, offset)
      (out', offset')
    else if offset != 0 && start != 0 then (out ++ [start], cellLength word)
    else (out, offset)
  ((words cs).foldl step ([], 0)).1

/-- Cut a text at offsets. -/
def cutAt (cs : List Char) (offsets : List Nat) : List (List Char) :=
  let bounds := 0 :: offsets ++ [cs.length]
  (bounds.zip bounds.tail).map fun (a, b) => (cs.drop a).take (b - a)

/-- A line with more characters than the width loses trailing blanks, as many as it has
characters past the width (counted in characters, not cells). -/
def cropBlankEnd (cs : List Char) : List Char :=
  if cs.length > width then
    let blanks := cs.length - (Text.dropBlankEnd cs).length
    cs.take (cs.length - min blanks (cs.length - width))
  else cs

/-- The first characters of `cs` that fill `total` cells, found by halving the interval
`[start, stop)` of cut points: the search stops at the first cut it meets whose characters
fill `total` cells exactly, or one cell more with a wide character last, which gives way to
a space. A long run of zero-width characters at the cut may so be partly dropped. Each step
narrows the interval, so `fuel` at least its length suffices. -/
def halveCells (cs : List Char) (total : Nat) : Nat → Nat → Nat → List Char
  | 0, _, _ => cs.take total
  | fuel + 1, start, stop =>
    let pos := (start + stop) / 2
    let before := cs.take (pos + 1)
    let cells := cellLength before
    if cells == total + 1 && (before.getLast?.map cellWidth) == some 2 then before.dropLast ++ [' ']
    else if cells == total then before
    else if cells > total then halveCells cs total fuel start pos
    else halveCells cs total fuel pos stop

/-- A line cut to the width when it takes more cells than that. -/
def fitWidth (cs : List Char) : List Char :=
  if cellLength cs > width then halveCells cs width (cs.length + 1) 0 cs.length else cs

/-- The console lines of one line of text. -/
def wrapLine (cs : List Char) : List String :=
  let cs := expandTabs cs
  (cutAt cs (breaks cs)).map fun l => String.ofList (fitWidth (cropBlankEnd l))

/-- The lines a printed message shows, or the failure of printing it. -/
def printLines (markup : String) : Except PrintFault (List String) := do
  let text ← render markup
  return (text.splitOn "\n").flatMap fun line => wrapLine line.toList

end PineCheck.Console
