import PineCheck.Yaml.Token
import PineCheck.Text.Utf8
/-!
# The YAML scanner

The scanner turns the characters of a stream into tokens. Indentation in block context is
turned into explicit start and end tokens, and a key written without `?` (a simple key) is
found when its `:` arrives: the scanner remembers, for each flow level, where a simple key
may have begun, and inserts the `KEY` token (and a block mapping start when the key opens a
new indentation level) back at that place.

Tokens are produced on demand: `peekToken` and `takeToken` scan only as far as needed to be sure of the
next token, which is as far as the end of any simple key that could begin there. So an
error further on in the stream is met only once the reader asks for the tokens before it.

End of text reads as the character `\x00`, which a readable stream never holds.

The stream is read in chunks of 4096 characters, two at the start and one more each time the
scanner looks at a character beyond those read, and every chunk is checked as it is read: a
chunk that holds a character a stream may not hold stops the scanner with an error naming
the first such character. So such a character late in a long stream is met only when the
scanner gets near it, and a fault before it is reported instead.
-/

namespace PineCheck.Yaml

/-- A place where a simple key may have begun: the number of the token that would be the
key, whether a key is required there (a block-context line starting at the current
indentation), and where it began. -/
structure SimpleKey where
  tokenNumber : Nat
  required : Bool
  index : Nat
  line : Nat
  column : Nat
  mark : Mark
  deriving Repr

/-- The scanner's state. `tokens` are scanned but not yet taken; `taken` counts those taken.
`indent` is the current block indentation (`-1` at top level) and `indents` the enclosing
ones. `keys` maps flow levels to the possible simple key at that level. `unreadable` is the
first character the stream may not hold, with its offset and the offset of the chunk it is
read in. -/
structure Scanner where
  text : Array Char
  unreadable : Option (Nat × Char × Nat)
  index : Nat
  line : Nat
  column : Nat
  done : Bool
  flowLevel : Int
  tokens : List Token
  taken : Nat
  indent : Int
  indents : List Int
  allowSimpleKey : Bool
  keys : List (Int × SimpleKey)
  deriving Repr

/-- Computations of the scanner: they change its state or stop with an error. -/
abbrev ScanM := StateT Scanner (Except YamlError)

namespace Scanner

/-- A line break character. -/
def isBreak (c : Char) : Bool :=
  c == '\r' || c == '\n' || c == '\x85' || c == '\u2028' || c == '\u2029'

/-- A line break or the end of text. -/
def isBreakOrEnd (c : Char) : Bool := c == '\x00' || isBreak c

/-- A space, tab, line break or the end of text. -/
def isBlankOrEnd (c : Char) : Bool := c == ' ' || c == '\t' || isBreakOrEnd c

/-- ASCII letters and digits, `-` and `_`: the characters of anchors, handles and
directive names. -/
def isNameChar (c : Char) : Bool :=
  ('0' ≤ c && c ≤ '9') || ('A' ≤ c && c ≤ 'Z') || ('a' ≤ c && c ≤ 'z') || c == '-' || c == '_'

/-- A hexadecimal digit. -/
def isHexDigit (c : Char) : Bool :=
  ('0' ≤ c && c ≤ '9') || ('A' ≤ c && c ≤ 'F') || ('a' ≤ c && c ≤ 'f')

/-- The characters that may not start a plain scalar (unless followed by a non-blank, for
`-`, `?` and `:`). -/
def plainStops : List Char :=
  ['\x00', ' ', '\t', '\r', '\n', '\x85', '\u2028', '\u2029', '-', '?', ':', ',', '[', ']',
    '\x7b', '\x7d', '#', '&', '*', '!', '|', '>', '\'', '"', '%', '@', '\x60']

/-- The characters allowed in a tag URI besides letters and digits. -/
def uriChars : List Char :=
  ['-', ';', '/', '?', ':', '@', '&', '=', '+', '$', ',', '_', '.', '!', '~', '*', '\'', '(',
    ')', '[', ']', '%']

/-- The state at the start of a text, whose first unreadable character (if any) is read
with the chunk at the given offset: one stream start token is ready. -/
def start (text : Array Char) (unreadable : Option (Nat × Char × Nat)) : Scanner :=
  let m : Mark := ⟨0, 0, 0⟩
  { text, unreadable, index := 0, line := 0, column := 0, done := false, flowLevel := 0,
    tokens := [⟨.streamStart, m, m⟩], taken := 0, indent := -1, indents := [],
    allowSimpleKey := true, keys := [] }

/-- Read the stream up to offset `p`: an error when that reads the chunk holding an
unreadable character. -/
def reach (p : Nat) : ScanM Unit := do
  match (← get).unreadable with
  | some (chunk, c, pos) => if p ≥ chunk then throw (.unacceptable c pos)
  | none => pure ()

/-- The character `k` places ahead. -/
def peek (k : Nat) : ScanM Char := do
  let s ← get
  reach (s.index + k)
  pure (s.text.getD (s.index + k) '\x00')

/-- The next `n` characters. -/
def ahead (n : Nat) : ScanM String := do
  let s ← get
  if n > 0 then reach (s.index + n - 1)
  pure (String.ofList ((List.range n).map fun k => s.text.getD (s.index + k) '\x00'))

/-- The current position. -/
def mark : ScanM Mark := do
  let s ← get
  pure ⟨s.index, s.line, s.column⟩

/-- Step over one character, having read the one after it. A line break starts a new line
(a `\r` only when no `\n` follows); a byte order mark takes no column. -/
def forward1 : ScanM Unit := do
  reach ((← get).index + 1)
  modify fun s =>
    let ch := s.text.getD s.index '\x00'
    let next := s.text.getD (s.index + 1) '\x00'
    if ch == '\n' || ch == '\x85' || ch == '\u2028' || ch == '\u2029' || (ch == '\r' && next != '\n') then
      { s with index := s.index + 1, line := s.line + 1, column := 0 }
    else if ch != '\uFEFF' then
      { s with index := s.index + 1, column := s.column + 1 }
    else
      { s with index := s.index + 1 }

/-- Step over `n` characters. -/
def forward (n : Nat) : ScanM Unit := do
  for _ in [0:n] do
    forward1

/-- A bound on the steps of any loop over the text. -/
def bound : ScanM Nat := do
  let s ← get
  pure (s.text.size + 2)

/-- How many characters from `k` places ahead on satisfy `p`, having read the first that
does not. -/
def countFrom (p : Char → Bool) (k : Nat) : ScanM Nat := do
  let s ← get
  let mut n := k
  for _ in [0:s.text.size + 2] do
    if p (s.text.getD (s.index + n) '\x00') then n := n + 1 else break
  reach (s.index + n)
  pure (n - k)

/-- Step over characters while they satisfy `p`. -/
def skipWhile (p : Char → Bool) : ScanM Unit := do
  let n ← countFrom p 0
  forward n

/-- The character `k` places ahead, quoted for a message. -/
def shown (k : Nat) : ScanM String := do
  pure (Text.quote (← peek k).toString)

/-- Add a token at the end of the queue. -/
def push (t : Token) : ScanM Unit := modify fun s => { s with tokens := s.tokens ++ [t] }

/-- The error of a simple key whose `:` never came. -/
def keyError (k : SimpleKey) : ScanM α := do
  throw (YamlError.at "while scanning a simple key" k.mark "could not find expected ':'" (← mark))

/-- Forget possible simple keys that can no longer be keys: those on an earlier line or more
than 1024 characters back. A required one is an error. -/
def staleKeys : ScanM Unit := do
  let s ← get
  let stale := fun (k : SimpleKey) => k.line != s.line || s.index - k.index > 1024
  match s.keys.find? (fun e => stale e.2 && e.2.required) with
  | some (_, k) => keyError k
  | none => set { s with keys := s.keys.filter fun e => !stale e.2 }

/-- Forget the possible simple key of the current flow level; a required one is an error. -/
def removeKey : ScanM Unit := do
  let s ← get
  match s.keys.lookup s.flowLevel with
  | some k => if k.required then keyError k else set { s with keys := s.keys.filter (fun e : Int × SimpleKey => e.1 != s.flowLevel) }
  | none => pure ()

/-- Remember that the next token may be a simple key, when simple keys are allowed here. -/
def saveKey : ScanM Unit := do
  let s ← get
  let required := s.flowLevel == 0 && s.indent == (s.column : Int)
  if s.allowSimpleKey then
    removeKey
    let s ← get
    let key : SimpleKey :=
      { tokenNumber := s.taken + s.tokens.length, required, index := s.index, line := s.line,
        column := s.column, mark := ⟨s.index, s.line, s.column⟩ }
    set { s with keys := s.keys.filter (fun e : Int × SimpleKey => e.1 != s.flowLevel) ++ [(s.flowLevel, key)] }

/-- The least token number among the possible simple keys. -/
def nextKeyNumber (s : Scanner) : Option Nat :=
  s.keys.foldl (fun acc e => match acc with
    | none => some e.2.tokenNumber
    | some n => some (min n e.2.tokenNumber)) none

/-- Close block collections deeper than `column`, one block end token each. Flow context
ignores indentation. -/
def unwindIndent (column : Int) : ScanM Unit := do
  let s ← get
  if s.flowLevel != 0 then return
  for _ in [0:s.indents.length + 1] do
    let s ← get
    if s.indent > column then
      match s.indents with
      | i :: rest =>
        let m : Mark := ⟨s.index, s.line, s.column⟩
        set { s with indent := i, indents := rest, tokens := s.tokens ++ [(⟨.blockEnd, m, m⟩ : Token)] }
      | [] => break
    else break

/-- Open a deeper indentation level at `column`, if it is deeper; says whether it did. -/
def addIndent (column : Int) : ScanM Bool := do
  let s ← get
  if s.indent < column then
    set { s with indents := s.indent :: s.indents, indent := column }
    pure true
  else pure false

/-- Step over a line break, giving the break it reads as: `\r\n`, `\r`, `\n` and `\x85`
read as `\n`; the Unicode line and paragraph separators read as themselves; no break reads
as the empty text. -/
def lineBreak : ScanM String := do
  let ch ← peek 0
  if ch == '\r' || ch == '\n' || ch == '\x85' then
    if (← ahead 2) == "\r\n" then forward 2 else forward 1
    pure "\n"
  else if ch == '\u2028' || ch == '\u2029' then
    forward 1
    pure ch.toString
  else pure ""

/-- Whether the next three characters are a document marker `---` or `...` followed by a
blank or the end. -/
def atDocumentSeparator : ScanM Bool := do
  let p ← ahead 3
  pure ((p == "---" || p == "...") && isBlankOrEnd (← peek 3))

/-- Skip spaces, comments and line breaks up to the next token. A line break in block
context allows a simple key again. Tabs are not skipped. -/
def toNextToken : ScanM Unit := do
  let s ← get
  if s.index == 0 && (← peek 0) == '\uFEFF' then forward 1
  for _ in [0:(← bound)] do
    skipWhile (· == ' ')
    if (← peek 0) == '#' then skipWhile (fun c => !isBreakOrEnd c)
    if (← lineBreak) != "" then
      if (← get).flowLevel == 0 then modify fun s => { s with allowSimpleKey := true }
    else break

/-! ## Directives -/

/-- A directive error. -/
def directiveError (start : Mark) (problem : String) : ScanM α := do
  throw (YamlError.at "while scanning a directive" start problem (← mark))

/-- The name of a directive. -/
def directiveName (start : Mark) : ScanM String := do
  let n ← countFrom isNameChar 0
  if n == 0 then
    let found ← shown 0
    directiveError start s!"expected alphabetic or numeric character, but found {found}"
  let name ← ahead n
  forward n
  let ch ← peek 0
  if !(ch == '\x00' || ch == ' ' || isBreak ch) then
    directiveError start s!"expected alphabetic or numeric character, but found {Text.quote ch.toString}"
  pure name

/-- A version number of a `%YAML` directive. -/
def versionNumber (start : Mark) : ScanM Nat := do
  let ch ← peek 0
  if !('0' ≤ ch && ch ≤ '9') then
    directiveError start s!"expected a digit, but found {Text.quote ch.toString}"
  let n ← countFrom (fun c => '0' ≤ c && c ≤ '9') 0
  let digits ← ahead n
  forward n
  pure (digits.foldl (fun acc c => acc * 10 + (c.toNat - '0'.toNat)) 0)

/-- The value of a `%YAML` directive. -/
def versionValue (start : Mark) : ScanM (Nat × Nat) := do
  skipWhile (· == ' ')
  let major ← versionNumber start
  if (← peek 0) != '.' then
    let found ← shown 0
    directiveError start s!"expected a digit or '.', but found {found}"
  forward 1
  let minor ← versionNumber start
  let ch ← peek 0
  if !(ch == '\x00' || ch == ' ' || isBreak ch) then
    directiveError start s!"expected a digit or ' ', but found {Text.quote ch.toString}"
  pure (major, minor)

/-- The rest of a directive line: spaces and a comment, then a line break. -/
def directiveLineEnd (start : Mark) : ScanM Unit := do
  skipWhile (· == ' ')
  if (← peek 0) == '#' then skipWhile (fun c => !isBreakOrEnd c)
  let ch ← peek 0
  if !isBreakOrEnd ch then
    directiveError start s!"expected a comment or a line break, but found {Text.quote ch.toString}"
  let _ ← lineBreak

/-! ## Tags -/

/-- A tag handle: `!`, `!!` or `!name!`. -/
def tagHandle (what : String) (start : Mark) : ScanM String := do
  let ch ← peek 0
  if ch != '!' then
    throw (YamlError.at s!"while scanning a {what}" start s!"expected '!', but found {Text.quote ch.toString}" (← mark))
  let mut len := 1
  let ch ← peek 1
  if ch != ' ' then
    let n ← countFrom isNameChar 1
    len := 1 + n
    let ch ← peek len
    if ch != '!' then
      forward len
      throw (YamlError.at s!"while scanning a {what}" start s!"expected '!', but found {Text.quote ch.toString}" (← mark))
    len := len + 1
  let value ← ahead len
  forward len
  pure value

/-- Percent escapes in a URI: the bytes they name, read as UTF-8. -/
def uriEscapes (what : String) (start : Mark) : ScanM String := do
  let m ← mark
  let mut codes : List UInt8 := []
  for _ in [0:(← bound)] do
    if (← peek 0) != '%' then break
    forward 1
    for k in [0:2] do
      if !isHexDigit (← peek k) then
        let found ← shown k
        throw (YamlError.at s!"while scanning a {what}" start
          s!"expected URI escape sequence of 2 hexadecimal numbers, but found {found}" (← mark))
    let hex ← ahead 2
    codes := codes ++ (Utf8.bytesOfHex hex).getD []
    forward 2
  match Utf8.decodeUtf8 codes with
  | .ok text => pure text
  | .error e => throw (YamlError.at s!"while scanning a {what}" start e.message m)

/-- A tag URI: letters, digits, URI punctuation and percent escapes. -/
def tagUri (what : String) (start : Mark) : ScanM String := do
  let mut chunks : List String := []
  let mut len := 0
  for _ in [0:(← bound)] do
    let ch ← peek len
    if isNameChar ch || uriChars.contains ch then
      if ch == '%' then
        chunks := chunks ++ [← ahead len]
        forward len
        len := 0
        chunks := chunks ++ [← uriEscapes what start]
      else len := len + 1
    else break
  if len != 0 then
    chunks := chunks ++ [← ahead len]
    forward len
  if chunks.isEmpty then
    let found ← shown 0
    throw (YamlError.at s!"while parsing a {what}" start s!"expected URI, but found {found}" (← mark))
  pure (String.join chunks)

/-- The value of a `%TAG` directive: a handle and a prefix. -/
def tagDirectiveValue (start : Mark) : ScanM (String × String) := do
  skipWhile (· == ' ')
  let handle ← tagHandle "directive" start
  let ch ← peek 0
  if ch != ' ' then directiveError start s!"expected ' ', but found {Text.quote ch.toString}"
  skipWhile (· == ' ')
  let pre ← tagUri "directive" start
  let ch ← peek 0
  if !(ch == '\x00' || ch == ' ' || isBreak ch) then
    directiveError start s!"expected ' ', but found {Text.quote ch.toString}"
  pure (handle, pre)

/-- A directive token. -/
def directive : ScanM Token := do
  let start ← mark
  forward 1
  let name ← directiveName start
  let kind ←
    if name == "YAML" then do
      let (major, minor) ← versionValue start
      pure (TokenKind.versionDirective major minor)
    else if name == "TAG" then do
      let (handle, pre) ← tagDirectiveValue start
      pure (TokenKind.tagDirective handle pre)
    else pure (TokenKind.otherDirective name)
  let stop ← mark
  if name != "YAML" && name != "TAG" then skipWhile (fun c => !isBreakOrEnd c)
  directiveLineEnd start
  pure ⟨kind, start, stop⟩

/-- A tag token: `!<uri>`, a lone `!`, or a handle and a suffix. -/
def tag : ScanM Token := do
  let start ← mark
  let ch ← peek 1
  let (handle, suffix) ←
    if ch == '<' then do
      forward 2
      let suffix ← tagUri "tag" start
      if (← peek 0) != '>' then
        let found ← shown 0
        throw (YamlError.at "while parsing a tag" start s!"expected '>', but found {found}" (← mark))
      forward 1
      pure ((none : Option String), suffix)
    else if isBlankOrEnd ch then do
      forward 1
      pure (none, "!")
    else do
      let n ← countFrom (fun c => !(c == '\x00' || c == ' ' || isBreak c || c == '!')) 1
      let useHandle := (← peek (1 + n)) == '!'
      let handle ←
        if useHandle then tagHandle "tag" start
        else do
          forward 1
          pure "!"
      let suffix ← tagUri "tag" start
      pure (some handle, suffix)
  let ch ← peek 0
  if !(ch == '\x00' || ch == ' ' || isBreak ch) then
    throw (YamlError.at "while scanning a tag" start s!"expected ' ', but found {Text.quote ch.toString}" (← mark))
  pure ⟨.tag handle suffix, start, ← mark⟩

/-! ## Anchors and aliases -/

/-- An anchor `&name` or alias `*name` token. -/
def anchorOrAlias (isAlias : Bool) : ScanM Token := do
  let start ← mark
  let what := if isAlias then "alias" else "anchor"
  forward 1
  let n ← countFrom isNameChar 0
  if n == 0 then
    let found ← shown 0
    throw (YamlError.at s!"while scanning an {what}" start
      s!"expected alphabetic or numeric character, but found {found}" (← mark))
  let name ← ahead n
  forward n
  let ch ← peek 0
  if !(isBlankOrEnd ch || ['?', ':', ',', ']', '\x7d', '%', '@', '\x60'].contains ch) then
    throw (YamlError.at s!"while scanning an {what}" start
      s!"expected alphabetic or numeric character, but found {Text.quote ch.toString}" (← mark))
  let kind := if isAlias then TokenKind.reference name else TokenKind.anchor name
  pure ⟨kind, start, ← mark⟩

/-! ## Block scalars -/

/-- The header of a block scalar: chomping (`some true` keep, `some false` strip) and an
explicit indentation increment. -/
def blockIndicators (start : Mark) : ScanM (Option Bool × Option Nat) := do
  let err := fun (p : String) => do throw (YamlError.at "while scanning a block scalar" start p (← mark))
  let zero := "expected indentation indicator in the range 1-9, but found 0"
  let mut chomping : Option Bool := none
  let mut increment : Option Nat := none
  let ch ← peek 0
  if ch == '+' || ch == '-' then
    chomping := some (ch == '+')
    forward 1
    let ch ← peek 0
    if '0' ≤ ch && ch ≤ '9' then
      if ch == '0' then err zero
      increment := some (ch.toNat - '0'.toNat)
      forward 1
  else if '0' ≤ ch && ch ≤ '9' then
    if ch == '0' then err zero
    increment := some (ch.toNat - '0'.toNat)
    forward 1
    let ch ← peek 0
    if ch == '+' || ch == '-' then
      chomping := some (ch == '+')
      forward 1
  let ch ← peek 0
  if !(ch == '\x00' || ch == ' ' || isBreak ch) then
    err s!"expected chomping or indentation indicators, but found {Text.quote ch.toString}"
  pure (chomping, increment)

/-- The rest of a block scalar's header line. -/
def blockHeaderEnd (start : Mark) : ScanM Unit := do
  skipWhile (· == ' ')
  if (← peek 0) == '#' then skipWhile (fun c => !isBreakOrEnd c)
  let ch ← peek 0
  if !isBreakOrEnd ch then
    throw (YamlError.at "while scanning a block scalar" start
      s!"expected a comment or a line break, but found {Text.quote ch.toString}" (← mark))
  let _ ← lineBreak

/-- Leading empty lines of a block scalar with no explicit indentation: the breaks, the
deepest column reached by their spaces, and the position after the last break. -/
def blockIndentation : ScanM (List String × Nat × Mark) := do
  let mut chunks : List String := []
  let mut maxIndent := 0
  let mut stop ← mark
  for _ in [0:(← bound)] do
    let ch ← peek 0
    if !(ch == ' ' || isBreak ch) then break
    if ch != ' ' then
      chunks := chunks ++ [← lineBreak]
      stop ← mark
    else
      forward 1
      let col := (← get).column
      if col > maxIndent then maxIndent := col
  pure (chunks, maxIndent, stop)

/-- Empty lines inside a block scalar, each read up to the scalar's indentation. -/
def blockBreaks (indent : Nat) : ScanM (List String × Mark) := do
  let mut chunks : List String := []
  let mut stop ← mark
  for _ in [0:(← bound)] do
    if (← get).column < indent && (← peek 0) == ' ' then forward 1 else break
  for _ in [0:(← bound)] do
    if !isBreak (← peek 0) then break
    chunks := chunks ++ [← lineBreak]
    stop ← mark
    for _ in [0:(← bound)] do
      if (← get).column < indent && (← peek 0) == ' ' then forward 1 else break
  pure (chunks, stop)

/-- A literal (`|`) or folded (`>`) block scalar. -/
def blockScalar (folded : Bool) : ScanM Token := do
  let start ← mark
  forward 1
  let (chomping, increment) ← blockIndicators start
  blockHeaderEnd start
  let minIndent : Nat := Int.toNat (max ((← get).indent + 1) 1)
  let (breaks0, indent, stop0) ←
    match increment with
    | none => do
      let (bs, maxIndent, stop) ← blockIndentation
      pure (bs, max minIndent maxIndent, stop)
    | some inc => do
      let indent := minIndent + inc - 1
      let (bs, stop) ← blockBreaks indent
      pure (bs, indent, stop)
  let mut breaks := breaks0
  let mut stop := stop0
  let mut chunks : Array String := #[]
  let mut lineEnd := ""
  for _ in [0:(← bound)] do
    if !((← get).column == indent && (← peek 0) != '\x00') then break
    chunks := chunks ++ breaks.toArray
    let leadingNonSpace := !((← peek 0) == ' ' || (← peek 0) == '\t')
    let n ← countFrom (fun c => !isBreakOrEnd c) 0
    chunks := chunks.push (← ahead n)
    forward n
    lineEnd ← lineBreak
    let (bs, st) ← blockBreaks indent
    breaks := bs
    stop := st
    if (← get).column == indent && (← peek 0) != '\x00' then
      let next ← peek 0
      if folded && lineEnd == "\n" && leadingNonSpace && !(next == ' ' || next == '\t') then
        if breaks.isEmpty then chunks := chunks.push " "
      else chunks := chunks.push lineEnd
    else break
  if chomping != some false then chunks := chunks.push lineEnd
  if chomping == some true then chunks := chunks ++ breaks.toArray
  pure ⟨.scalar (String.join chunks.toList) false (some (if folded then '>' else '|')), start, stop⟩

/-! ## Quoted scalars -/

/-- The character an escape letter of a double-quoted scalar stands for. -/
def escapeOf : Char → Option Char
  | '0' => some '\x00'
  | 'a' => some '\x07'
  | 'b' => some '\x08'
  | 't' => some '\t'
  | '\t' => some '\t'
  | 'n' => some '\n'
  | 'v' => some '\x0b'
  | 'f' => some '\x0c'
  | 'r' => some '\r'
  | 'e' => some '\x1b'
  | ' ' => some ' '
  | '"' => some '"'
  | '\\' => some '\\'
  | '/' => some '/'
  | 'N' => some '\x85'
  | '_' => some '\xa0'
  | 'L' => some '\u2028'
  | 'P' => some '\u2029'
  | _ => none

/-- How many hexadecimal digits follow an escape letter that names a code point. -/
def escapeWidth : Char → Option Nat
  | 'x' => some 2
  | 'u' => some 4
  | 'U' => some 8
  | _ => none

/-- The value of hexadecimal digits. -/
def hexValue (s : String) : Nat :=
  s.foldl (fun acc c =>
    let d := if '0' ≤ c && c ≤ '9' then c.toNat - '0'.toNat
      else if 'a' ≤ c && c ≤ 'f' then c.toNat - 'a'.toNat + 10
      else c.toNat - 'A'.toNat + 10
    acc * 16 + d) 0

/-- Line breaks inside a quoted scalar, with the blanks around them. A document marker at the
start of a line is an error. -/
def quotedBreaks (start : Mark) : ScanM (List String) := do
  let mut chunks : List String := []
  for _ in [0:(← bound)] do
    if ← atDocumentSeparator then
      throw (YamlError.at "while scanning a quoted scalar" start "found unexpected document separator" (← mark))
    skipWhile (fun c => c == ' ' || c == '\t')
    if isBreak (← peek 0) then chunks := chunks ++ [← lineBreak] else break
  pure chunks

/-- A run of a quoted scalar up to blanks or its end, with quotes and escapes read. -/
def quotedRun (double : Bool) (start : Mark) : ScanM (List String) := do
  let mut chunks : Array String := #[]
  for _ in [0:(← bound)] do
    let n ← countFrom (fun c => !(c == '\'' || c == '"' || c == '\\' || isBlankOrEnd c)) 0
    if n != 0 then
      chunks := chunks.push (← ahead n)
      forward n
    let ch ← peek 0
    if !double && ch == '\'' && (← peek 1) == '\'' then
      chunks := chunks.push "'"
      forward 2
    else if (double && ch == '\'') || (!double && (ch == '"' || ch == '\\')) then
      chunks := chunks.push ch.toString
      forward 1
    else if double && ch == '\\' then
      forward 1
      let ch ← peek 0
      match escapeOf ch, escapeWidth ch with
      | some c, _ =>
        chunks := chunks.push c.toString
        forward 1
      | none, some width =>
        forward 1
        for k in [0:width] do
          if !isHexDigit (← peek k) then
            let found ← shown k
            throw (YamlError.at "while scanning a double-quoted scalar" start
              s!"expected escape sequence of {width} hexadecimal numbers, but found {found}"
              (← mark))
        let code := hexValue (← ahead width)
        if code ≥ 0x110000 then throw (.badValue "chr() arg not in range(0x110000)")
        let c := if 0xD800 ≤ code && code ≤ 0xDFFF then Text.standIn code else Char.ofNat code
        chunks := chunks.push c.toString
        forward width
      | none, none =>
        if isBreak ch then
          let _ ← lineBreak
          chunks := chunks ++ (← quotedBreaks start).toArray
        else
          throw (YamlError.at "while scanning a double-quoted scalar" start
            s!"found unknown escape character {Text.quote ch.toString}" (← mark))
    else break
  pure chunks.toList

/-- Blanks inside a quoted scalar: kept within a line, folded across lines. -/
def quotedSpaces (start : Mark) : ScanM (List String) := do
  let n ← countFrom (fun c => c == ' ' || c == '\t') 0
  let blanks ← ahead n
  forward n
  let ch ← peek 0
  if ch == '\x00' then
    throw (YamlError.at "while scanning a quoted scalar" start "found unexpected end of stream" (← mark))
  else if isBreak ch then
    let lb ← lineBreak
    let breaks ← quotedBreaks start
    let head := if lb != "\n" then [lb] else if breaks.isEmpty then [" "] else []
    pure (head ++ breaks)
  else pure [blanks]

/-- A single- or double-quoted scalar. -/
def quotedScalar (double : Bool) : ScanM Token := do
  let start ← mark
  let quote ← peek 0
  forward 1
  let mut chunks := (← quotedRun double start).toArray
  for _ in [0:(← bound)] do
    if (← peek 0) == quote then break
    chunks := chunks ++ (← quotedSpaces start).toArray
    chunks := chunks ++ (← quotedRun double start).toArray
  forward 1
  pure ⟨.scalar (String.join chunks.toList) false (some quote), start, ← mark⟩

/-! ## Plain scalars -/

/-- Blanks after a run of a plain scalar: `none` when a document marker follows a line
break (the scalar ends), else the text they fold to. Crossing a line break allows a simple
key again. -/
def plainSpaces : ScanM (Option (List String)) := do
  let n ← countFrom (· == ' ') 0
  let blanks ← ahead n
  forward n
  let ch ← peek 0
  if isBreak ch then
    let lb ← lineBreak
    modify fun s => { s with allowSimpleKey := true }
    if ← atDocumentSeparator then return none
    let mut breaks : List String := []
    for _ in [0:(← bound)] do
      let ch ← peek 0
      if ch == ' ' then forward 1
      else if isBreak ch then
        breaks := breaks ++ [← lineBreak]
        if ← atDocumentSeparator then return none
      else break
    let head := if lb != "\n" then [lb] else if breaks.isEmpty then [" "] else []
    pure (some (head ++ breaks))
  else if n != 0 then pure (some [blanks])
  else pure (some [])

/-- A plain scalar. In flow context it also ends at `,`, `?` and brackets; in block context
it ends on a line indented less than the current block. -/
def plainScalar : ScanM Token := do
  let start ← mark
  let mut stop := start
  let indent := (← get).indent + 1
  let mut chunks : Array String := #[]
  let mut spaces : List String := []
  for _ in [0:(← bound)] do
    if (← peek 0) == '#' then break
    let flow := (← get).flowLevel != 0
    let mut len := 0
    for _ in [0:(← bound)] do
      let ch ← peek len
      let after ← peek (len + 1)
      let endsAtColon := ch == ':' &&
        (isBlankOrEnd after || (flow && [',', '[', ']', '\x7b', '\x7d'].contains after))
      if isBlankOrEnd ch || endsAtColon || (flow && [',', '?', '[', ']', '\x7b', '\x7d'].contains ch) then
        break
      len := len + 1
    if len == 0 then break
    modify fun s => { s with allowSimpleKey := false }
    chunks := (chunks ++ spaces.toArray).push (← ahead len)
    forward len
    stop ← mark
    match ← plainSpaces with
    | none => break
    | some more =>
      spaces := more
      let s ← get
      if more.isEmpty || (← peek 0) == '#' || (s.flowLevel == 0 && (s.column : Int) < indent) then break
  pure ⟨.scalar (String.join chunks.toList) true none, start, stop⟩

/-! ## Fetching tokens -/

/-- The end of the stream: close all blocks. -/
def fetchStreamEnd : ScanM Unit := do
  unwindIndent (-1)
  removeKey
  modify fun s => { s with allowSimpleKey := false, keys := [] }
  let m ← mark
  push ⟨.streamEnd, m, m⟩
  modify fun s => { s with done := true }

/-- A directive, or a document start or end marker: these close all blocks. -/
def fetchAtTopLevel (scan : ScanM Token) : ScanM Unit := do
  unwindIndent (-1)
  removeKey
  modify fun s => { s with allowSimpleKey := false }
  push (← scan)

/-- A three-character document marker. -/
def documentMarker (kind : TokenKind) : ScanM Token := do
  let start ← mark
  forward 3
  pure ⟨kind, start, ← mark⟩

/-- A one-character token. -/
def single (kind : TokenKind) : ScanM Unit := do
  let start ← mark
  forward 1
  push ⟨kind, start, ← mark⟩

/-- `[` or `{`: a flow collection may itself be a simple key. -/
def fetchFlowStart (kind : TokenKind) : ScanM Unit := do
  saveKey
  modify fun s => { s with flowLevel := s.flowLevel + 1, allowSimpleKey := true }
  single kind

/-- `]` or `}`. -/
def fetchFlowEnd (kind : TokenKind) : ScanM Unit := do
  removeKey
  modify fun s => { s with flowLevel := s.flowLevel - 1, allowSimpleKey := false }
  single kind

/-- `,` between flow entries. -/
def fetchFlowEntry : ScanM Unit := do
  modify fun s => { s with allowSimpleKey := true }
  removeKey
  single .flowEntry

/-- `-` of a block sequence entry; it may open a block sequence. -/
def fetchBlockEntry : ScanM Unit := do
  let s ← get
  if s.flowLevel == 0 then
    if !s.allowSimpleKey then
      throw (YamlError.bare "sequence entries are not allowed here" (← mark))
    if ← addIndent s.column then
      let m ← mark
      push ⟨.blockSequenceStart, m, m⟩
  modify fun s => { s with allowSimpleKey := true }
  removeKey
  single .blockEntry

/-- `?` of an explicit key; it may open a block mapping. -/
def fetchKey : ScanM Unit := do
  let s ← get
  if s.flowLevel == 0 then
    if !s.allowSimpleKey then
      throw (YamlError.bare "mapping keys are not allowed here" (← mark))
    if ← addIndent s.column then
      let m ← mark
      push ⟨.blockMappingStart, m, m⟩
  modify fun s => { s with allowSimpleKey := s.flowLevel == 0 }
  removeKey
  single .key

/-- Insert a token at a place in the queue. -/
def insertAt (n : Nat) (t : Token) : ScanM Unit :=
  modify fun s => { s with tokens := s.tokens.take n ++ t :: s.tokens.drop n }

/-- `:` of a value. When a simple key is pending at this level, the key token (and a block
mapping start, when the key opens a deeper block) is inserted where the key began. -/
def fetchValue : ScanM Unit := do
  let s ← get
  match s.keys.lookup s.flowLevel with
  | some key =>
    set { s with keys := s.keys.filter (fun e : Int × SimpleKey => e.1 != s.flowLevel) }
    let place := key.tokenNumber - s.taken
    insertAt place ⟨.key, key.mark, key.mark⟩
    if s.flowLevel == 0 then
      if ← addIndent key.column then
        insertAt place ⟨.blockMappingStart, key.mark, key.mark⟩
    modify fun s => { s with allowSimpleKey := false }
  | none =>
    if s.flowLevel == 0 then
      if !s.allowSimpleKey then
        throw (YamlError.bare "mapping values are not allowed here" (← mark))
      if ← addIndent s.column then
        let m ← mark
        push ⟨.blockMappingStart, m, m⟩
    modify fun s => { s with allowSimpleKey := s.flowLevel == 0 }
    removeKey
  single .value

/-- A token that may be a simple key: anchors, aliases, tags, quoted and plain scalars. -/
def fetchKeyable (scan : ScanM Token) : ScanM Unit := do
  saveKey
  modify fun s => { s with allowSimpleKey := false }
  push (← scan)

/-- A block scalar; a simple key may follow it. -/
def fetchBlockScalar (folded : Bool) : ScanM Unit := do
  modify fun s => { s with allowSimpleKey := true }
  removeKey
  push (← blockScalar folded)

/-- Whether a plain scalar may start here. -/
def startsPlain : ScanM Bool := do
  let ch ← peek 0
  let next ← peek 1
  let flow := (← get).flowLevel != 0
  pure (!plainStops.contains ch ||
    (!isBlankOrEnd next && (ch == '-' || (!flow && (ch == '?' || ch == ':')))))

/-- Scan the next token (or tokens: indentation may close blocks first). -/
def fetchMore : ScanM Unit := do
  toNextToken
  staleKeys
  unwindIndent (← get).column
  let ch ← peek 0
  let s ← get
  let flow := s.flowLevel != 0
  let next ← peek 1
  if ch == '\x00' then fetchStreamEnd
  else if ch == '%' && s.column == 0 then fetchAtTopLevel directive
  else if ch == '-' && s.column == 0 && (← ahead 3) == "---" && isBlankOrEnd (← peek 3) then
    fetchAtTopLevel (documentMarker .documentStart)
  else if ch == '.' && s.column == 0 && (← ahead 3) == "..." && isBlankOrEnd (← peek 3) then
    fetchAtTopLevel (documentMarker .documentEnd)
  else if ch == '[' then fetchFlowStart .flowSequenceStart
  else if ch == '\x7b' then fetchFlowStart .flowMappingStart
  else if ch == ']' then fetchFlowEnd .flowSequenceEnd
  else if ch == '\x7d' then fetchFlowEnd .flowMappingEnd
  else if ch == ',' then fetchFlowEntry
  else if ch == '-' && isBlankOrEnd next then fetchBlockEntry
  else if ch == '?' && (flow || isBlankOrEnd next) then fetchKey
  else if ch == ':' && (flow || isBlankOrEnd next) then fetchValue
  else if ch == '*' then fetchKeyable (anchorOrAlias true)
  else if ch == '&' then fetchKeyable (anchorOrAlias false)
  else if ch == '!' then fetchKeyable tag
  else if ch == '|' && !flow then fetchBlockScalar false
  else if ch == '>' && !flow then fetchBlockScalar true
  else if ch == '\'' then fetchKeyable (quotedScalar false)
  else if ch == '"' then fetchKeyable (quotedScalar true)
  else if ← startsPlain then fetchKeyable plainScalar
  else
    throw (.marked (some "while scanning for the next token") none
      s!"found character {Text.quote ch.toString} that cannot start any token" (some (← mark)))

/-- Whether more must be scanned before the next token is certain: nothing is queued, or
the first queued token may still turn out to be a simple key. -/
def needMore : ScanM Bool := do
  let s ← get
  if s.done then return false
  if s.tokens.isEmpty then return true
  staleKeys
  pure (nextKeyNumber (← get) == some (← get).taken)

/-- Scan until the next token is certain. Each round scans at least one character or ends
the stream, so the text's length bounds the rounds. -/
def fill : ScanM Unit := do
  for _ in [0:4 * (← bound)] do
    if ← needMore then fetchMore else break

/-- The next token, without taking it. -/
def peekToken : ScanM Token := do
  fill
  match (← get).tokens with
  | t :: _ => pure t
  | [] => pure ⟨.streamEnd, ← mark, ← mark⟩

/-- Take the next token. -/
def takeToken : ScanM Token := do
  fill
  match (← get).tokens with
  | t :: rest =>
    modify fun s => { s with tokens := rest, taken := s.taken + 1 }
    pure t
  | [] => pure ⟨.streamEnd, ← mark, ← mark⟩

end Scanner

end PineCheck.Yaml
