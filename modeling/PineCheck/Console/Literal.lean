import PineCheck.Text.Word
import PineCheck.Text.Case
import PineCheck.Text.CharName
/-!
# Literal parameters

The parameters of a meta tag (`[@click=handler(1, 'a')]`) must be a literal: a number, a
text or byte string (quoted, with an optional prefix; adjacent ones join), `True`, `False`,
`None`, `...`, `set()`, or a tuple, set or mapping of literals, in the usual expression
syntax with its tokens, comments and line joining. A sign may stand before a number, and a
real number (signed or not) plus or minus an imaginary number makes a complex number.
Members of a set and keys of a mapping must be hashable: not a set or a mapping, nor a tuple
holding one. Brackets may nest at most 200 deep.

`isLiteral` decides whether a text is such a literal. Whatever else the text is, a syntax
error or an expression of another kind, it is refused.
-/

namespace PineCheck.Console.Literal

/-- The kinds of numbers. -/
inductive NumKind where
  | int | float | complex
  deriving DecidableEq

/-- A token of an expression. -/
inductive Token where
  | num (k : NumKind)
  /-- A quoted string: bytes or text, and whether it is formatted. -/
  | str (bytes formatted : Bool)
  | name (s : String)
  | op (s : String)
  /-- A line break outside brackets. -/
  | newline
  deriving DecidableEq

/-- Digits with single underscores between them, at the front of `cs`: how many
characters they take (0 when there is no digit first). -/
def digitRun (isDigit : Char → Bool) (cs : List Char) : Nat :=
  let rec go (fuel : Nat) (cs : List Char) (n : Nat) : Nat :=
    match fuel, cs with
    | fuel + 1, '_' :: d :: rest => if isDigit d then go fuel rest (n + 2) else n
    | fuel + 1, d :: rest => if isDigit d then go fuel rest (n + 1) else n
    | _, _ => n
  match cs with
  | d :: rest => if isDigit d then go rest.length rest 1 else 0
  | [] => 0

/-- An exponent at the front of `cs`: its length, or 0. -/
def exponentRun (cs : List Char) : Nat :=
  match cs with
  | e :: rest =>
    if e == 'e' || e == 'E' then
      let (sign, rest) := match rest with
        | '+' :: r | '-' :: r => (1, r)
        | r => (0, r)
      let n := digitRun Char.isDigit rest
      if n == 0 then 0 else 1 + sign + n
    else 0
  | [] => 0

/-- A character that may continue a name. -/
def isNameChar (c : Char) : Bool := Text.isWord c

/-- A number at the front of `cs` (which starts with a digit, or a point and a digit): its
kind and length, or nothing for a malformed one. -/
def numberAt (cs : List Char) : Option (NumKind × Nat) :=
  let isHex := fun c => Char.isDigit c || ('a' ≤ c && c ≤ 'f') || ('A' ≤ c && c ≤ 'F')
  let based := fun (ok : Char → Bool) (rest : List Char) =>
    let rest := match rest with
      | '_' :: r => r
      | r => r
    let n := digitRun ok rest
    let skipped := if (cs.drop 2).head? == some '_' then 1 else 0
    if n == 0 then none else some (NumKind.int, 2 + skipped + n)
  let whole := digitRun Char.isDigit cs
  let result : Option (NumKind × Nat) :=
    match cs with
    | '0' :: x :: rest =>
      if x == 'x' || x == 'X' then based isHex rest
      else if x == 'o' || x == 'O' then based (fun c => '0' ≤ c && c ≤ '7') rest
      else if x == 'b' || x == 'B' then based (fun c => c == '0' || c == '1') rest
      else none
    | _ => none
  match result with
  | some r => some r
  | none =>
    let afterWhole := cs.drop whole
    let (isFloat, len) := match afterWhole with
      | '.' :: rest =>
        let frac := digitRun Char.isDigit rest
        if whole == 0 && frac == 0 then (false, 0)
        else (true, whole + 1 + frac + exponentRun (rest.drop frac))
      | _ =>
        let e := exponentRun afterWhole
        (e > 0, whole + e)
    if len == 0 then none
    else
      let imaginary := match cs.drop len with
        | j :: _ => j == 'j' || j == 'J'
        | [] => false
      let len := if imaginary then len + 1 else len
      if (cs.drop len).head?.any isNameChar then none
      else if imaginary then some (.complex, len)
      else if isFloat then some (.float, len)
      else
        let digits := cs.take whole
        -- a decimal integer other than zero may not start with a zero
        if digits.head? == some '0' && digits.any (fun c => c != '0' && c != '_') then none
        else some (.int, len)

/-- Whether a prefix (in lower case) may stand before a quote: it gives whether the string
is raw, bytes, formatted. -/
def prefixKind? (p : String) : Option (Bool × Bool × Bool) :=
  match p with
  | "" | "u" => some (false, false, false)
  | "r" => some (true, false, false)
  | "b" => some (false, true, false)
  | "br" | "rb" => some (true, true, false)
  | "f" => some (false, false, true)
  | "fr" | "rf" => some (true, false, true)
  | _ => none

/-- The value of a hexadecimal digit. -/
def hexValue? (c : Char) : Option Nat :=
  if c.isDigit then some (c.toNat - '0'.toNat)
  else if 'a' ≤ c && c ≤ 'f' then some (c.toNat - 'a'.toNat + 10)
  else if 'A' ≤ c && c ≤ 'F' then some (c.toNat - 'A'.toNat + 10)
  else none

/-- Whether `n` characters at the front of `cs` are hexadecimal digits. -/
def hexDigits (n : Nat) (cs : List Char) : Bool :=
  let ds := cs.take n
  ds.length == n && ds.all fun c => (hexValue? c).isSome

/-- The value of hexadecimal digits. -/
def hexNumber (cs : List Char) : Nat := cs.foldl (fun acc d => acc * 16 + (hexValue? d).getD 0) 0

/-- Whether the escapes of a string body are well formed: `\x` takes two hexadecimal
digits; in a text `\u` takes four, `\U` eight (at most U+10FFFF) and `\N` a known
character name in braces. A byte string holds ASCII only. -/
def escapesOk (bytes : Bool) : Nat → List Char → Bool
  | 0, _ => true
  | _, [] => true
  | fuel + 1, c :: rest =>
    if bytes && c.toNat ≥ 128 then false
    else if c != '\\' then escapesOk bytes fuel rest
    else match rest with
      | 'x' :: more => hexDigits 2 more && escapesOk bytes fuel (more.drop 2)
      | 'u' :: more => if bytes then escapesOk bytes fuel more
        else hexDigits 4 more && escapesOk bytes fuel (more.drop 4)
      | 'U' :: more => if bytes then escapesOk bytes fuel more
        else hexDigits 8 more && hexNumber (more.take 8) ≤ 0x10FFFF &&
          escapesOk bytes fuel (more.drop 8)
      | 'N' :: more => if bytes then escapesOk bytes fuel more
        else match more with
          | '{' :: name =>
            let body := name.takeWhile (· != '}')
            !body.isEmpty && (name.drop body.length).head? == some '}' &&
              Text.isCharName body && escapesOk bytes fuel (name.drop (body.length + 1))
          | _ => false
      | _ :: more => escapesOk bytes fuel more
      | [] => true

/-- The body of a string after its opening quote `q` (three of them when `triple`): the
body and the characters after the closing quote, or nothing when it is not closed. A
backslash keeps the character after it in the body, even a quote or a line break. -/
def stringBody (q : Char) (triple : Bool) : Nat → List Char → List Char → Option (List Char × List Char)
  | 0, _, _ => none
  | _, _, [] => none
  | fuel + 1, acc, c :: rest =>
    if c == '\\' then
      match rest with
      | d :: more => stringBody q triple fuel (d :: c :: acc) more
      | [] => none
    else if c == q then
      if !triple then some (acc.reverse, rest)
      else match rest with
        | a :: b :: more => if a == q && b == q then some (acc.reverse, more)
          else stringBody q triple fuel (c :: acc) rest
        | _ => stringBody q triple fuel (c :: acc) rest
    else if !triple && (c == '\n' || c == '\r') then none
    else stringBody q triple fuel (c :: acc) rest

/-- A string whose prefix `p` has been read and whose quote is at the front of `cs`: the
token and what follows, or nothing when it is malformed. -/
def stringAt (p : String) (cs : List Char) : Option (Token × List Char) := do
  let (raw, bytes, formatted) ← prefixKind? (String.ofList (Text.lowerText p.toList))
  let q ← cs.head?
  let triple := cs.take 3 == [q, q, q]
  let (body, rest) ← stringBody q triple (cs.length + 1) [] (cs.drop (if triple then 3 else 1))
  if !raw && !escapesOk bytes (body.length + 1) body then none
  else if raw && bytes && body.any (·.toNat ≥ 128) then none
  else some (.str bytes formatted, rest)

/-- The indentation of a line and what follows it, read as the tokenizer reads the start of
a line: a space moves the column one on, a tab to the next multiple of 8, and a form feed
back to 0. A backslash joins the next line, whose blanks count on from the same column;
the column of the first backslash past column 0 is then the indentation. Nothing when a
backslash is not followed by a line break and more text. -/
def indentation : Nat → Nat → Nat → List Char → Option (Nat × List Char)
  | 0, _, _, _ => none
  | fuel + 1, col, joined, cs =>
    match cs with
    | ' ' :: rest => indentation fuel (col + 1) joined rest
    | '\t' :: rest => indentation fuel ((col / 8 + 1) * 8) joined rest
    | '\x0c' :: rest => indentation fuel 0 joined rest
    | '\\' :: '\n' :: rest =>
      if rest.isEmpty then none else indentation fuel col (if joined != 0 then joined else col) rest
    | '\\' :: _ => none
    | _ => some (if joined != 0 then joined else col, cs)

/-- What follows the start of a line, when the line may stand there: inside brackets any
line may; outside them, a line must be blank, hold only a comment, or not be indented.
A last line of blanks with no line break after it is not blank. The indentation is read
with `fuel` steps, each of which takes a character, so the length of `cs` and one more
suffice. -/
def lineStart (fuel depth : Nat) (cs : List Char) : Option (List Char) := do
  let (col, rest) ← indentation fuel 0 0 cs
  let blank := rest.head? == some '#' || rest.head? == some '\n'
  if depth == 0 && col != 0 && !blank then none else some rest

/-- The tokens of an expression, or nothing at a character no token starts with. `depth`
counts the open brackets; line breaks inside brackets join lines. A line break outside
brackets is a token, and the line after it must start as `lineStart` says. A backslash
before a line break joins the lines, but not at the end of the text. -/
def tokenize : Nat → Nat → List Char → Option (List Token)
  | 0, _, _ => none
  | _, _, [] => some []
  | fuel + 1, depth, c :: rest =>
    if c == ' ' || c == '\t' || c == '\x0c' then tokenize fuel depth rest
    else if c == '\n' then do
      let more ← lineStart fuel depth rest
      if depth > 0 then tokenize fuel depth more
      else (tokenize fuel depth more).map (Token.newline :: ·)
    else if c == '#' then tokenize fuel depth (rest.dropWhile (· != '\n'))
    else if c == '\\' then
      match rest with
      | '\n' :: more => if more.isEmpty then none else tokenize fuel depth more
      | _ => none
    else if c == '(' || c == '\x7b' then
      if depth ≥ 200 then none else (tokenize fuel (depth + 1) rest).map (.op c.toString :: ·)
    else if c == ')' || c == '\x7d' then
      if depth == 0 then none else (tokenize fuel (depth - 1) rest).map (.op c.toString :: ·)
    else if c == ',' || c == ':' || c == '+' || c == '-' then
      (tokenize fuel depth rest).map (.op c.toString :: ·)
    else if c == '.' then
      match rest with
      | '.' :: '.' :: more => (tokenize fuel depth more).map (.op "..." :: ·)
      | d :: _ =>
        if d.isDigit then do
          let (k, n) ← numberAt (c :: rest)
          (tokenize fuel depth ((c :: rest).drop n)).map (.num k :: ·)
        else none
      | [] => none
    else if c.isDigit then do
      let (k, n) ← numberAt (c :: rest)
      (tokenize fuel depth ((c :: rest).drop n)).map (.num k :: ·)
    else if c == '\'' || c == '"' then do
      let (t, more) ← stringAt "" (c :: rest)
      (tokenize fuel depth more).map (t :: ·)
    else if isNameChar c then
      let word := (c :: rest).takeWhile isNameChar
      let more := (c :: rest).drop word.length
      match more with
      | q :: _ =>
        if (q == '\'' || q == '"') && (prefixKind? (String.ofList (Text.lowerText word))).isSome then do
          let (t, after) ← stringAt (String.ofList word) more
          (tokenize fuel depth after).map (t :: ·)
        else (tokenize fuel depth more).map (.name (String.ofList word) :: ·)
      | [] => (tokenize fuel depth more).map (.name (String.ofList word) :: ·)
    else none

/-- What a literal evaluates to, as far as checking it needs. -/
inductive Shape where
  /-- A number written as such, perhaps signed. -/
  | number (k : NumKind) (signed : Bool)
  /-- A hashable value of another kind. -/
  | hashable
  /-- A tuple, and whether it is hashable. -/
  | tuple (isHashable : Bool)
  /-- A set or a mapping. -/
  | unhashable

/-- Whether a value of a shape is hashable. -/
def Shape.isHashable : Shape → Bool
  | .number .. | .hashable => true
  | .tuple h => h
  | .unhashable => false

/-- What parsing gives: the shape of the value and the tokens after it. -/
abbrev Parsed := Option (Shape × List Token)

/-- The operators that close or separate items, and the line break that ends them. -/
def Token.closes : Token → Bool
  | .op s => s == ")" || s == "\x7d" || s == "," || s == ":"
  | .newline => true
  | _ => false

mutual

/-- One item: a signed operand, perhaps plus or minus an imaginary number. -/
def item : Nat → List Token → Parsed
  | 0, _ => none
  | fuel + 1, ts => do
    let (left, rest) ← signed fuel ts
    match rest with
    | .op s :: more =>
      if s == "+" || s == "-" then
        let (right, after) ← primary fuel more
        match left, right with
        | .number k _, .number .complex false =>
          if k == .int || k == .float then some (.hashable, after) else none
        | _, _ => none
      else some (left, rest)
    | _ => some (left, rest)

/-- An operand with an optional sign, which only a number may carry. -/
def signed : Nat → List Token → Parsed
  | 0, _ => none
  | fuel + 1, ts =>
    match ts with
    | .op s :: more =>
      if s == "+" || s == "-" then do
        let (operand, rest) ← primary fuel more
        match operand with
        | .number k false => some (.number k true, rest)
        | _ => none
      else primary fuel ts
    | _ => primary fuel ts

/-- An operand: a number, strings, a constant word, `set()`, or a bracketed group. -/
def primary : Nat → List Token → Parsed
  | 0, _ => none
  | fuel + 1, ts =>
    match ts with
    | .num k :: rest => some (.number k false, rest)
    | .str bytes formatted :: rest =>
      let more := rest.takeWhile fun t => match t with
        | .str .. => true
        | _ => false
      let kinds := (Token.str bytes formatted :: more).map fun t => match t with
        | .str b f => (b, f)
        | _ => (false, false)
      if kinds.any (·.2) || kinds.any (·.1 != bytes) then none
      else some (.hashable, rest.drop more.length)
    | .name w :: rest =>
      if w == "True" || w == "False" || w == "None" then some (.hashable, rest)
      else if w == "set" then
        match rest with
        | .op "(" :: .op ")" :: after => some (.unhashable, after)
        | _ => none
      else none
    | .op "..." :: rest => some (.hashable, rest)
    | .op "(" :: .op ")" :: rest => some (.tuple true, rest)
    | .op "(" :: rest => do
      let (first, after) ← item fuel rest
      match after with
      | .op ")" :: more => some (first, more)
      | .op "," :: more => do
        let (others, after) ← items fuel more
        match after with
        | .op ")" :: close => some (.tuple (first.isHashable && others.all id), close)
        | _ => none
      | _ => none
    | .op "\x7b" :: .op "\x7d" :: rest => some (.unhashable, rest)
    | .op "\x7b" :: rest => do
      let (first, after) ← item fuel rest
      match after with
      | .op ":" :: more => do
        let (_, afterValue) ← item fuel more
        let (keys, close) ← pairs fuel afterValue
        match close with
        | .op "\x7d" :: done =>
          if first.isHashable && keys.all id then some (.unhashable, done) else none
        | _ => none
      | _ => do
        let (others, close) ← match after with
          | .op "," :: more => items fuel more
          | _ => some ([], after)
        match close with
        | .op "\x7d" :: done =>
          if first.isHashable && others.all id then some (.unhashable, done) else none
        | _ => none
    | _ => none

/-- Items after a comma, each followed by a comma but perhaps the last: whether each is
hashable, and the tokens after them. -/
def items : Nat → List Token → Option (List Bool × List Token)
  | 0, _ => none
  | fuel + 1, ts =>
    match ts with
    | t :: _ =>
      if t.closes then some ([], ts)
      else do
        let (s, rest) ← item fuel ts
        match rest with
        | .op "," :: more => do
          let (others, after) ← items fuel more
          some (s.isHashable :: others, after)
        | _ => some ([s.isHashable], rest)
    | [] => some ([], [])

/-- Further `key: value` pairs of a mapping after its first: whether each key is hashable,
and the tokens after them. -/
def pairs : Nat → List Token → Option (List Bool × List Token)
  | 0, _ => none
  | fuel + 1, ts =>
    match ts with
    | .op "," :: .op "\x7d" :: _ => some ([], ts.drop 1)
    | .op "," :: more => do
      let (key, afterKey) ← item fuel more
      match afterKey with
      | .op ":" :: afterColon => do
        let (_, afterValue) ← item fuel afterColon
        let (others, after) ← pairs fuel afterValue
        some (key.isHashable :: others, after)
      | _ => none
    | _ => some ([], ts)

end

/-- Whether a whole token list is one literal: an item, or items separated by commas (a
tuple), with nothing but line breaks before or after it. -/
def wholeLiteral (ts : List Token) : Bool :=
  let fuel := 4 * ts.length + 4
  let ended := fun (rest : List Token) => rest.all (· == .newline)
  match item fuel (ts.dropWhile (· == .newline)) with
  | some (_, rest) =>
    match rest with
    | .op "," :: more =>
      match items fuel more with
      | some (_, after) => ended after
      | none => false
    | _ => ended rest
  | none => false

/-- The text with each carriage return, alone or before a line feed, read as a line feed. -/
def unifyBreaks : List Char → List Char
  | '\r' :: '\n' :: rest => '\n' :: unifyBreaks rest
  | '\r' :: rest => '\n' :: unifyBreaks rest
  | c :: rest => c :: unifyBreaks rest
  | [] => []

/-- Whether a text is a literal. Spaces and tabs before it are ignored; blank lines and
comments may stand before and after it. -/
def isLiteral (s : String) : Bool :=
  let cs := unifyBreaks (s.toList.dropWhile fun c => c == ' ' || c == '\t')
  match lineStart (cs.length + 1) 0 cs with
  | some start =>
    match tokenize (start.length + 1) 0 start with
    | some ts => wholeLiteral ts
    | none => false
  | none => false

end PineCheck.Console.Literal
