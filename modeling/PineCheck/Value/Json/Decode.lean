import PineCheck.Value.Basic
import PineCheck.Decimal.Basic
import PineCheck.Text.Surrogate
/-!
# Reading JSON documents

`Json.decode` reads a JSON document into a `Value`. Beside standard JSON it takes the
constants `NaN`, `Infinity` and `-Infinity`, and in an object a repeated key keeps its first
place and its last value.

A document that is not JSON is refused with the first fault met in a left-to-right reading
and the position (in characters) where the reading stood: `Expecting value` where a value
should start, `Extra data` after a complete value, and so on. The message adds the line and
the column of that position.

The reader goes one level deeper for each array or object it opens, and it runs with a
bounded depth: an array or object opened more than `maxDepth` levels deep stops the reading
at once. That is not a fault of the document, and readers of files do not report it as one.
-/

namespace PineCheck.Json

/-- What went wrong at a position of a document. -/
inductive Fault where
  | byteOrderMark
  | expectingValue
  | expectingName
  | expectingColon
  | expectingComma
  | extraData
  | unterminatedString
  | controlCharacter
  | invalidEscape
  | invalidUnicodeEscape
  deriving DecidableEq, Repr

/-- The words for a fault. -/
def Fault.text : Fault → String
  | .byteOrderMark => "Unexpected UTF-8 BOM (decode using utf-8-sig)"
  | .expectingValue => "Expecting value"
  | .expectingName => "Expecting property name enclosed in double quotes"
  | .expectingColon => "Expecting ':' delimiter"
  | .expectingComma => "Expecting ',' delimiter"
  | .extraData => "Extra data"
  | .unterminatedString => "Unterminated string starting at"
  | .controlCharacter => "Invalid control character at"
  | .invalidEscape => "Invalid \\escape"
  | .invalidUnicodeEscape => "Invalid \\uXXXX escape"

/-- Why a document was refused. -/
inductive DecodeError where
  /-- A fault at a character position. -/
  | fault (kind : Fault) (pos : Nat)
  /-- An integer with more digits than a reader converts. -/
  | tooManyDigits (count : Nat)
  /-- An array (or an object) opened deeper than the reader may go. -/
  | tooDeep (array : Bool)
  deriving Repr

/-- The deepest level at which an array or object may be opened. -/
def maxDepth : Nat := 989

/-- The most digits an integer may have. -/
def maxIntDigits : Nat := 4300

/-- The line (from 1) of a position of a document. -/
def lineOf (doc : List Char) (pos : Nat) : Nat := (doc.take pos).count '\n' + 1

/-- The column (from 1) of a position of a document. -/
def columnOf (doc : List Char) (pos : Nat) : Nat :=
  ((doc.take pos).reverse.takeWhile (· != '\n')).length + 1

/-- The message for a refused document. -/
def DecodeError.message (doc : List Char) : DecodeError → String
  | .fault kind pos =>
    let line := lineOf doc pos
    let column := columnOf doc pos
    kind.text ++ s!": line {line} column {column} (char {pos})"
  | .tooManyDigits count =>
    s!"Exceeds the limit ({maxIntDigits} digits) for integer string conversion: value has {count} digits; use sys.set_int_max_str_digits() to increase the limit"
  | .tooDeep array =>
    "maximum recursion depth exceeded while decoding a JSON " ++
      (if array then "array" else "object") ++ " from a unicode string"

/-- Space between tokens: blank, tab, line feed and carriage return. -/
def isSpace (c : Char) : Bool := c == ' ' || c == '\t' || c == '\n' || c == '\r'

/-- Skip space, keeping track of the position. -/
def skipSpace : List Char → Nat → List Char × Nat
  | c :: rest, pos => if isSpace c then skipSpace rest (pos + 1) else (c :: rest, pos)
  | [], pos => ([], pos)

/-- The value of a hexadecimal digit. -/
def hexValue? (c : Char) : Option Nat :=
  if '0' ≤ c && c ≤ '9' then some (c.toNat - '0'.toNat)
  else if 'a' ≤ c && c ≤ 'f' then some (c.toNat - 'a'.toNat + 10)
  else if 'A' ≤ c && c ≤ 'F' then some (c.toNat - 'A'.toNat + 10)
  else none

/-- The value of four hexadecimal digits. -/
def hex4? (cs : List Char) : Option Nat :=
  match cs with
  | [a, b, c, d] => do
    let a ← hexValue? a
    let b ← hexValue? b
    let c ← hexValue? c
    let d ← hexValue? d
    pure (((a * 16 + b) * 16 + c) * 16 + d)
  | _ => none

/-- The character of a code point; a surrogate, which no character is, reads as its
stand-in. -/
def charOfCode (n : Nat) : Char :=
  if 0xD800 ≤ n && n ≤ 0xDFFF then Text.standIn n else Char.ofNat n

/-- The character that a one-letter escape stands for. -/
def simpleEscape? : Char → Option Char
  | '"' => some '"'
  | '\\' => some '\\'
  | '/' => some '/'
  | 'b' => some '\x08'
  | 'f' => some '\x0c'
  | 'n' => some '\n'
  | 'r' => some '\r'
  | 't' => some '\t'
  | _ => none

/-- A `\u` escape whose four digits follow in `cs` (the backslash stands at `pos`): the
character, how many characters after the `u` it takes, or the fault. A high surrogate
followed by an escaped low surrogate makes one character; four digits must be followed by
at least one more character of the document. -/
def unicodeEscape (cs : List Char) (pos : Nat) : Except DecodeError (Char × Nat) :=
  if (cs.drop 4).isEmpty then .error (.fault .invalidUnicodeEscape (pos + 1))
  else
    match hex4? (cs.take 4) with
    | none => .error (.fault .invalidUnicodeEscape (pos + 1))
    | some high =>
      let after := cs.drop 4
      if 0xD800 ≤ high && high ≤ 0xDBFF && !(after.drop 6).isEmpty &&
          after.take 2 == ['\\', 'u'] then
        match hex4? ((after.drop 2).take 4) with
        | none => .error (.fault .invalidUnicodeEscape (pos + 7))
        | some low =>
          if 0xDC00 ≤ low && low ≤ 0xDFFF then
            .ok (Char.ofNat (0x10000 + (high - 0xD800) * 0x400 + (low - 0xDC00)), 10)
          else .ok (charOfCode high, 4)
      else .ok (charOfCode high, 4)

/-- The rest of a string after its opening quote, which stands at `begin`: the text, the
characters after the closing quote and their position. -/
def scanString (begin : Nat) (cs : List Char) (pos : Nat) (acc : List Char) :
    Except DecodeError (String × List Char × Nat) :=
  match cs with
  | [] => .error (.fault .unterminatedString begin)
  | c :: rest =>
    if c == '"' then .ok (String.ofList acc.reverse, rest, pos + 1)
    else if c == '\\' then
      match rest with
      | [] => .error (.fault .unterminatedString begin)
      | e :: rest' =>
        if e == 'u' then
          match unicodeEscape rest' pos with
          | .error err => .error err
          | .ok (d, n) => scanString begin (rest'.drop n) (pos + 2 + n) (d :: acc)
        else
          match simpleEscape? e with
          | some d => scanString begin rest' (pos + 2) (d :: acc)
          | none => .error (.fault .invalidEscape pos)
    else if c.toNat ≤ 0x1f then .error (.fault .controlCharacter pos)
    else scanString begin rest (pos + 1) (c :: acc)
termination_by cs.length
decreasing_by all_goals simp only [List.length_cons, List.length_drop]; omega

/-- The leading decimal digits of a text and the rest. -/
def spanDigits (cs : List Char) : List Char × List Char :=
  (cs.takeWhile Char.isDigit, cs.dropWhile Char.isDigit)

/-- The exponent part `[eE][+-]?digits` at the head of a text: its sign, its digits, the
rest and how many characters it takes, when it is there in full. -/
def exponentPart? : List Char → Option (Bool × List Char × List Char × Nat)
  | e :: rest =>
    if e == 'e' || e == 'E' then
      let (negative, signed, afterSign) := match rest with
        | '-' :: r => (true, 1, r)
        | '+' :: r => (false, 1, r)
        | r => (false, 0, r)
      let (ds, tail) := spanDigits afterSign
      if ds.isEmpty then none else some (negative, ds, tail, 1 + signed + ds.length)
    else none
  | [] => none

/-- A number at the head of a text: an optional minus, an integer part with no leading zero,
then optionally a fraction and an exponent. A number with a fraction or an exponent is a
float, any other an integer. `none` when no number starts here. -/
def scanNumber (cs : List Char) (pos : Nat) : Except DecodeError (Option (Value × List Char × Nat)) :=
  let (negative, body) := match cs with
    | '-' :: r => (true, r)
    | r => (false, r)
  let intPart : Option (List Char × List Char) := match body with
    | '0' :: r => some (['0'], r)
    | c :: r => if '1' ≤ c && c ≤ '9' then some (c :: (spanDigits r).1, (spanDigits r).2) else none
    | [] => none
  match intPart with
  | none => .ok none
  | some (whole, afterWhole) =>
    let (fraction, afterFraction) : List Char × List Char := match afterWhole with
      | '.' :: d :: r =>
        if d.isDigit then (d :: (spanDigits r).1, (spanDigits r).2) else ([], afterWhole)
      | _ => ([], afterWhole)
    let hasFraction := !fraction.isEmpty
    let (exponent, rest, exponentUsed) : Option (Bool × List Char) × List Char × Nat :=
      match exponentPart? afterFraction with
      | some (eNeg, ds, r, n) => (some (eNeg, ds), r, n)
      | none => (none, afterFraction, 0)
    let used := (if negative then 1 else 0) + whole.length +
      (if hasFraction then 1 + fraction.length else 0) + exponentUsed
    match exponent with
    | none =>
      if hasFraction then
        let x := Decimal.toFloat negative (Decimal.digitsValue (whole ++ fraction))
          (-(fraction.length : Int))
        .ok (some (.float x, rest, pos + used))
      else if whole.length > maxIntDigits then .error (.tooManyDigits whole.length)
      else
        let n : Int := Decimal.digitsValue whole
        .ok (some (.int (if negative then -n else n), rest, pos + used))
    | some (eNeg, ds) =>
      let e : Int := Decimal.digitsValue ds
      let x := Decimal.toFloat negative (Decimal.digitsValue (whole ++ fraction))
        ((if eNeg then -e else e) - fraction.length)
      .ok (some (.float x, rest, pos + used))

mutual

/-- A value at the head of a text, with the rest and its position; `depth` arrays and
objects are open around it. `fuel` bounds the nesting and the number of items; `decode`
gives enough for the whole document. -/
def parseValue (fuel depth : Nat) (cs : List Char) (pos : Nat) :
    Except DecodeError (Value × List Char × Nat) :=
  match fuel with
  | 0 => .error (.fault .expectingValue pos)
  | fuel + 1 =>
    match cs with
    | '"' :: rest => do
      let (s, r, p) ← scanString pos rest (pos + 1) []
      pure (.str s, r, p)
    | '{' :: rest =>
      if depth ≥ maxDepth then .error (.tooDeep false) else
      let (r, p) := skipSpace rest (pos + 1)
      match r with
      | '}' :: r' => .ok (.object [], r', p + 1)
      | _ => parseEntries fuel (depth + 1) r p []
    | '[' :: rest =>
      if depth ≥ maxDepth then .error (.tooDeep true) else
      let (r, p) := skipSpace rest (pos + 1)
      match r with
      | ']' :: r' => .ok (.list [], r', p + 1)
      | _ => parseItems fuel (depth + 1) r p []
    | 'n' :: 'u' :: 'l' :: 'l' :: rest => .ok (.null, rest, pos + 4)
    | 't' :: 'r' :: 'u' :: 'e' :: rest => .ok (.bool true, rest, pos + 4)
    | 'f' :: 'a' :: 'l' :: 's' :: 'e' :: rest => .ok (.bool false, rest, pos + 5)
    | 'N' :: 'a' :: 'N' :: rest => .ok (.float (0 / 0), rest, pos + 3)
    | 'I' :: 'n' :: 'f' :: 'i' :: 'n' :: 'i' :: 't' :: 'y' :: rest =>
      .ok (.float (1 / 0), rest, pos + 8)
    | '-' :: 'I' :: 'n' :: 'f' :: 'i' :: 'n' :: 'i' :: 't' :: 'y' :: rest =>
      .ok (.float (-1 / 0), rest, pos + 9)
    | _ => do
      match ← scanNumber cs pos with
      | some r => pure r
      | none => .error (.fault .expectingValue pos)

/-- The items of a list after its first item starts at `cs`, inside `depth` open arrays and
objects; `acc` holds those before, last first. -/
def parseItems (fuel depth : Nat) (cs : List Char) (pos : Nat) (acc : List Value) :
    Except DecodeError (Value × List Char × Nat) :=
  match fuel with
  | 0 => .error (.fault .expectingValue pos)
  | fuel + 1 => do
    let (v, r, p) ← parseValue fuel depth cs pos
    let (r, p) := skipSpace r p
    match r with
    | ']' :: r' => pure (.list (v :: acc).reverse, r', p + 1)
    | ',' :: r' =>
      let (r'', p'') := skipSpace r' (p + 1)
      parseItems fuel depth r'' p'' (v :: acc)
    | _ => .error (.fault .expectingComma p)

/-- The entries of an object from the first key on, inside `depth` open arrays and objects;
`acc` holds those before, last first. -/
def parseEntries (fuel depth : Nat) (cs : List Char) (pos : Nat) (acc : List (Value × Value)) :
    Except DecodeError (Value × List Char × Nat) :=
  match fuel with
  | 0 => .error (.fault .expectingValue pos)
  | fuel + 1 =>
    match cs with
    | '"' :: rest => do
      let (key, r, p) ← scanString pos rest (pos + 1) []
      let (r, p) := skipSpace r p
      match r with
      | ':' :: r' =>
        let (r, p) := skipSpace r' (p + 1)
        let (v, r, p) ← parseValue fuel depth r p
        let (r, p) := skipSpace r p
        let acc := (Value.str key, v) :: acc
        match r with
        | '}' :: r' => pure (.object (Value.ofEntries acc.reverse), r', p + 1)
        | ',' :: r' =>
          let (r'', p'') := skipSpace r' (p + 1)
          parseEntries fuel depth r'' p'' acc
        | _ => .error (.fault .expectingComma p)
      | _ => .error (.fault .expectingColon p)
    | _ => .error (.fault .expectingName pos)

end

/-- Read a whole document: one value, with only space around it. -/
def decode (doc : List Char) : Except DecodeError Value :=
  match doc with
  | '﻿' :: _ => .error (.fault .byteOrderMark 0)
  | _ => do
    let (cs, pos) := skipSpace doc 0
    let (v, rest, pos) ← parseValue (2 * doc.length + 2) 0 cs pos
    let (rest, pos) := skipSpace rest pos
    if rest.isEmpty then pure v else .error (.fault .extraData pos)

/-- Read a document, or give the message for why it was refused. -/
def decodeText (doc : String) : Except String Value :=
  match decode doc.toList with
  | .ok v => .ok v
  | .error e => .error (e.message doc.toList)

/-- Read the document a file holds: its value, the message for why it was refused, or,
when the reading went too deep, that message apart (`Sum.inr`), for it is no fault of the
file. -/
def decodeFile (doc : String) : Except (Sum String String) Value :=
  match decode doc.toList with
  | .ok v => .ok v
  | .error (.tooDeep array) => .error (.inr ((DecodeError.tooDeep array).message []))
  | .error e => .error (.inl (e.message doc.toList))

end PineCheck.Json
