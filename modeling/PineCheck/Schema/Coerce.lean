import PineCheck.Schema.Error
import PineCheck.Text.Blank
import PineCheck.Text.Utf8
import PineCheck.Text.Surrogate
/-!
# Reading numbers and booleans leniently

A setting that holds a count or a flag accepts more than its own type:

* an integer field takes an integer; a boolean as 0 or 1; a float without fractional part
  (finite, within 64-bit range); a text holding an integer: strictly an optional `-` and
  ASCII digits, or else, once cleaned, White_Space around it, an optional sign, leading
  zeros, then ASCII digits with single underscores between them allowed, and optionally a
  point followed by zeros only;
* a boolean field takes a boolean; the integers 0 and 1 and the floats 0.0 and 1.0; the texts
  `0`, `1` and (in any case of ASCII letters) `f`, `n`, `no`, `off`, `false`, `t`, `y`,
  `on`, `yes`, `true`. Other integers and integral floats are refused as unreadable; a
  fractional float, or an integer beyond 64 bits, is not taken for a boolean at all.

A byte string is read as the text it holds in UTF-8, and refused as unreadable when it
holds none; a text holding a lone surrogate is refused as no valid text. Anything else is refused with the kind of error that says why.
-/

namespace PineCheck.Coerce

/-- The outcome of reading a whole text as one integer: its value, more digits than are
read at all, or no integer. -/
inductive Reading where
  | value (n : Int)
  | tooLong
  | invalid

/-- The value of a list of ASCII digits. -/
def digitValue (ds : List Char) : Nat :=
  ds.foldl (fun acc d => acc * 10 + (d.toNat - '0'.toNat)) 0

/-- The strict reading of an integer: an optional `-`, then digits of which the first is
not a `0` unless it stands alone, and nothing after them. A run of sign and digits longer
than 4300 characters is too long, whatever follows it. -/
def plainInt (cs : List Char) : Reading :=
  let (negative, rest) := match cs with
    | '-' :: r => (true, r)
    | r => (false, r)
  let digits := rest.takeWhile Char.isDigit
  let after := rest.drop digits.length
  match digits with
  | [] => .invalid
  | '0' :: _ => if digits.length == 1 && after.isEmpty then .value 0 else .invalid
  | _ =>
    if digits.length + (if negative then 1 else 0) > 4300 then .tooLong
    else if after.isEmpty then
      .value (if negative then -(digitValue digits : Int) else digitValue digits)
    else .invalid

/-- What is left of a text after its leading zeros: from the first other digit or `-` on.
Underscores among the zeros go with them; before a point one zero (or underscore) stays,
and a text of zeros and underscores keeps its last character. Any other character there
leaves no integer. -/
def afterZeros (prev : Char) : List Char → Option (List Char)
  | [] => some [prev]
  | c :: rest =>
    if c == '0' || c == '_' then afterZeros c rest
    else if ('1' ≤ c && c ≤ '9') || c == '-' then some (c :: rest)
    else if c == '.' then some (prev :: c :: rest)
    else none

/-- A text without its leading zeros, or nothing when it does not start with a digit. -/
def dropLeadingZeros (cs : List Char) : Option (List Char) :=
  match cs with
  | '0' :: rest => afterZeros '0' rest
  | c :: _ => if '1' ≤ c && c ≤ '9' then some cs else none
  | [] => none

/-- The text before its first point, when one or more zeros and nothing else follow the
point; any other text is kept whole. -/
def dropPointZeros (cs : List Char) : List Char :=
  match cs.idxOf? '.' with
  | some i =>
    let frac := cs.drop (i + 1)
    if !frac.isEmpty && frac.all (· == '0') then cs.take i else cs
  | none => cs

/-- The text without its underscores, when none stands first or last and no two stand
together. -/
def dropUnderscores (cs : List Char) : Option (List Char) :=
  if cs.head? == some '_' || cs.getLast? == some '_' ||
      (cs.zip cs.tail).any (fun (a, b) => a == '_' && b == '_') then none
  else some (cs.filter (· != '_'))

/-- A text made ready for a second strict reading: White_Space around it dropped, then its
sign set aside (a `+` is dropped), then its leading zeros, a point followed by zeros only,
and its underscores; the sign `-` goes back in front. Nothing when a step refuses. -/
def cleanedInt (cs : List Char) : Option (List Char) := do
  let (negative, unsigned) := match Text.trimWhiteSpace cs with
    | '-' :: r => (true, r)
    | '+' :: r => (false, r)
    | r => (false, r)
  let body ← dropLeadingZeros unsigned
  let plain ← dropUnderscores (dropPointZeros body)
  pure (if negative then '-' :: plain else plain)

/-- The integer that a text holds, read leniently. The text is read strictly first: a run
of sign and digits over 4300 characters is refused as too long there. Failing that, the
cleaned text (`cleanedInt`) is read strictly once more, and any failure of that reading,
too many digits included, refuses the text as no integer. -/
def intOfText (s : String) : Except ErrorKind Int :=
  match plainInt s.toList with
  | .value n => .ok n
  | .tooLong => .error .intParsingSize
  | .invalid =>
    match cleanedInt s.toList with
    | none => .error .intParsing
    | some cs =>
      match plainInt cs with
      | .value n => .ok n
      | _ => .error .intParsing

/-- The size of the 64-bit integers on either side of zero. -/
def int64Limit : Int := Nat.pow 2 63

/-- The least and greatest 64-bit integers, as the bounds of integral floats. -/
def int64Bound : Float := 9223372036854775808.0

/-- The integer a value stands for, read leniently. -/
def toInt (v : Value) : Except ErrorKind Int :=
  match v with
  | .int n => .ok n
  | .bool b => .ok (if b then 1 else 0)
  | .float x =>
    if x.isNaN || x.isInf then .error .finiteNumber
    else if x.floor != x then .error .intFromFloat
    else if -int64Bound < x && x < int64Bound then
      .ok (if x < 0 then -((-x).toUInt64.toNat : Int) else (x.toUInt64.toNat : Int))
    else .error .intParsingSize
  | .str s => if Text.hasSurrogate s then .error .stringUnicode else intOfText s
  | .bytes data =>
    match Utf8.decodeUtf8 data with
    | .ok s => intOfText s
    | .error _ => .error .intParsing
  | _ => .error .intType

/-- The words read as false, lowercase. -/
def falseWords : List String := ["0", "f", "n", "no", "off", "false"]

/-- The words read as true, lowercase. -/
def trueWords : List String := ["1", "t", "y", "on", "yes", "true"]

/-- Lowercase ASCII letters, other characters kept. -/
def asciiLower (s : String) : String := String.map Char.toLower s

/-- The boolean a text stands for, read leniently. -/
def boolOfText (s : String) : Except ErrorKind Bool :=
  if falseWords.contains (asciiLower s) then .ok false
  else if trueWords.contains (asciiLower s) then .ok true
  else .error .boolParsing

/-- The boolean a value stands for, read leniently. -/
def toBool (v : Value) : Except ErrorKind Bool :=
  match v with
  | .bool b => .ok b
  | .int n =>
    if n == 0 then .ok false else if n == 1 then .ok true
    -- an integer beyond 64 bits is not read as a number at all
    else if -int64Limit ≤ n && n < int64Limit then .error .boolParsing
    else .error .boolType
  | .float x =>
    match toInt (.float x) with
    | .ok 0 => .ok false
    | .ok 1 => .ok true
    | .ok _ => .error .boolParsing
    | .error _ => .error .boolType
  | .str s => if Text.hasSurrogate s then .error .stringUnicode else boolOfText s
  | .bytes data =>
    match Utf8.decodeUtf8 data with
    | .ok s => boolOfText s
    | .error _ => .error .boolParsing
  | _ => .error .boolType

end PineCheck.Coerce
