import PineCheck.Yaml.Token
import PineCheck.Value.Basic
import PineCheck.Value.Calendar
import PineCheck.Decimal.Basic
import PineCheck.Text.Blank
import PineCheck.Text.Word
import PineCheck.Text.Case
/-!
# YAML scalars

A plain scalar gets its type from its text, by the YAML 1.1 rules: the boolean words
(`yes`, `no`, `on`, `off`, `true`, `false` in three spellings each), integers in binary
(`0b`), octal (a leading `0`), decimal, hexadecimal (`0x`) and base 60 (`1:30`), floats
with a point, `.inf` and `.nan`, the null words (`~`, `null`, the empty text), dates and
times, and the merge key `<<`. Underscores may stand between digits. Any other text is a
string, and so is every quoted scalar.

The rules are tried in a fixed order (booleans, floats, integers, merge, null, dates), and
only those whose first character can start the text; a text passes a rule when it matches
the rule whole, or all but a final line feed.

Reading the value of a typed scalar can fail when an explicit tag names a type its text does
not have; the error then is the message of the refused conversion.
-/

namespace PineCheck.Yaml

/-- The prefix of the standard tags. -/
def stdTag (name : String) : String := "tag:yaml.org,2002:" ++ name

/-- A rule on texts, tried on the whole text or the text without a final line feed. -/
def wholeMatch (p : List Char → Bool) (s : List Char) : Bool :=
  p s || (s.getLast? == some '\n' && p s.dropLast)

/-- The text without a leading sign. -/
def dropSign : List Char → List Char
  | '+' :: rest | '-' :: rest => rest
  | s => s

/-- A decimal digit. -/
def isDigitChar (c : Char) : Bool := '0' ≤ c && c ≤ '9'

/-- Digits and underscores. -/
def digitsOrUnderscores (s : List Char) (ok : Char → Bool) : Bool := s.all fun c => ok c || c == '_'

/-- One base-60 place after a colon: a digit, or two digits the first of which is at most 5. -/
def isSexagesimalPlace : List Char → Bool
  | [d] => isDigitChar d
  | [a, b] => '0' ≤ a && a ≤ '5' && isDigitChar b
  | _ => false

/-- The parts of a text between colons. -/
def colonParts (s : List Char) : List (List Char) := s.splitOn ':'

/-- Base-60 places after a leading part: at least one, each a valid place. -/
def sexagesimalTail (places : List (List Char)) : Bool :=
  !places.isEmpty && places.all isSexagesimalPlace

/-- The boolean words. -/
def boolWords : List String :=
  ["yes", "Yes", "YES", "no", "No", "NO", "true", "True", "TRUE", "false", "False", "FALSE",
    "on", "On", "ON", "off", "Off", "OFF"]

/-- An integer text without its sign. -/
def isIntBody (s : List Char) : Bool :=
  match s with
  | '0' :: 'b' :: rest => !rest.isEmpty && digitsOrUnderscores rest (fun c => c == '0' || c == '1')
  | '0' :: 'x' :: rest =>
    !rest.isEmpty && digitsOrUnderscores rest (fun c =>
      isDigitChar c || ('a' ≤ c && c ≤ 'f') || ('A' ≤ c && c ≤ 'F'))
  | ['0'] => true
  | '0' :: rest => digitsOrUnderscores rest (fun c => '0' ≤ c && c ≤ '7')
  | d :: rest =>
    '1' ≤ d && d ≤ '9' &&
      (digitsOrUnderscores rest isDigitChar ||
        match colonParts rest with
        | head :: places => digitsOrUnderscores head isDigitChar && sexagesimalTail places
        | [] => false)
  | [] => false

/-- An integer text. -/
def isIntText (s : List Char) : Bool := isIntBody (dropSign s)

/-- An optional exponent: `e` or `E`, a sign, and digits. -/
def isExponent : List Char → Bool
  | [] => true
  | e :: sign :: ds => (e == 'e' || e == 'E') && (sign == '+' || sign == '-') && !ds.isEmpty && ds.all isDigitChar
  | _ => false

/-- After the point of a float: digits and underscores, then an optional exponent. -/
def isFractionPart (s : List Char) : Bool :=
  let frac := s.takeWhile fun c => isDigitChar c || c == '_'
  isExponent (s.drop frac.length)

/-- A float text with a point, or base 60 with a point, without its sign. -/
def isSignedFloatBody (s : List Char) : Bool :=
  match s with
  | '.' :: rest => ["inf", "Inf", "INF"].contains (String.ofList rest)
  | d :: rest =>
    isDigitChar d &&
      (let whole := rest.takeWhile fun c => isDigitChar c || c == '_'
       match rest.drop whole.length with
       | '.' :: frac => isFractionPart frac
       | ':' :: more =>
         match more.splitOn '.' with
         | [places, frac] =>
           sexagesimalTail (colonParts places) && digitsOrUnderscores frac isDigitChar
         | _ => false
       | _ => false)
  | [] => false

/-- A float text. -/
def isFloatText (s : List Char) : Bool :=
  isSignedFloatBody (dropSign s) ||
    (match s with
     | '.' :: rest =>
       let frac := rest.takeWhile fun c => isDigitChar c || c == '_'
       (frac.head?.any isDigitChar && isExponent (rest.drop frac.length)) ||
         ["nan", "NaN", "NAN"].contains (String.ofList rest)
     | _ => false)

/-- Exactly `n` decimal digits at the front; the rest. -/
def takeDigits (n : Nat) (s : List Char) : Option (List Char × List Char) :=
  let ds := s.take n
  if ds.length == n && ds.all isDigitChar then some (ds, s.drop n) else none

/-- One or two digits at the front; the rest. -/
def takeOneOrTwo (s : List Char) : Option (List Char × List Char) :=
  match s with
  | a :: b :: rest => if isDigitChar a then (if isDigitChar b then some ([a, b], rest) else some ([a], b :: rest)) else none
  | [a] => if isDigitChar a then some ([a], []) else none
  | [] => none

/-- The parts of a date and time text. -/
structure Stamp where
  year : Nat
  month : Nat
  day : Nat
  /-- Hour, minute and second, when a time is given. -/
  time : Option (Nat × Nat × Nat)
  /-- The digits of the fraction of a second. -/
  fraction : List Char
  /-- A time zone offset: its sign (true for `-`), hours and minutes; `Z` is no offset. -/
  zone : Option (Bool × Nat × Nat)
  deriving Repr

/-- The value of decimal digits. -/
def natOfDigits (ds : List Char) : Nat := Decimal.digitsValue ds

/-- Blanks between parts of a time stamp. -/
def isStampBlank (c : Char) : Bool := c == ' ' || c == '\t'

/-- The time zone at the end of a time stamp. -/
def stampZone (s : List Char) : Option (Option (Bool × Nat × Nat)) :=
  let t := s.dropWhile isStampBlank
  match t with
  | [] => if s.isEmpty then some none else none
  | ['Z'] => some (some (false, 0, 0))
  | sign :: rest =>
    if sign == '+' || sign == '-' then
      match takeOneOrTwo rest with
      | some (h, []) => some (some (sign == '-', natOfDigits h, 0))
      | some (h, ':' :: more) =>
        match takeDigits 2 more with
        | some (m, []) => some (some (sign == '-', natOfDigits h, natOfDigits m))
        | _ => none
      | _ => none
    else none

/-- A date, or a date and time, as the constructor of time stamps reads it: a four-digit
year, a month and a day of one or two digits, and optionally a time with a fraction and a
zone. -/
def parseStamp (s : List Char) : Option Stamp := do
  let (y, s) ← takeDigits 4 s
  let s ← match s with | '-' :: r => some r | _ => none
  let (mo, s) ← takeOneOrTwo s
  let s ← match s with | '-' :: r => some r | _ => none
  let (d, s) ← takeOneOrTwo s
  let base : Stamp := ⟨natOfDigits y, natOfDigits mo, natOfDigits d, none, [], none⟩
  if s.isEmpty then return base
  let s ← match s with
    | 'T' :: r | 't' :: r => some r
    | c :: _ => if isStampBlank c then some (s.dropWhile isStampBlank) else none
    | [] => none
  let (h, s) ← takeOneOrTwo s
  let s ← match s with | ':' :: r => some r | _ => none
  let (mi, s) ← takeDigits 2 s
  let s ← match s with | ':' :: r => some r | _ => none
  let (se, s) ← takeDigits 2 s
  let (fraction, s) := match s with
    | '.' :: r => (r.takeWhile isDigitChar, r.dropWhile isDigitChar)
    | _ => ([], s)
  let zone ← stampZone s
  return { base with time := some (natOfDigits h, natOfDigits mi, natOfDigits se), fraction, zone }

/-- A text that is a date (`2001-12-14`) or a date and time, as plain scalars write them:
the date alone needs two-digit months and days. -/
def isStampText (s : List Char) : Bool :=
  let dateOnly := s.length == 10 && (takeDigits 4 s).isSome && s[4]? == some '-' &&
    (takeDigits 2 (s.drop 5)).isSome && s[7]? == some '-' && (takeDigits 2 (s.drop 8)).isSome
  dateOnly || (match parseStamp s with
    | some st => st.time.isSome
    | none => false)

/-- The tag a plain scalar's text gives it. -/
def resolveTag (text : String) : String :=
  let s := text.toList
  let first := s.head?
  let starts := fun (cs : List Char) => match first with
    | some c => cs.contains c
    | none => false
  if starts "yYnNtTfFoO".toList && wholeMatch (fun t => boolWords.contains (String.ofList t)) s then stdTag "bool"
  else if starts "-+0123456789.".toList && wholeMatch isFloatText s then stdTag "float"
  else if starts "-+0123456789".toList && wholeMatch isIntText s then stdTag "int"
  else if first == some '<' && wholeMatch (· == ['<', '<']) s then stdTag "merge"
  else if (first.isNone || starts "~nN".toList) &&
      wholeMatch (fun t => ["~", "null", "Null", "NULL", ""].contains (String.ofList t)) s then stdTag "null"
  else if starts "0123456789".toList && wholeMatch isStampText s then stdTag "timestamp"
  else if first == some '=' && wholeMatch (· == ['=']) s then stdTag "value"
  else stdTag "str"

/-! ## Reading typed scalars -/

/-- Why a scalar's text could not be read as its type: a refused conversion (caught by
readers of settings files like any syntax error), or a failed lookup or index that escapes
them, with the kind of the failure. -/
inductive ScalarFault where
  | refused (message : String)
  | escaped (kind : String) (message : String)
  deriving Repr

/-- The digit value of a character in a base, if it is a digit of that base. -/
def digitIn (base : Nat) (c : Char) : Option Nat :=
  let v := if isDigitChar c then some (c.toNat - '0'.toNat)
    else if 'a' ≤ c && c ≤ 'z' then some (c.toNat - 'a'.toNat + 10)
    else if 'A' ≤ c && c ≤ 'Z' then some (c.toNat - 'A'.toNat + 10)
    else none
  match v with
  | some d => if d < base then some d else none
  | none => none

/-- The value of digits in a base. -/
def digitsIn (base : Nat) (ds : List Char) : Option Nat :=
  ds.foldlM (fun acc c => (digitIn base c).map fun d => acc * base + d) 0

/-- A text as the numeric conversions see it: decimal digits of any script stand for the
ASCII digits of their values and blanks beyond ASCII for spaces. -/
def asciiNumeral (cs : List Char) : List Char :=
  cs.map fun c =>
    if c.toNat < 128 then c
    else if Text.isBlank c then ' '
    else match Text.decimalValue c with
      | some d => Char.ofNat ('0'.toNat + d)
      | none => c

/-- The most digits a decimal integer text may have. -/
def intDigitLimit : Nat := 4300

/-- Read an integer in a base the way the integer conversion of texts does: blanks around,
an optional sign, an optional base prefix for bases 2, 8 and 16, then digits, which may be
decimal digits of any script. -/
def intOfBase (s : String) (base : Nat) : Except ScalarFault Int :=
  let bad := ScalarFault.refused s!"invalid literal for int() with base {base}: {Text.quote s}"
  let t := Text.trimBlank (asciiNumeral s.toList)
  let (negative, t) := match t with
    | '-' :: r => (true, r)
    | '+' :: r => (false, r)
    | _ => (false, t)
  let t := match base, t with
    | 16, '0' :: x :: r => if x == 'x' || x == 'X' then r else t
    | 8, '0' :: o :: r => if o == 'o' || o == 'O' then r else t
    | 2, '0' :: b :: r => if b == 'b' || b == 'B' then r else t
    | _, _ => t
  if t.isEmpty then .error bad
  else match digitsIn base t with
    | none => .error bad
    | some n =>
      if base == 10 && t.length > intDigitLimit then
        .error (.refused s!"Exceeds the limit ({intDigitLimit} digits) for integer string conversion: value has {t.length} digits; use sys.set_int_max_str_digits() to increase the limit")
      else .ok (if negative then -(n : Int) else n)

/-- The first character of a text, or the failure of indexing an empty one. -/
def firstChar (s : String) : Except ScalarFault Char :=
  match s.toList with
  | c :: _ => .ok c
  | [] => .error (.escaped "IndexError" "string index out of range")

/-- The value of an integer scalar: underscores dropped, a sign, then `0`, binary,
hexadecimal, octal (a leading `0`), base 60 or decimal. -/
def intScalar (text : String) : Except ScalarFault Int := do
  let v := String.ofList (text.toList.filter (· != '_'))
  let c ← firstChar v
  let sign : Int := if c == '-' then -1 else 1
  let v := if c == '+' || c == '-' then String.ofList (v.toList.drop 1) else v
  if v == "0" then return 0
  let cs := v.toList
  if cs.take 2 == ['0', 'b'] then return sign * (← intOfBase (String.ofList (cs.drop 2)) 2)
  if cs.take 2 == ['0', 'x'] then return sign * (← intOfBase (String.ofList (cs.drop 2)) 16)
  if (← firstChar v) == '0' then return sign * (← intOfBase v 8)
  if cs.contains ':' then
    let parts ← (colonParts cs).mapM fun p => intOfBase (String.ofList p) 10
    return sign * parts.foldl (fun acc d => acc * 60 + d) 0
  return sign * (← intOfBase v 10)

/-- Read a float the way the float conversion of texts does: blanks around, an optional
sign, then `inf`, `infinity` or `nan` in any case, or digits (of any script) with an
optional point and an optional exponent. -/
def floatOfText (s : String) : Except ScalarFault Float :=
  let bad := ScalarFault.refused s!"could not convert string to float: {Text.quote s}"
  let t := Text.trimBlank (asciiNumeral s.toList)
  let (negative, t) := match t with
    | '-' :: r => (true, r)
    | '+' :: r => (false, r)
    | _ => (false, t)
  let word := String.ofList (t.map Char.toLower)
  if word == "inf" || word == "infinity" then .ok (if negative then -(1 / 0) else 1 / 0)
  else if word == "nan" then .ok (0 / 0)
  else
    let whole := t.takeWhile isDigitChar
    let rest := t.drop whole.length
    let (frac, rest) := match rest with
      | '.' :: r => (r.takeWhile isDigitChar, r.drop (r.takeWhile isDigitChar).length)
      | _ => ([], rest)
    let exp : Option Int := match rest with
      | [] => some 0
      | e :: r =>
        if e == 'e' || e == 'E' then
          let (eneg, ds) := match r with
            | '-' :: d => (true, d)
            | '+' :: d => (false, d)
            | _ => (false, r)
          if !ds.isEmpty && ds.all isDigitChar then
            let n : Int := Decimal.digitsValue ds
            some (if eneg then -n else n)
          else none
        else none
    match exp with
    | none => .error bad
    | some e =>
      if whole.isEmpty && frac.isEmpty then .error bad
      else .ok (Decimal.toFloat negative (Decimal.digitsValue (whole ++ frac)) (e - frac.length))

/-- The value of a float scalar: underscores dropped, lower case, a sign, then `.inf`,
`.nan`, base 60 or a decimal float. -/
def floatScalar (text : String) : Except ScalarFault Float := do
  let v := String.ofList (Text.lowerText (text.toList.filter (· != '_')))
  let c ← firstChar v
  let negative := c == '-'
  let v := if c == '+' || c == '-' then String.ofList (v.toList.drop 1) else v
  let signed := fun (x : Float) => if negative then -x else x
  if v == ".inf" then return signed (1 / 0)
  if v == ".nan" then return (0 / 0)
  let cs := v.toList
  if cs.contains ':' then
    let parts ← (colonParts cs).mapM fun p => floatOfText (String.ofList p)
    let (total, _) := parts.reverse.foldl (fun (acc : Float × Float) d => (acc.1 + d * acc.2, acc.2 * 60)) (0, 1)
    return signed total
  return signed (← floatOfText v)

/-- The value of a boolean scalar: one of the six words, in any case. -/
def boolScalar (text : String) : Except ScalarFault Bool :=
  let w := String.ofList (Text.lowerText text.toList)
  if w == "yes" || w == "true" || w == "on" then .ok true
  else if w == "no" || w == "false" || w == "off" then .ok false
  else .error (.escaped "KeyError" (Text.quote w))

/-! ## Binary scalars -/

/-- The value of a base64 character. -/
def base64Value (c : Char) : Option Nat :=
  if 'A' ≤ c && c ≤ 'Z' then some (c.toNat - 'A'.toNat)
  else if 'a' ≤ c && c ≤ 'z' then some (c.toNat - 'a'.toNat + 26)
  else if '0' ≤ c && c ≤ '9' then some (c.toNat - '0'.toNat + 52)
  else if c == '+' then some 62
  else if c == '/' then some 63
  else none

/-- The state of decoding base64: the bytes so far (last first), how many characters of the
current group of four have been read, the bits of them not yet in a byte, and the run of
padding characters seen since the last data character. -/
structure Base64State where
  out : List UInt8
  place : Nat
  left : Nat
  pads : Nat

/-- Read base64 characters leniently: characters outside the alphabet are skipped, and
padding ends the data once it completes a group whose first two characters have been read
(padding anywhere else is skipped). Gives the bytes when padding ended the data, or else the
state at the end of the text. -/
def base64Read (st : Base64State) : List Char → Sum (List UInt8) Base64State
  | [] => .inr st
  | c :: rest =>
    if c == '=' then
      if st.place ≥ 2 && st.place + st.pads + 1 ≥ 4 then .inl st.out.reverse
      else base64Read { st with pads := if st.place ≥ 2 then st.pads + 1 else st.pads } rest
    else match base64Value c with
      | none => base64Read st rest
      | some v =>
        match st.place with
        | 0 => base64Read ⟨st.out, 1, v, 0⟩ rest
        | 1 => base64Read ⟨UInt8.ofNat (st.left * 4 + v / 16) :: st.out, 2, v % 16, 0⟩ rest
        | 2 => base64Read ⟨UInt8.ofNat (st.left * 16 + v / 4) :: st.out, 3, v % 4, 0⟩ rest
        | _ => base64Read ⟨UInt8.ofNat (st.left * 64 + v) :: st.out, 0, 0, 0⟩ rest

/-- Decode base64 text leniently, or say why it is not base64: without padding to end it, a
last group of one character can stand for no bytes, and one of two or three lacks its
padding. -/
def base64Decode (cs : List Char) : Except String (List UInt8) :=
  match base64Read ⟨[], 0, 0, 0⟩ cs with
  | .inl bytes => .ok bytes
  | .inr st =>
    if st.place == 0 then .ok st.out.reverse
    else if st.place == 1 then
      .error s!"Invalid base64-encoded string: number of data characters ({st.out.length / 3 * 4 + 1}) cannot be 1 more than a multiple of 4"
    else .error "Incorrect padding"

/-- The text of an ASCII codec refusing the characters from `start` on, up to the run of
characters beyond ASCII that begins there. -/
def asciiRefusal (cs : List Char) (start : Nat) : String :=
  let run := ((cs.drop start).takeWhile fun c => c.toNat ≥ 128).length
  if run == 1 then
    let c := (cs.drop start).headD ' '
    let code := if c.toNat < 256 then "\\x" ++ Text.hexPadded 2 c.toNat
      else if c.toNat < 65536 then "\\u" ++ Text.hexPadded 4 c.toNat
      else "\\U" ++ Text.hexPadded 8 c.toNat
    s!"'ascii' codec can't encode character '{code}' in position {start}: ordinal not in range(128)"
  else
    s!"'ascii' codec can't encode characters in position {start}-{start + run - 1}: ordinal not in range(128)"

/-- The bytes of a binary scalar: its text must be ASCII, and is read as base64. -/
def binaryScalar (text : String) : Except String (List UInt8) :=
  let cs := text.toList
  match cs.findIdx? (fun c => c.toNat ≥ 128) with
  | some i => .error ("failed to convert base64 data into ascii: " ++ asciiRefusal cs i)
  | none =>
    match base64Decode cs with
    | .ok bs => .ok bs
    | .error m => .error ("failed to decode base64 data: " ++ m)

/-- The microseconds a fraction of a second stands for: its first six digits, padded with
zeros. -/
def microOfFraction (ds : List Char) : Nat :=
  let six := ds.take 6
  natOfDigits (six ++ List.replicate (6 - six.length) '0')

/-- The value of a time stamp, built the way dates and times are: the zone offset must stay
within a day, then year, month, day, hour, minute and second must be in range. A date
without a time is a date; a time without a zone is naive, and `Z` is UTC. One line break
may end the text, as the end of a pattern allows. -/
def stampScalar (text : String) : Except ScalarFault Value := do
  let cs := text.toList
  match parseStamp (if cs.getLast? == some '\n' then cs.dropLast else cs) with
  | none => .error (.escaped "AttributeError" "'NoneType' object has no attribute 'groupdict'")
  | some st =>
    let offset : Option Int := st.zone.map fun (negative, h, m) =>
      let total : Int := (h * 3600 + m * 60 : Nat)
      if negative then -total else total
    if let some total := offset then
      if total ≥ 86400 || total ≤ -86400 then
        throw (.refused s!"offset must be a timedelta strictly between -timedelta(hours=24) and timedelta(hours=24), not {DateTime.spanLiteral total}.")
    if st.year < 1 then throw (.refused s!"year {st.year} is out of range")
    if st.month < 1 || st.month > 12 then throw (.refused "month must be in 1..12")
    if st.day < 1 || st.day > Date.daysInMonth st.year st.month then
      throw (.refused "day is out of range for month")
    let date : Date := ⟨st.year, st.month, st.day⟩
    match st.time with
    | none => return .date date
    | some (h, m, s) =>
      if h > 23 then throw (.refused "hour must be in 0..23")
      if m > 59 then throw (.refused "minute must be in 0..59")
      if s > 59 then throw (.refused "second must be in 0..59")
      return .dateTime ⟨date, h, m, s, microOfFraction st.fraction, offset⟩

end PineCheck.Yaml
