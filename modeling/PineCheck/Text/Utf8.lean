/-!
# UTF-8

`decodeUtf8` reads bytes as UTF-8 text and refuses at the first byte sequence that is not
UTF-8 (RFC 3629): a byte that cannot start a character, a character cut short by a byte
that cannot continue it, or the end of the bytes inside a character. The error gives the
bytes it blames: the start byte alone for an invalid start or an invalid second byte, the
start through the last good byte for a later invalid byte, and the start through the last
byte for an end inside a character.

`encodeUtf8` writes text as UTF-8 bytes.
-/

namespace PineCheck.Utf8

/-- Why bytes are not UTF-8. -/
inductive Fault where
  | invalidStart
  | invalidContinuation
  | unexpectedEnd
  deriving DecidableEq, Repr

/-- The words for a fault. -/
def Fault.text : Fault → String
  | .invalidStart => "invalid start byte"
  | .invalidContinuation => "invalid continuation byte"
  | .unexpectedEnd => "unexpected end of data"

/-- Bytes that are not UTF-8: the fault and the positions `start` to `stop` (exclusive) of
the bytes blamed, the first of which is `first`. -/
structure DecodeError where
  fault : Fault
  start : Nat
  stop : Nat
  first : UInt8
  deriving DecidableEq, Repr

/-- Two lowercase hexadecimal digits of a byte. -/
def hexByte (b : UInt8) : String :=
  let ds := Nat.toDigits 16 b.toNat
  String.ofList (if ds.length < 2 then '0' :: ds else ds)

/-- The message for bytes that are not UTF-8. -/
def DecodeError.message (e : DecodeError) : String :=
  let reason := e.fault.text
  if e.stop == e.start + 1 then
    let byte := hexByte e.first
    let pos := e.start
    s!"'utf-8' codec can't decode byte 0x{byte} in position {pos}: " ++ reason
  else
    let first := e.start
    let last := e.stop - 1
    s!"'utf-8' codec can't decode bytes in position {first}-{last}: " ++ reason

/-- A continuation byte: `10xxxxxx`. -/
def isContinuation (b : UInt8) : Bool := 0x80 ≤ b && b ≤ 0xBF

/-- The least and greatest allowed second byte after a start byte. -/
def secondRange (b : UInt8) : UInt8 × UInt8 :=
  if b == 0xE0 then (0xA0, 0xBF)
  else if b == 0xED then (0x80, 0x9F)
  else if b == 0xF0 then (0x90, 0xBF)
  else if b == 0xF4 then (0x80, 0x8F)
  else (0x80, 0xBF)

/-- How many bytes a character that starts with `b` takes; `none` for a byte that cannot
start one. -/
def sequenceLength (b : UInt8) : Option Nat :=
  if b < 0x80 then some 1
  else if b < 0xC2 then none
  else if b < 0xE0 then some 2
  else if b < 0xF0 then some 3
  else if b < 0xF5 then some 4
  else none

/-- The code point of a well-formed sequence. -/
def codePoint (bs : List UInt8) : Nat :=
  match bs with
  | [a] => a.toNat
  | [a, b] => (a.toNat % 32) * 64 + b.toNat % 64
  | [a, b, c] => ((a.toNat % 16) * 64 + b.toNat % 64) * 64 + c.toNat % 64
  | [a, b, c, d] => (((a.toNat % 8) * 64 + b.toNat % 64) * 64 + c.toNat % 64) * 64 + d.toNat % 64
  | _ => 0

/-- How many bytes after the first of a sequence are good, among those present. -/
def goodTail (first : UInt8) (tail : List UInt8) : Nat :=
  match tail with
  | [] => 0
  | b :: rest =>
    let (lo, hi) := secondRange first
    if lo ≤ b && b ≤ hi then 1 + (rest.takeWhile isContinuation).length else 0

/-- Decode the bytes from position `pos` on, `acc` holding the characters so far, last
first. -/
def decodeFrom (bs : List UInt8) (pos : Nat) (acc : List Char) : Except DecodeError String :=
  match bs with
  | [] => .ok (String.ofList acc.reverse)
  | b :: rest =>
    match sequenceLength b with
    | none => .error ⟨.invalidStart, pos, pos + 1, b⟩
    | some n =>
      let tail := rest.take (n - 1)
      let good := min (goodTail b tail) (n - 1)
      if good == n - 1 then
        decodeFrom (rest.drop (n - 1)) (pos + n) (Char.ofNat (codePoint (b :: tail)) :: acc)
      else if good == tail.length then
        -- every byte present is good: the bytes end inside the character
        .error ⟨.unexpectedEnd, pos, pos + 1 + tail.length, b⟩
      else
        .error ⟨.invalidContinuation, pos, pos + 1 + good, b⟩
termination_by bs.length
decreasing_by simp only [List.length_cons, List.length_drop]; omega

/-- Read bytes as UTF-8 text. -/
def decodeUtf8 (bs : List UInt8) : Except DecodeError String := decodeFrom bs 0 []

/-- The UTF-8 bytes of a character. -/
def encodeChar (c : Char) : List UInt8 :=
  let n := c.toNat
  if n < 0x80 then [n.toUInt8]
  else if n < 0x800 then [(0xC0 + n / 64).toUInt8, (0x80 + n % 64).toUInt8]
  else if n < 0x10000 then
    [(0xE0 + n / 4096).toUInt8, (0x80 + (n / 64) % 64).toUInt8, (0x80 + n % 64).toUInt8]
  else
    [(0xF0 + n / 262144).toUInt8, (0x80 + (n / 4096) % 64).toUInt8,
      (0x80 + (n / 64) % 64).toUInt8, (0x80 + n % 64).toUInt8]

/-- The UTF-8 bytes of a text. -/
def encodeUtf8 (s : String) : List UInt8 := s.toList.flatMap encodeChar

/-- The value of a hexadecimal digit. -/
def hexDigit? (c : Char) : Option Nat :=
  if '0' ≤ c && c ≤ '9' then some (c.toNat - '0'.toNat)
  else if 'a' ≤ c && c ≤ 'f' then some (c.toNat - 'a'.toNat + 10)
  else if 'A' ≤ c && c ≤ 'F' then some (c.toNat - 'A'.toNat + 10)
  else none

/-- Bytes written as pairs of hexadecimal digits, blanks between pairs allowed. -/
def bytesOfHex (s : String) : Option (List UInt8) :=
  let rec go : List Char → Option (List UInt8)
    | [] => some []
    | ' ' :: rest => go rest
    | a :: b :: rest => do
      let hi ← hexDigit? a
      let lo ← hexDigit? b
      let tail ← go rest
      pure ((hi * 16 + lo).toUInt8 :: tail)
    | [_] => none
  go s.toList

end PineCheck.Utf8
