import PineCheck.Schema.Error
import PineCheck.Value.Repr
import PineCheck.Text.Utf8
/-!
# The text of a failed validation

A record that fails validation is reported in one text: a head line counting the errors
(`1 validation error for Name`, or `errors` for any other count), then two lines per error:
its location (keys and indices joined by dots), and, indented by two spaces, its message
with the kind's code, the value found and the name of that value's kind in brackets.

A value whose literal is longer than 50 bytes is shown by its first 25 and last 24 bytes
around `...`, cut at character boundaries.
-/

namespace PineCheck

/-- The UTF-8 length of a text. -/
def byteLength (cs : List Char) : Nat := (cs.map fun c => (Utf8.encodeChar c).length).foldr (· + ·) 0

/-- The longest prefix of a text that takes at most `limit` bytes. -/
def prefixWithin (limit : Nat) (cs : List Char) : List Char :=
  let n := ((List.range (cs.length + 1)).filter fun k => byteLength (cs.take k) ≤ limit).getLast?.getD 0
  cs.take n

/-- A literal cut to 50 bytes: the first 25 and last 24 around `...`. -/
def clipLiteral (s : String) : String :=
  let cs := s.toList
  if byteLength cs ≤ 50 then s
  else
    let front := prefixWithin 25 cs
    let back := (prefixWithin 24 cs.reverse).reverse
    String.ofList front ++ "..." ++ String.ofList back

/-- The text of a location: its steps joined by dots. -/
def locText (loc : List LocPart) : String := ".".intercalate (loc.map LocPart.text)

/-- The two lines of one error. -/
def SchemaError.lines (e : SchemaError) : String :=
  locText e.loc ++ "\n  " ++ e.kind.message ++ " [type=" ++ e.kind.code ++ ", input_value=" ++
    clipLiteral e.input.literal ++ ", input_type=" ++ e.input.kindName ++ "]"

/-- The text of a failed validation of the record `title`. -/
def validationText (title : String) (errors : List SchemaError) : String :=
  let n := errors.length
  let word := ErrorKind.plural n "error"
  let head := s!"{n} validation {word} for {title}"
  "\n".intercalate (head :: errors.map SchemaError.lines)

end PineCheck
