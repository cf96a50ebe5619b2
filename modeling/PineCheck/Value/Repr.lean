import PineCheck.Value.Basic
import PineCheck.Decimal.Shortest
import PineCheck.Text.Quote
/-!
# Values as literals

Messages about values echo them as literals: `None`, `True` and `False`, integers in
decimal, floats by their shortest decimal (`nan`, `inf` and `-inf` for the special ones),
texts quoted, lists in brackets and mappings in braces with `key: value` entries, all
separated by `, `; byte strings quoted after a `b`, dates and times by their fields.
-/

namespace PineCheck.Value

/-- One byte of a byte string literal quoted with `q`. -/
def byteLiteral (q : Char) (b : UInt8) : String :=
  let c := Char.ofNat b.toNat
  if c == '\\' || c == q then "\\" ++ c.toString
  else if c == '\t' then "\\t"
  else if c == '\n' then "\\n"
  else if c == '\r' then "\\r"
  else if b < 32 || b ≥ 127 then "\\x" ++ Text.hexPadded 2 b.toNat
  else c.toString

/-- A byte string as a literal: `b` and the bytes in quotes, double ones when the bytes
hold a single quote and no double quote. -/
def bytesLiteral (data : List UInt8) : String :=
  let q := if data.contains 39 && !data.contains 34 then '"' else '\''
  "b" ++ q.toString ++ String.join (data.map (byteLiteral q)) ++ q.toString

/-- How floats are written in literals. -/
def literalFloat : Decimal.FloatText := ⟨"nan", "inf"⟩

mutual

/-- A value as a literal. -/
def literal : Value → String
  | .null => "None"
  | .bool b => if b then "True" else "False"
  | .int n => toString n
  | .float x => literalFloat.render x
  | .str s => Text.quote s
  | .list [] => "[]"
  | .list (v :: vs) => "[" ++ literal v ++ literalItems vs ++ "]"
  | .object [] => "\x7b\x7d"
  | .object ((k, v) :: rest) => "\x7b" ++ literal k ++ ": " ++ literal v ++ literalEntries rest ++ "\x7d"
  | .bytes data => bytesLiteral data
  | .date d => d.literal
  | .dateTime t => t.literal

/-- The items after the first of a list, each after a separator. -/
def literalItems : List Value → String
  | [] => ""
  | v :: vs => ", " ++ literal v ++ literalItems vs

/-- The entries after the first of a mapping, each after a separator. -/
def literalEntries : List (Value × Value) → String
  | [] => ""
  | (k, v) :: rest => ", " ++ literal k ++ ": " ++ literal v ++ literalEntries rest

end

/-- The text a value converts to: a text is itself, anything else its literal. -/
def toText : Value → String
  | .str s => s
  | v => literal v

end PineCheck.Value
