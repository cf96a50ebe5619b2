import PineCheck.Value.Basic
import PineCheck.Value.Repr
import PineCheck.Decimal.Shortest
import PineCheck.Text.Surrogate
/-!
# Writing JSON documents

`Json.encode` writes a `Value` as JSON text. A `Layout` chooses between one line and an
indented form, and whether characters beyond ASCII are escaped. Floats are written by their
shortest decimal, and NaN and the infinities by the names `NaN` and `Infinity`. A key that
is not a text is written as the text of its value (`1` becomes `"1"`). Byte strings, dates
and times have no JSON form and are written as texts holding their literals.
-/

namespace PineCheck.Json

/-- How a document is laid out. -/
structure Layout where
  /-- `none` writes one line; `some n` puts every item on its own line, `n` spaces deeper
  per level. -/
  indent : Option Nat
  /-- Escape every character outside printable ASCII. -/
  asciiOnly : Bool

/-- One line, every character outside printable ASCII escaped. -/
def Layout.compact : Layout := ⟨none, true⟩

/-- Items on their own lines, two spaces per level, ASCII only. -/
def Layout.indented : Layout := ⟨some 2, true⟩

/-- Float texts in JSON. -/
def floatText : Decimal.FloatText := ⟨"NaN", "Infinity"⟩

/-- Four lowercase hexadecimal digits. -/
def hexDigits4 (n : Nat) : String :=
  let ds := Nat.toDigits 16 n
  String.ofList (List.replicate (4 - ds.length) '0' ++ ds)

/-- A `\u` escape of a code point, as a surrogate pair beyond the basic plane. -/
def escapeCodePoint (n : Nat) : String :=
  if n < 0x10000 then "\\u" ++ hexDigits4 n
  else
    let v := n - 0x10000
    "\\u" ++ hexDigits4 (0xD800 + v / 0x400) ++ "\\u" ++ hexDigits4 (0xDC00 + v % 0x400)

/-- The escaped form of one character of a text. -/
def escapeChar (asciiOnly : Bool) (c : Char) : String :=
  match c with
  | '"' => "\\\""
  | '\\' => "\\\\"
  | '\n' => "\\n"
  | '\r' => "\\r"
  | '\t' => "\\t"
  | '\x08' => "\\b"
  | '\x0c' => "\\f"
  | _ =>
    if let some n := Text.surrogate? c then "\\u" ++ hexDigits4 n
    else if c.toNat < 0x20 then escapeCodePoint c.toNat
    else if asciiOnly && c.toNat > 0x7e then escapeCodePoint c.toNat
    else c.toString

/-- A text as a JSON string. -/
def quote (asciiOnly : Bool) (s : String) : String :=
  "\"" ++ String.join (s.toList.map (escapeChar asciiOnly)) ++ "\""

/-- The text a mapping key is written as. -/
def keyText : Value → String
  | .str s => s
  | .int n => toString n
  | .float x => floatText.render x
  | .bool b => if b then "true" else "false"
  | .null => "null"
  | .list _ => "[]"
  | .object _ => "\x7b\x7d"
  | v => Value.literal v

/-- The break before an item at a nesting level. -/
def Layout.newline (layout : Layout) (level : Nat) : String :=
  match layout.indent with
  | none => ""
  | some n => "\n" ++ String.ofList (List.replicate (n * level) ' ')

/-- The separator between items. -/
def Layout.comma (layout : Layout) : String :=
  match layout.indent with
  | none => ", "
  | some _ => ","

mutual

/-- A value as JSON text, at a nesting level. -/
def encodeAt (layout : Layout) (level : Nat) : Value → String
  | .null => "null"
  | .bool b => if b then "true" else "false"
  | .int n => toString n
  | .float x => floatText.render x
  | .str s => quote layout.asciiOnly s
  | .list [] => "[]"
  | .list (v :: vs) =>
    "[" ++ layout.newline (level + 1) ++ encodeAt layout (level + 1) v ++
      encodeItems layout (level + 1) vs ++ layout.newline level ++ "]"
  | .object [] => "\x7b\x7d"
  | .object ((k, v) :: rest) =>
    "\x7b" ++ layout.newline (level + 1) ++ quote layout.asciiOnly (keyText k) ++ ": " ++
      encodeAt layout (level + 1) v ++ encodeEntries layout (level + 1) rest ++
      layout.newline level ++ "\x7d"
  | v => quote layout.asciiOnly (Value.literal v)

/-- The items after the first of a list, each after a separator. -/
def encodeItems (layout : Layout) (level : Nat) : List Value → String
  | [] => ""
  | v :: vs => layout.comma ++ layout.newline level ++ encodeAt layout level v ++
      encodeItems layout level vs

/-- The entries after the first of a mapping, each after a separator. -/
def encodeEntries (layout : Layout) (level : Nat) : List (Value × Value) → String
  | [] => ""
  | (k, v) :: rest => layout.comma ++ layout.newline level ++ quote layout.asciiOnly (keyText k) ++
      ": " ++ encodeAt layout level v ++ encodeEntries layout level rest

end

/-- A value as a JSON document. -/
def encode (layout : Layout) (v : Value) : String := encodeAt layout 0 v

end PineCheck.Json
