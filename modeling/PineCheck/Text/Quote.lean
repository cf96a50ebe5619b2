import PineCheck.Text.Word
import PineCheck.Text.Surrogate
/-!
# Quoted texts

A text is quoted the way an interactive session echoes it: between single quotes, or
between double quotes when it holds a single quote and no double quote. Inside, the
backslash and the chosen quote are escaped, tab, line feed and carriage return are written
`\t`, `\n`, `\r`, and any other character that is not printable is written by its code
point: `\xhh` below 256, `\uhhhh` below 65536 and `\Uhhhhhhhh` above; a stand-in for a
lone surrogate (`PineCheck.Text.Surrogate`) is written as that surrogate, `\udhhh`.
-/

namespace PineCheck.Text

/-- Whether a character is printable. -/
def isPrintable (c : Char) : Bool :=
  if c.toNat < 128 then 32 ≤ c.toNat && c.toNat < 127 else !inRanges unprintableRanges c.toNat

/-- `width` lowercase hexadecimal digits of a number. -/
def hexPadded (width n : Nat) : String :=
  let ds := Nat.toDigits 16 n
  String.ofList (List.replicate (width - ds.length) '0' ++ ds)

/-- One character inside quotes of kind `q`. -/
def quotedChar (q : Char) (c : Char) : String :=
  if c == '\\' then "\\\\"
  else if c == q then "\\" ++ c.toString
  else if c == '\t' then "\\t"
  else if c == '\n' then "\\n"
  else if c == '\r' then "\\r"
  else if let some n := surrogate? c then "\\u" ++ hexPadded 4 n
  else if isPrintable c then c.toString
  else if c.toNat < 256 then "\\x" ++ hexPadded 2 c.toNat
  else if c.toNat < 65536 then "\\u" ++ hexPadded 4 c.toNat
  else "\\U" ++ hexPadded 8 c.toNat

/-- A text as a stream writes it that cannot encode a lone surrogate and writes its escape
instead: each stand-in becomes `\udhhh`, every other character stays. -/
def escapeSurrogates (s : String) : String :=
  String.join (s.toList.map fun c =>
    match surrogate? c with
    | some n => "\\u" ++ hexPadded 4 n
    | none => c.toString)

/-- A text in quotes. -/
def quote (s : String) : String :=
  let q := if s.contains '\'' && !s.contains '"' then '"' else '\''
  q.toString ++ String.join (s.toList.map (quotedChar q)) ++ q.toString

end PineCheck.Text
