import PineCheck.Text.Tables
/-!
# Word characters and word boundaries

A word character is a letter, a digit or the underscore, in the Unicode sense of
`PineCheck.Text.Tables`. A word boundary lies between two characters of which exactly one
is a word character, where the ends of the text count as non-word characters.
-/

namespace PineCheck.Text

/-- Whether a code point lies in one of the closed ranges of a table. -/
def inRanges (table : Array (Nat × Nat)) (n : Nat) : Bool :=
  table.any fun r => r.1 ≤ n && n ≤ r.2

/-- A letter, digit or underscore. -/
def isWord (c : Char) : Bool :=
  if c.toNat < 128 then c.isAlphanum || c == '_' else inRanges wordRanges c.toNat

/-- A decimal digit of any script. -/
def isDecimal (c : Char) : Bool :=
  if c.toNat < 128 then c.isDigit else inRanges decimalRanges c.toNat

/-- The value of a decimal digit of any script. Every range of the table is a run of whole
sets of ten digits, each from zero to nine. -/
def decimalValue (c : Char) : Option Nat :=
  if c.toNat < 128 then (if c.isDigit then some (c.toNat - '0'.toNat) else none)
  else (decimalRanges.find? fun r => r.1 ≤ c.toNat && c.toNat ≤ r.2).map fun r => (c.toNat - r.1) % 10

/-- An ASCII letter or the underscore: the first character of a name. -/
def isNameStart (c : Char) : Bool := c.isAlpha || c == '_'

/-- Whether `c` is a word character, `false` at either end of the text. -/
def wordAt : Option Char → Bool
  | some c => isWord c
  | none => false

end PineCheck.Text
