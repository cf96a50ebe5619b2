/-!
# Lone surrogates

A text read from JSON may hold a lone surrogate: a `\u` escape of a code point from U+D800 to
U+DFFF that is not half of a pair. No character is a surrogate, so a lone surrogate is kept
as a stand-in character: U+D800 + k stands as U+DD800 + k, in plane 13, where no character
is assigned.

A stand-in behaves as the surrogate it stands for where that shows: texts are ordered by the
code points they stand for, quoting and JSON write the surrogate's own `\u` escape, and a
text holding one is not valid Unicode, so it cannot be read as a number or a boolean.
-/

namespace PineCheck.Text

/-- The first surrogate code point. -/
def surrogateBase : Nat := 0xD800

/-- The stand-in of the first surrogate. -/
def standInBase : Nat := 0xDD800

/-- The stand-in of a surrogate code point. -/
def standIn (n : Nat) : Char := Char.ofNat (standInBase + (n - surrogateBase))

/-- The surrogate a character stands for, when it is a stand-in. -/
def surrogate? (c : Char) : Option Nat :=
  if standInBase ≤ c.toNat && c.toNat < standInBase + 0x800 then
    some (c.toNat - standInBase + surrogateBase)
  else none

/-- The code point a character stands for. -/
def codePoint (c : Char) : Nat := (surrogate? c).getD c.toNat

/-- Whether a text holds a stand-in. -/
def hasSurrogate (s : String) : Bool := s.toList.any fun c => (surrogate? c).isSome

/-- Whether one list of code points comes before another, a prefix first. -/
def codesLess : List Nat → List Nat → Bool
  | [], [] => false
  | [], _ :: _ => true
  | _ :: _, [] => false
  | a :: as, b :: bs => a < b || (a == b && codesLess as bs)

/-- Whether one text comes before another, by the code points they stand for. -/
def textLess (a b : String) : Bool :=
  codesLess (a.toList.map codePoint) (b.toList.map codePoint)

end PineCheck.Text
