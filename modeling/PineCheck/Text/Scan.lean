import PineCheck.Text.Blank
import PineCheck.Text.Word
/-!
# Scanning a text for a pattern

A pattern is recognised at a position of a text by a `Probe`: it sees the character just
before the position (`none` at the start) and the text from the position on, and gives the
length of what it recognises there, or `none`. Searching tries every position from the
left, the end of the text included, and the first position that the probe accepts wins.
`allMatches` lists every position that a probe accepts; for the call patterns of this library
two recognised stretches never overlap, so these are the successive matches of a search.
-/

namespace PineCheck.Text

/-- Recognises a pattern at a position: the character before it, the text from it. -/
abbrev Probe := Option Char → List Char → Option Nat

/-- The rest of a text after a literal prefix. -/
def afterPrefix (pre cs : List Char) : Option (List Char) :=
  if pre.isPrefixOf cs then some (cs.drop pre.length) else none

/-- A word boundary between the character before a position and the text from it. -/
def boundary (prev : Option Char) (cs : List Char) : Bool := wordAt prev != wordAt cs.head?

/-- No name can run into this position: the character before is neither a word character
nor a dot. -/
def freeBefore : Option Char → Bool
  | some c => !(isWord c || c == '.')
  | none => true

/-- The text does not go on with a word character. -/
def wordEnds (cs : List Char) : Bool := !wordAt cs.head?

/-- The first position from `i` on where a probe accepts, with the length it recognises. -/
def searchFrom (p : Probe) (prev : Option Char) (cs : List Char) (i : Nat) : Option (Nat × Nat) :=
  match p prev cs with
  | some n => some (i, n)
  | none =>
    match cs with
    | [] => none
    | c :: rest => searchFrom p (some c) rest (i + 1)

/-- The first position where a probe accepts, with the length it recognises. -/
def search (p : Probe) (cs : List Char) : Option (Nat × Nat) := searchFrom p none cs 0

/-- Whether a probe accepts somewhere. -/
def occurs (p : Probe) (cs : List Char) : Bool := (search p cs).isSome

/-- Every position from `i` on where a probe accepts, with the lengths. -/
def matchesFrom (p : Probe) (prev : Option Char) (cs : List Char) (i : Nat) : List (Nat × Nat) :=
  let here := match p prev cs with
    | some n => [(i, n)]
    | none => []
  match cs with
  | [] => here
  | c :: rest => here ++ matchesFrom p (some c) rest (i + 1)

/-- Every position where a probe accepts, with the lengths. -/
def allMatches (p : Probe) (cs : List Char) : List (Nat × Nat) := matchesFrom p none cs 0

/-- The length of a text's blank prefix. -/
def blankRun (cs : List Char) : Nat := (cs.takeWhile isBlank).length

/-- Blank characters, then `(`: the length up to and including the bracket. -/
def openParenLength (cs : List Char) : Option Nat :=
  match dropBlank cs with
  | '(' :: _ => some (blankRun cs + 1)
  | _ => none

/-- A literal word, then blanks and `(`: a call of that name. The length ends at the
bracket. -/
def callOf (name : List Char) (cs : List Char) : Option Nat :=
  match afterPrefix name cs with
  | some rest => (openParenLength rest).map (name.length + ·)
  | none => none

/-- A call of one of several names, tried in order. -/
def callOfAny (names : List (List Char)) (cs : List Char) : Option Nat :=
  match names with
  | [] => none
  | n :: rest =>
    match callOf n cs with
    | some k => some k
    | none => callOfAny rest cs

/-- A literal text, then blanks, then `=`: the length up to and including `=`. -/
def keywordEquals (name : List Char) (cs : List Char) : Option Nat :=
  match afterPrefix name cs with
  | some rest =>
    match dropBlank rest with
    | '=' :: _ => some (name.length + blankRun rest + 1)
    | _ => none
  | none => none

end PineCheck.Text
