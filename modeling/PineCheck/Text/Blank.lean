/-!
# Blank characters and trimming

Source text separates words by blank characters: the 29 characters that Unicode marks as
separators of words, lines or paragraphs (general category Zs, or bidirectional class WS,
B or S). Indentation is the run of blank characters that starts a line, and trimming a
text removes such runs at its ends.

Schema values use the narrower Unicode property White_Space (`isWhiteSpace`): the same
set without the four information separators U+001C to U+001F.
-/

namespace PineCheck.Text

/-- A blank character: a word, line or paragraph separator of Unicode. -/
def isBlank (c : Char) : Bool :=
  let n := c.toNat
  if n < 128 then n == 32 || (9 ≤ n && n ≤ 13) || (28 ≤ n && n ≤ 31)
  else n == 133 || n == 160 || n == 5760 || (8192 ≤ n && n ≤ 8202) || n == 8232 ||
    n == 8233 || n == 8239 || n == 8287 || n == 12288

/-- A character with the Unicode property White_Space. -/
def isWhiteSpace (c : Char) : Bool :=
  isBlank c && !(28 ≤ c.toNat && c.toNat ≤ 31)

/-- The text without its leading blank characters. -/
def dropBlank (cs : List Char) : List Char := cs.dropWhile isBlank

/-- The text without its trailing blank characters. -/
def dropBlankEnd (cs : List Char) : List Char := (cs.reverse.dropWhile isBlank).reverse

/-- The text without blank characters at either end. -/
def trimBlank (cs : List Char) : List Char := dropBlankEnd (dropBlank cs)

/-- Whether the text holds blank characters only (the empty text included). -/
def allBlank (cs : List Char) : Bool := cs.all isBlank

/-- The text without White_Space characters at either end. -/
def trimWhiteSpace (cs : List Char) : List Char :=
  ((cs.dropWhile isWhiteSpace).reverse.dropWhile isWhiteSpace).reverse

/-- The words of a text: its maximal runs of characters that are not blank, as splitting at
whitespace gives them. -/
def blankWords (cs : List Char) : List (List Char) :=
  let runs := cs.foldr (fun c (acc : List (List Char)) =>
    if isBlank c then
      match acc with
      | [] :: _ => acc
      | _ => [] :: acc
    else
      match acc with
      | w :: rest => (c :: w) :: rest
      | [] => [[c]]) []
  runs.filter (!·.isEmpty)

end PineCheck.Text
