import PineCheck.Text.CaseTables
/-!
# Lower case

Lower case maps each character through the full lower-case mapping of the Unicode
Character Database (version 14.0.0). Every mapping is one character but one: the capital I
with dot above becomes a small i followed by a combining dot above. The capital sigma
takes its final form when it ends a word: a cased character stands before it and none
after it, looking past case-ignorable characters on both sides.
-/

namespace PineCheck.Text

/-- Whether `n` lies in one of the closed ranges. -/
def inClosedRanges (table : Array (Nat × Nat)) (n : Nat) : Bool :=
  table.any fun (lo, hi) => lo ≤ n && n ≤ hi

/-- The code point of the lower case of a character with a one-character lower case, or
the code point itself. ASCII is answered at once: its capitals are the first run. -/
def lowerCode (n : Nat) : Nat :=
  if n < 128 then (if 65 ≤ n && n ≤ 90 then n + 32 else n)
  else
    let inRun := fun ((lo, hi, stride, _) : Nat × Nat × Nat × Nat) =>
      lo ≤ n && n ≤ hi && (n - lo) % stride == 0
    match lowerRuns.find? inRun with
    | some (lo, _, _, target) => target + (n - lo)
    | none => n

/-- Whether a character is case ignorable. -/
def isCaseIgnorable (c : Char) : Bool := inClosedRanges caseIgnorableRanges c.toNat

/-- Whether a character that is not case ignorable is cased. -/
def isCased (c : Char) : Bool := inClosedRanges casedRanges c.toNat

/-- The lower case of a character, which is two characters for the capital I with dot
above. The capital sigma maps to the small sigma here; `lowerText` picks its final form. -/
def lowerChar (c : Char) : List Char :=
  if c.toNat == 0x130 then ['i', Char.ofNat 0x307] else [Char.ofNat (lowerCode c.toNat)]

/-- Whether a capital sigma ends a word, given the characters before it (nearest first)
and the characters after it: past the case-ignorable ones, a cased character comes first
on the left, and no cased character comes first on the right. -/
def endsWord (before after : List Char) : Bool :=
  (match before.dropWhile isCaseIgnorable with
   | c :: _ => isCased c
   | [] => false) &&
  (match after.dropWhile isCaseIgnorable with
   | c :: _ => !isCased c
   | [] => true)

/-- The lower case of the characters `rest`, with `before` the characters before them
(nearest first) and `acc` the lower case so far, reversed. -/
def lowerFrom (before acc : List Char) : List Char → List Char
  | [] => acc.reverse
  | c :: rest =>
    let here :=
      if c.toNat == 0x3A3 then [if endsWord before rest then 'ς' else 'σ'] else lowerChar c
    lowerFrom (c :: before) (here.reverse ++ acc) rest

/-- The lower case of a text. -/
def lowerText (cs : List Char) : List Char := lowerFrom [] [] cs

end PineCheck.Text
