import PineCheck.Decimal.Basic
/-!
# The shortest decimal of a float

A finite float `x = m · 2 ^ q` stands for every real number that rounds to it: the interval
around `x` reaching halfway to each neighbouring float, ends included when `m` is even. Its
shortest decimal is the decimal with the fewest significant digits in that interval, and of
two such the one nearer to `x` (an exact tie goes to the even last digit).

`shortest` finds it by trying 1, 2, … 17 significant digits: for each count it takes the
two multiples of the grid `10 ^ E` on either side of `x`, where `E` puts the first digit of
`x` in the first place, and stops at the first count where one of them lies in the interval.
All comparisons are exact, in natural numbers.

`FloatText` then writes the digits: positionally when the decimal point falls at most 16
places after the first digit and at most 4 places before it, in scientific notation
otherwise.
-/

namespace PineCheck.Decimal

/-- A finite float's sign, and its magnitude as `m · 2 ^ q`. -/
def decompose (x : Float) : Bool × Nat × Int :=
  let bits := x.toBits.toNat
  let expField : Nat := (bits / Nat.pow 2 52) % 2048
  let frac := bits % Nat.pow 2 52
  let negative := bits / Nat.pow 2 63 == 1
  if expField == 0 then (negative, frac, -1074)
  else (negative, frac + Nat.pow 2 52, (expField : Int) - 1075)

/-- Significant digits and the place of the decimal point: the number
`0.d₁d₂…dₙ · 10 ^ point`. -/
structure Digits where
  digits : List Nat
  point : Int
  deriving Repr, DecidableEq

/-- The scale of a positive `m · 2 ^ q`: the `L` with `10 ^ L ≤ m · 2 ^ q < 10 ^ (L + 1)`. -/
def leadingPower (m : Nat) (q : Int) : Int :=
  let num := m * Nat.pow 2 q.toNat
  let den := Nat.pow 2 (-q).toNat
  (digitCount (num * Nat.pow 10 400 / den) : Int) - 1 - 400

/-- The decimal digits of a natural number without its trailing zeros, and how many zeros
were dropped. -/
def stripZeros (n : Nat) : List Nat × Nat :=
  let ds := (Nat.toDigits 10 n).map fun c => c.toNat - '0'.toNat
  let kept := (ds.reverse.dropWhile (· == 0)).reverse
  (kept, ds.length - kept.length)

/-- The shortest decimal of a positive magnitude `m · 2 ^ q` whose interval reaches down to
`(4m - lowGap) · 2 ^ (q - 2)` and up to `(4m + 2) · 2 ^ (q - 2)`, trying `p` significant
digits and more, while `fuel` lasts. -/
def search (m : Nat) (q : Int) (lowGap : Nat) (closed : Bool) (lead : Int) :
    Nat → Nat → Option Digits
  | 0, _ => none
  | fuel + 1, p =>
    let e : Int := lead - p + 1
    -- a candidate `c · 10 ^ e` measures `c · scale / unit` in steps of `2 ^ (q - 2)`
    let scale := Nat.pow 10 e.toNat * Nat.pow 2 (2 - q).toNat
    let unit := Nat.pow 10 (-e).toNat * Nat.pow 2 (q - 2).toNat
    let inside (c : Nat) : Bool :=
      let here := c * scale
      let lowOk := if closed then (4 * m - lowGap) * unit ≤ here else (4 * m - lowGap) * unit < here
      let highOk := if closed then here ≤ (4 * m + 2) * unit else here < (4 * m + 2) * unit
      lowOk && highOk
    let below := 4 * m * unit / scale
    let above := below + 1
    -- distance of a candidate from `x`, in the common unit
    let gap (c : Nat) : Nat := if c * scale ≥ 4 * m * unit then c * scale - 4 * m * unit
      else 4 * m * unit - c * scale
    let pick : Option Nat :=
      match inside below, inside above with
      | true, true =>
        if gap below < gap above then some below
        else if gap above < gap below then some above
        else if below % 2 == 0 then some below else some above
      | true, false => some below
      | false, true => some above
      | false, false => none
    match pick with
    | some c =>
      let (ds, zeros) := stripZeros c
      some ⟨ds, (ds.length : Int) + zeros + e⟩
    | none => search m q lowGap closed lead fuel (p + 1)

/-- The shortest decimal of a finite positive float given as `m · 2 ^ q`. -/
def shortestOf (m : Nat) (q : Int) : Digits :=
  let lowGap := if m == Nat.pow 2 52 && q > -1074 then 1 else 2
  let closed := m % 2 == 0
  (search m q lowGap closed (leadingPower m q) 18 1).getD ⟨[0], 1⟩

/-- How a float is written. -/
structure FloatText where
  /-- The text of a NaN. -/
  nan : String
  /-- The text of positive infinity; negative infinity has a minus in front. -/
  infinity : String

/-- Scientific notation: `d.ddd` then `e`, the exponent's sign and at least two digits. -/
def scientific (ds : List Nat) (exp : Int) : String :=
  let body := match ds with
    | [] => "0"
    | [d] => toString d
    | d :: rest => toString d ++ "." ++ String.join (rest.map toString)
  let expDigits := toString exp.natAbs
  let expText := if expDigits.length < 2 then "0" ++ expDigits else expDigits
  body ++ "e" ++ (if exp < 0 then "-" else "+") ++ expText

/-- Positional notation, with `.0` after a whole number. -/
def positional (ds : List Nat) (point : Int) : String :=
  let digitText := String.join (ds.map toString)
  if point ≤ 0 then "0." ++ String.ofList (List.replicate point.natAbs '0') ++ digitText
  else
    let whole := point.toNat
    if ds.length ≤ whole then
      digitText ++ String.ofList (List.replicate (whole - ds.length) '0') ++ ".0"
    else
      String.join ((ds.take whole).map toString) ++ "." ++ String.join ((ds.drop whole).map toString)

/-- The text of a float: its shortest decimal, positional when `-4 < point ≤ 16`. -/
def FloatText.render (style : FloatText) (x : Float) : String :=
  if x.isNaN then style.nan
  else if x.isInf then (if x < 0 then "-" else "") ++ style.infinity
  else
    let (negative, m, q) := decompose x
    let sign := if negative then "-" else ""
    if m == 0 then sign ++ "0.0"
    else
      let d := shortestOf m q
      if -4 < d.point && d.point ≤ 16 then sign ++ positional d.digits d.point
      else sign ++ scientific d.digits (d.point - 1)

end PineCheck.Decimal
