/-!
# Decimal numbers

A decimal number is a sign, a natural number of digits and a power of ten. Reading one as
a binary64 float rounds it to the nearest float; a number too large for the format reads as
infinity and one too small as zero. The cut-offs are generous: a decimal with more than 310
digits before its point exceeds the largest float, and one whose first digit stands more
than 330 places after the point lies below half of the least one.
-/

namespace PineCheck.Decimal

/-- The number of decimal digits of a natural number, `1` for zero. -/
def digitCount (n : Nat) : Nat := (Nat.toDigits 10 n).length

/-- The float nearest to `± digits · 10 ^ exp10`. -/
def toFloat (negative : Bool) (digits : Nat) (exp10 : Int) : Float :=
  let magnitude : Float :=
    if digits = 0 then 0
    else if (digitCount digits : Int) + exp10 > 310 then 1 / 0
    else if (digitCount digits : Int) + exp10 < -330 then 0
    else if exp10 < 0 then Float.ofScientific digits true exp10.natAbs
    else Float.ofScientific digits false exp10.natAbs
  if negative then -magnitude else magnitude

/-- The value of a list of decimal digit characters. -/
def digitsValue (cs : List Char) : Nat :=
  cs.foldl (fun acc c => acc * 10 + (c.toNat - '0'.toNat)) 0

end PineCheck.Decimal
