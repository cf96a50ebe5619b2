import PineCheck.Value.Basic
import PineCheck.Text.Surrogate
/-!
# Ordering and joining values

Sorting a list of values compares them with `<`, which is defined between two texts (by code
points), two byte strings, two dates, two times of day (`PineCheck.Value.Calendar`) and two
numbers (integers, floats and booleans, by exact value); any other pair of kinds cannot be
compared, and sorting stops at the first such comparison with an error that
names the two kinds in the order compared.

Which pairs get compared matters for that error, so the sort is the one used for short lists
of up to 63 items: find the longest run at the front that is ascending (or strictly
descending, then reversed), then insert each later item by binary search, scanning
right of equal items so that the sort is stable.

Joining values with a separator needs every item to be a text; the error names the first
item that is not.
-/

namespace PineCheck.Value

/-- Whether one byte string comes before another, byte by byte, a prefix first. -/
def bytesLess : List UInt8 → List UInt8 → Bool
  | [], [] => false
  | [], _ :: _ => true
  | _ :: _, [] => false
  | a :: as, b :: bs => a < b || (a == b && bytesLess as bs)

/-- Whether `a < b`, or the error of comparing values of two kinds that have no order. A
date and a time of day have none either way round, and say so in their own words. -/
def less (a b : Value) : Except String Bool :=
  match a, b with
  | .str x, .str y => .ok (Text.textLess x y)
  | .bytes x, .bytes y => .ok (bytesLess x y)
  | .date x, .date y => .ok (x.before y)
  | .dateTime x, .dateTime y => x.before y
  | .dateTime _, .date _ | .date _, .dateTime _ =>
    .error "can't compare datetime.datetime to datetime.date"
  | _, _ =>
    match a.number?, b.number? with
    | some x, some y => .ok (compareNumbers x y == some .lt)
    | _, _ => .error s!"'<' not supported between instances of '{a.kindName}' and '{b.kindName}'"

/-- The length of the run at the front of a list: ascending (each item not less than the one
before), or strictly descending. Gives the length and whether it descends. -/
def frontRun (xs : List Value) : Except String (Nat × Bool) := do
  match xs with
  | a :: b :: rest =>
    let descending ← less b a
    let mut n := 2
    let mut prev := b
    for x in rest do
      let lt ← less x prev
      if lt != descending then break
      n := n + 1
      prev := x
    return (n, descending)
  | _ => return (xs.length, false)

/-- Where an item goes in a sorted prefix: after every item it is not less than, by binary
search over `[lo, hi)`. -/
def insertionPoint (sorted : Array Value) (pivot : Value) : Except String Nat := do
  let mut lo := 0
  let mut hi := sorted.size
  for _ in [0:sorted.size + 1] do
    if lo ≥ hi then break
    let mid := lo + (hi - lo) / 2
    if ← less pivot (sorted.getD mid .null) then hi := mid else lo := mid + 1
  return lo

/-- The texts of values, when every value is a text. -/
def texts? (xs : List Value) : Option (List String) :=
  xs.mapM fun x => match x with
    | .str s => some s
    | _ => none

/-- Sort values by `<`, stably, comparing them in the order the short-list sort does. Texts
always compare, so a list of texts is sorted at once by merging; any stable sort by the
same order gives the same list. -/
def sortValues (xs : List Value) : Except String (List Value) := do
  if xs.length < 2 then return xs
  if let some ts := texts? xs then
    return (ts.mergeSort fun a b => !Text.textLess b a).map Value.str
  let (n, descending) ← frontRun xs
  let run := xs.take n
  let mut sorted : Array Value := (if descending then run.reverse else run).toArray
  for pivot in xs.drop n do
    let place ← insertionPoint sorted pivot
    sorted := (sorted.toList.take place ++ pivot :: sorted.toList.drop place).toArray
  return sorted.toList

/-- Join texts with a separator, or the error naming the first item that is not a text. -/
def joinTexts (sep : String) (xs : List Value) : Except String String := do
  let mut parts : Array String := #[]
  for (x, i) in xs.zip (List.range xs.length) do
    match x with
    | .str s => parts := parts.push s
    | _ => throw s!"sequence item {i}: expected str instance, {x.kindName} found"
  return sep.intercalate parts.toList

end PineCheck.Value
