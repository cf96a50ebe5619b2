import PineCheck.Value.Calendar
import PineCheck.Decimal.Shortest
/-!
# Structured values

The settings files, the manifests and the requests that this library reads carry
structured data: null, booleans, integers of any size, binary64 floats, texts, lists and
mappings, and (from YAML settings files only) byte strings, dates and times of day. A
mapping keeps its entries in the order they were first written, and writing a key again
replaces the value in place, so a mapping never holds one key twice.

Mapping keys are values themselves, since a settings file may use a number or a boolean as
a key. Two keys are the same when they are equal as data: `1`, `1.0` and `true` are one key.
Numbers are compared exactly, so a large integer and the float nearest to it are two keys.
-/

namespace PineCheck

/-- A structured value. -/
inductive Value where
  | null
  | bool (b : Bool)
  | int (n : Int)
  | float (x : Float)
  | str (s : String)
  | list (items : List Value)
  | object (entries : List (Value × Value))
  | bytes (data : List UInt8)
  | date (d : Date)
  | dateTime (t : DateTime)
  deriving Inhabited

namespace Value

/-- The number a value stands for, when it is a number or a boolean (0 or 1). -/
def number? : Value → Option (Sum Int Float)
  | .bool b => some (.inl (if b then 1 else 0))
  | .int n => some (.inl n)
  | .float x => some (.inr x)
  | _ => none

/-- How an integer compares with a finite float, exactly: the float is `±m · 2 ^ q`, and
both sides are scaled to integers. -/
def compareFinite (n : Int) (x : Float) : Ordering :=
  let (negative, m, q) := Decimal.decompose x
  let fx : Int := if negative then -(m : Int) else m
  if q ≥ 0 then compare n (fx * (Nat.pow 2 q.toNat : Nat))
  else compare (n * (Nat.pow 2 (-q).toNat : Nat)) fx

/-- How an integer compares with a float, exactly; nothing when the float is NaN. -/
def compareIntFloat (n : Int) (x : Float) : Option Ordering :=
  if x.isNaN then none
  else if x.isInf then some (if x > 0 then .lt else .gt)
  else some (compareFinite n x)

/-- How one number compares with another; nothing when either is NaN. -/
def compareNumbers : Sum Int Float → Sum Int Float → Option Ordering
  | .inl a, .inl b => some (compare a b)
  | .inl a, .inr y => compareIntFloat a y
  | .inr x, .inl b => (compareIntFloat b x).map Ordering.swap
  | .inr x, .inr y =>
    if x < y then some .lt else if x == y then some .eq else if y < x then some .gt else none

/-- Whether two mapping keys are the same key: equal texts, byte strings, dates or times,
equal numbers (booleans count as 0 and 1), or both null. -/
def sameKey : Value → Value → Bool
  | .str a, .str b => a == b
  | .null, .null => true
  | .bytes a, .bytes b => a == b
  | .date a, .date b => a == b
  | .dateTime a, .dateTime b => a.same b
  | a, b =>
    match a.number?, b.number? with
    | some x, some y => compareNumbers x y == some .eq
    | _, _ => false

/-- Write `key ↦ v` into a list of entries: in place when the key is there, else at the end. -/
def putEntry (key v : Value) : List (Value × Value) → List (Value × Value)
  | [] => [(key, v)]
  | (k, w) :: rest => if sameKey k key then (k, v) :: rest else (k, w) :: putEntry key v rest

/-- The keys of entries, when every key is a text. -/
def textKeys? (entries : List (Value × Value)) : Option (List String) :=
  entries.mapM fun e => match e.1 with
    | .str s => some s
    | _ => none

/-- Whether two neighbours of a list of texts are equal. -/
def hasEqualNeighbours : List String → Bool
  | a :: b :: rest => a == b || hasEqualNeighbours (b :: rest)
  | _ => false

/-- Whether the keys of entries are texts, no two of them equal: sorted, equal texts stand
side by side. -/
def distinctTextKeys (entries : List (Value × Value)) : Bool :=
  match textKeys? entries with
  | some keys => !hasEqualNeighbours (keys.mergeSort fun a b => !decide (b < a))
  | none => false

/-- The mapping that writing the given entries in order produces. When the keys are texts
and no two are equal, every entry lands at the end in turn, so the entries are the mapping
as they stand. -/
def ofEntries (entries : List (Value × Value)) : List (Value × Value) :=
  if distinctTextKeys entries then entries
  else entries.foldl (fun acc e => putEntry e.1 e.2 acc) []

/-- The value under a text key of a mapping. -/
def find? (entries : List (Value × Value)) (key : String) : Option Value :=
  match entries.find? (fun e => sameKey e.1 (.str key)) with
  | some e => some e.2
  | none => none

/-- The value under a text key, when the value is a mapping. -/
def field? (v : Value) (key : String) : Option Value :=
  match v with
  | .object entries => find? entries key
  | _ => none

/-- The name of the kind of a value, as the messages about values spell it. -/
def kindName : Value → String
  | .null => "NoneType"
  | .bool _ => "bool"
  | .int _ => "int"
  | .float _ => "float"
  | .str _ => "str"
  | .list _ => "list"
  | .object _ => "dict"
  | .bytes _ => "bytes"
  | .date _ => "datetime.date"
  | .dateTime _ => "datetime.datetime"

/-- Whether a value counts as false: null, false, zero, the empty text, list, mapping or
byte string. -/
def isFalsy : Value → Bool
  | .null => true
  | .bool b => !b
  | .int n => n == 0
  | .float x => x == 0
  | .str s => s.isEmpty
  | .list items => items.isEmpty
  | .object entries => entries.isEmpty
  | .bytes data => data.isEmpty
  | .date _ | .dateTime _ => false

end Value

end PineCheck
