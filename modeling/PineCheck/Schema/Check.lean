import PineCheck.Schema.Error
import PineCheck.Text.Blank
import PineCheck.Decimal.Shortest
import PineCheck.Text.Surrogate
/-!
# Checking values against a record schema

A check of a value either gives the typed value or the list of everything wrong with it.
Records are checked field by field, in their declared order, and the errors of all fields
are reported together. A field is looked up by its camelCase alias first and then by its
name; an error is located under the key the value was found by, and a missing field under
its alias.

The value checks used by record schemas:

* a strict non-empty text: a text, White_Space trimmed at both ends, at least one character
  long after trimming;
* a list of such texts with at least one item; each item is checked and located by index;
* one fixed text;
* a text holding a lone surrogate is no valid text for the first and the third: it is
  refused before its content is looked at;
* an integral number: an integer, or a float with no fractional part, but never a boolean;
* a number: an integer (not a boolean) or a float.
-/

namespace PineCheck

/-- The result of checking a value: the typed value or every error found. -/
abbrev Checked (α : Type) := Except (List SchemaError) α

/-- The errors of a check, none when it passed. -/
def Checked.errors : Checked α → List SchemaError
  | .error es => es
  | .ok _ => []

/-- A single error at the value itself. -/
def Checked.fail (kind : ErrorKind) (v : Value) : Checked α := .error [⟨[], kind, v⟩]

/-- The errors of a check, moved one step deeper. -/
def Checked.under (part : LocPart) : Checked α → Checked α
  | .error es => .error (es.map (SchemaError.under part))
  | .ok a => .ok a

/-- A number as a schema holds it. -/
inductive Number where
  | int (n : Int)
  | float (x : Float)
  deriving Inhabited

/-- A number as a value. -/
def Number.toValue : Number → Value
  | .int n => .int n
  | .float x => .float x

/-- The key a field is found by, and its value: the alias first, then the name. -/
def lookupField (entries : List (Value × Value)) (name altName : String) : Option (String × Value) :=
  match Value.find? entries altName with
  | some v => some (altName, v)
  | none =>
    match Value.find? entries name with
    | some v => some (name, v)
    | none => none

/-- A required field of a record, checked. -/
def requiredField (entries : List (Value × Value)) (name altName : String)
    (check : Value → Checked α) : Checked α :=
  match lookupField entries name altName with
  | some (key, v) => (check v).under (.key key)
  | none => .error [⟨[.key altName], .missing, .object entries⟩]

/-- A record of the named kind: a mapping, whose entries are checked. -/
def checkRecord (kind : String) (check : List (Value × Value) → Checked α) (v : Value) :
    Checked α :=
  match v with
  | .object entries => check entries
  | _ => Checked.fail (.modelType kind) v

/-- A strict text that is not empty once trimmed; the trimmed text. -/
def checkNonEmptyText (v : Value) : Checked String :=
  match v with
  | .str s =>
    let t := Text.trimWhiteSpace s.toList
    if Text.hasSurrogate s then Checked.fail .stringUnicode v
    else if t.isEmpty then Checked.fail (.stringTooShort 1) v else .ok (String.ofList t)
  | _ => Checked.fail .stringType v

/-- The items of a list, each checked and located by its index from `i` on. -/
def checkItems (check : Value → Checked α) (i : Nat) : List Value → Checked (List α)
  | [] => .ok []
  | v :: rest =>
    match (check v).under (.index i), checkItems check (i + 1) rest with
    | .ok a, .ok as => .ok (a :: as)
    | r, rs => .error (r.errors ++ rs.errors)

/-- A list of non-empty texts with at least one item. -/
def checkNonEmptyTexts (v : Value) : Checked (List String) :=
  match v with
  | .list items =>
    match checkItems checkNonEmptyText 0 items with
    | .ok [] => Checked.fail (.listTooShort 1 0) v
    | r => r
  | _ => Checked.fail .listType v

/-- Exactly the given text. -/
def checkLiteral (expected : String) (v : Value) : Checked String :=
  match v with
  | .str s =>
    if Text.hasSurrogate s then Checked.fail .stringUnicode v
    else if s == expected then .ok s else Checked.fail (.literalError expected) v
  | _ => Checked.fail (.literalError expected) v

/-- An integer, or a float with no fractional part; never a boolean. -/
def checkIntegral (v : Value) : Checked Int :=
  let refuse : Checked Int := Checked.fail (.valueError "must be an integer") v
  match v with
  | .int n => .ok n
  | .float x =>
    if x.isNaN || x.isInf || x.floor != x then refuse
    else
      let (negative, m, q) := Decimal.decompose x
      let n : Int := if q ≥ 0 then m * Nat.pow 2 q.toNat else m / Nat.pow 2 (-q).toNat
      .ok (if negative then -n else n)
  | _ => refuse

/-- An integer (not a boolean) or a float: each kind of number is tried, and both errors are
reported when neither fits. -/
def checkNumber (v : Value) : Checked Number :=
  match v with
  | .int n => .ok (.int n)
  | .float x => .ok (.float x)
  | _ => .error [⟨[.key "int"], .intType, v⟩, ⟨[.key "float"], .floatType, v⟩]

end PineCheck
