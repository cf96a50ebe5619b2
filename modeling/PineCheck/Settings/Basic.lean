import PineCheck.Schema.Coerce
/-!
# Lint settings

Twelve settings tune the rules. Each has a name and a camelCase alias (`max_inputs`,
`maxInputs`); the counts have a least value. A set of overrides is a sequence of key and
value pairs: a key that names no setting is ignored, and of two keys for the same setting
the later wins. `Settings.merge` writes the overrides over the current settings and then
checks every setting, in the order they are declared here, reporting each one that fails.
-/

namespace PineCheck

/-- The settings. -/
inductive Field where
  | version
  | disallowLookahead
  | requireLimitOrders
  | maxInputs
  | maxRequestSecurity
  | maxLineLength
  | oneInputPerLine
  | disallowTabs
  | strictIndent
  | disallowEveryTick
  | indentUnit
  | entryGuardWindow
  deriving DecidableEq, Repr

namespace Field

/-- Every setting, in declared order. -/
def all : List Field :=
  [.version, .disallowLookahead, .requireLimitOrders, .maxInputs, .maxRequestSecurity,
    .maxLineLength, .oneInputPerLine, .disallowTabs, .strictIndent, .disallowEveryTick,
    .indentUnit, .entryGuardWindow]

/-- The name of a setting. -/
def name : Field → String
  | .version => "version"
  | .disallowLookahead => "disallow_lookahead"
  | .requireLimitOrders => "require_limit_orders"
  | .maxInputs => "max_inputs"
  | .maxRequestSecurity => "max_request_security"
  | .maxLineLength => "max_line_length"
  | .oneInputPerLine => "one_input_per_line"
  | .disallowTabs => "disallow_tabs"
  | .strictIndent => "strict_indent"
  | .disallowEveryTick => "disallow_every_tick"
  | .indentUnit => "indent_unit"
  | .entryGuardWindow => "entry_guard_window"

/-- The camelCase alias of a setting. -/
def camelName : Field → String
  | .version => "version"
  | .disallowLookahead => "disallowLookahead"
  | .requireLimitOrders => "requireLimitOrders"
  | .maxInputs => "maxInputs"
  | .maxRequestSecurity => "maxRequestSecurity"
  | .maxLineLength => "maxLineLength"
  | .oneInputPerLine => "oneInputPerLine"
  | .disallowTabs => "disallowTabs"
  | .strictIndent => "strictIndent"
  | .disallowEveryTick => "disallowEveryTick"
  | .indentUnit => "indentUnit"
  | .entryGuardWindow => "entryGuardWindow"

/-- The setting a key names, by name or alias. -/
def ofKey? (key : Value) : Option Field :=
  match key with
  | .str k => all.find? fun f => f.name == k || f.camelName == k
  | _ => none

/-- The least value of a count; `none` for a flag. -/
def least? : Field → Option Nat
  | .version => some 1
  | .maxInputs => some 0
  | .maxRequestSecurity => some 0
  | .maxLineLength => some 1
  | .indentUnit => some 1
  | .entryGuardWindow => some 0
  | _ => none

end Field

/-- A failure that is not a reading problem: the kind of the failure and its message. -/
structure Uncaught where
  kind : String
  message : String
  deriving Repr

/-- The settings of a lint run. -/
structure Settings where
  version : Nat
  disallowLookahead : Bool
  requireLimitOrders : Bool
  maxInputs : Nat
  maxRequestSecurity : Nat
  maxLineLength : Nat
  oneInputPerLine : Bool
  disallowTabs : Bool
  strictIndent : Bool
  disallowEveryTick : Bool
  indentUnit : Nat
  entryGuardWindow : Nat
  version_pos : 0 < version
  maxLineLength_pos : 0 < maxLineLength
  indentUnit_pos : 0 < indentUnit

namespace Settings

/-- The settings when nothing is overridden. -/
def default : Settings :=
  { version := 6
    disallowLookahead := true
    requireLimitOrders := true
    maxInputs := 40
    maxRequestSecurity := 20
    maxLineLength := 120
    oneInputPerLine := true
    disallowTabs := true
    strictIndent := false
    disallowEveryTick := false
    indentUnit := 4
    entryGuardWindow := 3
    version_pos := by decide
    maxLineLength_pos := by decide
    indentUnit_pos := by decide }

/-- The value of one setting. -/
def get (s : Settings) : Field → Value
  | .version => .int s.version
  | .disallowLookahead => .bool s.disallowLookahead
  | .requireLimitOrders => .bool s.requireLimitOrders
  | .maxInputs => .int s.maxInputs
  | .maxRequestSecurity => .int s.maxRequestSecurity
  | .maxLineLength => .int s.maxLineLength
  | .oneInputPerLine => .bool s.oneInputPerLine
  | .disallowTabs => .bool s.disallowTabs
  | .strictIndent => .bool s.strictIndent
  | .disallowEveryTick => .bool s.disallowEveryTick
  | .indentUnit => .int s.indentUnit
  | .entryGuardWindow => .int s.entryGuardWindow

/-- Whether two settings agree on every field. -/
def same (a b : Settings) : Bool :=
  a.version == b.version && a.disallowLookahead == b.disallowLookahead &&
    a.requireLimitOrders == b.requireLimitOrders && a.maxInputs == b.maxInputs &&
    a.maxRequestSecurity == b.maxRequestSecurity && a.maxLineLength == b.maxLineLength &&
    a.oneInputPerLine == b.oneInputPerLine && a.disallowTabs == b.disallowTabs &&
    a.strictIndent == b.strictIndent && a.disallowEveryTick == b.disallowEveryTick &&
    a.indentUnit == b.indentUnit && a.entryGuardWindow == b.entryGuardWindow

/-- The value an override sequence leaves for a setting: the last one given for it. -/
def overrideOf (overrides : List (Value × Value)) (f : Field) : Option Value :=
  overrides.foldl (fun found kv => if Field.ofKey? kv.1 == some f then some kv.2 else found) none

/-- The values to check: each setting's override, or its current value. -/
def written (s : Settings) (overrides : List (Value × Value)) (f : Field) : Value :=
  (overrideOf overrides f).getD (s.get f)

/-- A count read leniently and held to its least value. -/
def checkCount (f : Field) (least : Nat) (v : Value) : Except SchemaError { n : Nat // least ≤ n } :=
  match Coerce.toInt v with
  | .error k => .error ⟨[.key f.name], k, v⟩
  | .ok n =>
    if h : n < least then .error ⟨[.key f.name], .greaterThanEqual least, v⟩
    else .ok ⟨n.toNat, by omega⟩

/-- A flag read leniently. -/
def checkFlag (f : Field) (v : Value) : Except SchemaError Bool :=
  match Coerce.toBool v with
  | .error k => .error ⟨[.key f.name], k, v⟩
  | .ok b => .ok b

/-- The error of a check, if it failed. -/
def failure? : Except SchemaError α → List SchemaError
  | .error e => [e]
  | .ok _ => []

/-- A check's value, or a stand-in when it failed. -/
def valueOr (fallback : α) : Except SchemaError α → α
  | .ok a => a
  | .error _ => fallback

/-- Check all settings given by `raw`: the settings, or every failure in declared order. -/
def ofRaw (raw : Field → Value) : Except (List SchemaError) Settings :=
  let version := checkCount .version 1 (raw .version)
  let disallowLookahead := checkFlag .disallowLookahead (raw .disallowLookahead)
  let requireLimitOrders := checkFlag .requireLimitOrders (raw .requireLimitOrders)
  let maxInputs := checkCount .maxInputs 0 (raw .maxInputs)
  let maxRequestSecurity := checkCount .maxRequestSecurity 0 (raw .maxRequestSecurity)
  let maxLineLength := checkCount .maxLineLength 1 (raw .maxLineLength)
  let oneInputPerLine := checkFlag .oneInputPerLine (raw .oneInputPerLine)
  let disallowTabs := checkFlag .disallowTabs (raw .disallowTabs)
  let strictIndent := checkFlag .strictIndent (raw .strictIndent)
  let disallowEveryTick := checkFlag .disallowEveryTick (raw .disallowEveryTick)
  let indentUnit := checkCount .indentUnit 1 (raw .indentUnit)
  let entryGuardWindow := checkCount .entryGuardWindow 0 (raw .entryGuardWindow)
  let failures := failure? version ++ failure? disallowLookahead ++ failure? requireLimitOrders ++
    failure? maxInputs ++ failure? maxRequestSecurity ++ failure? maxLineLength ++
    failure? oneInputPerLine ++ failure? disallowTabs ++ failure? strictIndent ++
    failure? disallowEveryTick ++ failure? indentUnit ++ failure? entryGuardWindow
  if !failures.isEmpty then .error failures
  else
    let v := valueOr ⟨1, Nat.le_refl 1⟩ version
    let l := valueOr ⟨1, Nat.le_refl 1⟩ maxLineLength
    let u := valueOr ⟨1, Nat.le_refl 1⟩ indentUnit
    .ok { version := v.1
          disallowLookahead := valueOr true disallowLookahead
          requireLimitOrders := valueOr true requireLimitOrders
          maxInputs := (valueOr ⟨0, Nat.le_refl 0⟩ maxInputs).1
          maxRequestSecurity := (valueOr ⟨0, Nat.le_refl 0⟩ maxRequestSecurity).1
          maxLineLength := l.1
          oneInputPerLine := valueOr true oneInputPerLine
          disallowTabs := valueOr true disallowTabs
          strictIndent := valueOr false strictIndent
          disallowEveryTick := valueOr false disallowEveryTick
          indentUnit := u.1
          entryGuardWindow := (valueOr ⟨0, Nat.le_refl 0⟩ entryGuardWindow).1
          version_pos := v.2
          maxLineLength_pos := l.2
          indentUnit_pos := u.2 }

/-- The settings with a sequence of overrides written over them and checked. -/
def merge (s : Settings) (overrides : List (Value × Value)) : Except (List SchemaError) Settings :=
  ofRaw (s.written overrides)

/-- The keys of an override sequence that name no setting. -/
def unknownKeys (overrides : List (Value × Value)) : List Value :=
  (overrides.filter fun kv => (Field.ofKey? kv.1).isNone).map (·.1)

/-- The settings as a mapping from names to values, in declared order. -/
def toEntries (s : Settings) : List (Value × Value) :=
  Field.all.map fun f => (.str f.name, s.get f)

end Settings

end PineCheck
