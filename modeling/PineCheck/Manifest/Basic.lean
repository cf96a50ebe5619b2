import PineCheck.Schema.Check
/-!
# Strategy manifests

A strategy ships a manifest (`manifest.json`) that says what it trades and how: its name,
version and description, the symbols and timeframes, the exchange time zone and session,
the order policy (limit entries only, with a marketable offset and a timeout in bars), the
risk policy (quantity type and value, pyramiding) and the backtest assumptions (commission
per contract and slippage).

`Manifest.check` reads a manifest from a value: every field is required, texts must not be
blank, the lists must not be empty, counts must be integral, and amounts are numbers. All
problems are reported, field by field in the order above. Keys are written in camelCase
(`orderPolicy`), and their snake_case names (`order_policy`) are accepted too.
-/

namespace PineCheck

/-- How orders are placed. -/
structure OrderPolicy where
  entryType : String
  marketableOffsetTicks : Int
  timeoutBars : Int

/-- How much is traded. -/
structure RiskPolicy where
  qtyType : String
  qtyValue : Number
  pyramiding : Int

/-- The costs a backtest assumes. -/
structure BacktestAssumptions where
  commissionPerContractCash : Number
  slippageTicks : Int

/-- A strategy manifest. -/
structure Manifest where
  name : String
  version : String
  description : String
  symbols : List String
  timeframes : List String
  timezone : String
  session : String
  orderPolicy : OrderPolicy
  risk : RiskPolicy
  backtestAssumptions : BacktestAssumptions

/-- Check an order policy. -/
def OrderPolicy.check : Value → Checked OrderPolicy :=
  checkRecord "OrderPolicy" fun e =>
    let entryType := requiredField e "entry_type" "entryType" (checkLiteral "limit")
    let offset := requiredField e "marketable_offset_ticks" "marketableOffsetTicks" checkIntegral
    let timeout := requiredField e "timeout_bars" "timeoutBars" checkIntegral
    match entryType, offset, timeout with
    | .ok a, .ok b, .ok c => .ok ⟨a, b, c⟩
    | a, b, c => .error (a.errors ++ b.errors ++ c.errors)

/-- Check a risk policy. -/
def RiskPolicy.check : Value → Checked RiskPolicy :=
  checkRecord "RiskPolicy" fun e =>
    let qtyType := requiredField e "qty_type" "qtyType" checkNonEmptyText
    let qtyValue := requiredField e "qty_value" "qtyValue" checkNumber
    let pyramiding := requiredField e "pyramiding" "pyramiding" checkIntegral
    match qtyType, qtyValue, pyramiding with
    | .ok a, .ok b, .ok c => .ok ⟨a, b, c⟩
    | a, b, c => .error (a.errors ++ b.errors ++ c.errors)

/-- Check backtest assumptions. -/
def BacktestAssumptions.check : Value → Checked BacktestAssumptions :=
  checkRecord "BacktestAssumptions" fun e =>
    let commission := requiredField e "commission_per_contract_cash" "commissionPerContractCash"
      checkNumber
    let slippage := requiredField e "slippage_ticks" "slippageTicks" checkIntegral
    match commission, slippage with
    | .ok a, .ok b => .ok ⟨a, b⟩
    | a, b => .error (a.errors ++ b.errors)

/-- Check a manifest. -/
def Manifest.check : Value → Checked Manifest :=
  checkRecord "StrategyManifest" fun e =>
    let name := requiredField e "name" "name" checkNonEmptyText
    let version := requiredField e "version" "version" checkNonEmptyText
    let description := requiredField e "description" "description" checkNonEmptyText
    let symbols := requiredField e "symbols" "symbols" checkNonEmptyTexts
    let timeframes := requiredField e "timeframes" "timeframes" checkNonEmptyTexts
    let timezone := requiredField e "timezone" "timezone" checkNonEmptyText
    let session := requiredField e "session" "session" checkNonEmptyText
    let orderPolicy := requiredField e "order_policy" "orderPolicy" OrderPolicy.check
    let risk := requiredField e "risk" "risk" RiskPolicy.check
    let backtest := requiredField e "backtest_assumptions" "backtestAssumptions"
      BacktestAssumptions.check
    match name, version, description, symbols, timeframes, timezone, session, orderPolicy, risk,
      backtest with
    | .ok a, .ok b, .ok c, .ok d, .ok f, .ok g, .ok h, .ok i, .ok j, .ok k =>
      .ok ⟨a, b, c, d, f, g, h, i, j, k⟩
    | a, b, c, d, f, g, h, i, j, k =>
      .error (a.errors ++ b.errors ++ c.errors ++ d.errors ++ f.errors ++ g.errors ++ h.errors ++
        i.errors ++ j.errors ++ k.errors)

/-- The problems of a manifest value, one line each: the path to the field, joined by dots,
and the message. A value that is not a mapping is one problem. -/
def manifestProblems (v : Value) : List String :=
  match v with
  | .object _ =>
    (Manifest.check v).errors.map fun err =>
      let loc := ".".intercalate (err.loc.map LocPart.text)
      (if loc.isEmpty then "manifest" else loc) ++ ": " ++ err.kind.message
  | _ => ["manifest must be a JSON object"]

/-- A manifest as a value, keys in camelCase, in declared order. -/
def Manifest.toValue (m : Manifest) : Value :=
  let str (s : String) : Value := .str s
  .object [
    (str "name", str m.name), (str "version", str m.version),
    (str "description", str m.description), (str "symbols", .list (m.symbols.map str)),
    (str "timeframes", .list (m.timeframes.map str)), (str "timezone", str m.timezone),
    (str "session", str m.session),
    (str "orderPolicy", .object [(str "entryType", str m.orderPolicy.entryType),
      (str "marketableOffsetTicks", .int m.orderPolicy.marketableOffsetTicks),
      (str "timeoutBars", .int m.orderPolicy.timeoutBars)]),
    (str "risk", .object [(str "qtyType", str m.risk.qtyType),
      (str "qtyValue", m.risk.qtyValue.toValue), (str "pyramiding", .int m.risk.pyramiding)]),
    (str "backtestAssumptions", .object [
      (str "commissionPerContractCash", m.backtestAssumptions.commissionPerContractCash.toValue),
      (str "slippageTicks", .int m.backtestAssumptions.slippageTicks)])]

end PineCheck
