import PineCheck.Manifest.Basic
import PineCheck.Workspace.Text
import PineCheck.Value.Json.Encode
import PineCheck.Source.Line
/-!
# Strategy scaffolds

A new strategy gets a directory `strategies/<name>/` with three files, written in this
order: a Pine Script v6 strategy that places limit entries and cancels them after a
timeout (`strategy.pine`), a manifest that passes `Manifest.check` (`manifest.json`) and a
README with a staging checklist (`README.md`).

A strategy name is lowercase ASCII letters, digits and hyphens, at least one of them,
optionally followed by one line feed. Its title capitalises each hyphen-separated part and
joins the parts by blanks. An existing file is only replaced when `force` is set; a refusal
leaves the files written before it in place.
-/

namespace PineCheck

/-- A character allowed in a strategy name. -/
def isNameChar (c : Char) : Bool := ('a' ≤ c && c ≤ 'z') || c.isDigit || c == '-'

/-- Whether a text is a strategy name: name characters, at least one, then optionally one
line feed. -/
def isStrategyName (name : String) : Bool :=
  let cs := name.toList
  let body := if cs.getLast? == some '\n' then cs.dropLast else cs
  !body.isEmpty && body.all isNameChar

/-- A word with its first character upper case and the others lower case. -/
def capitalize : List Char → List Char
  | [] => []
  | c :: rest => c.toUpper :: rest.map Char.toLower

/-- The title of a strategy: its hyphen-separated parts capitalised, joined by blanks. -/
def strategyTitle (name : String) : String :=
  String.ofList
    (List.intercalate [' '] (((splitAt '-' name.toList).filter (!·.isEmpty)).map capitalize))

/-- The declaration line of a new strategy, the one line that its title goes into. -/
def strategyDeclaration (title : String) : String :=
  "strategy(\"" ++ title ++
    " v6\", overlay=true, pyramiding=0, process_orders_on_close=true, calc_on_every_tick=false)\n"

/-- The lines of a new strategy after its declaration, the same for every strategy. -/
def strategyBody : String :=
  "\n" ++
  "// Pane lock keeps the script anchored without visible plots\n" ++
  "plot(close, title=\"__pane_lock__\", display=display.none)\n" ++
  "\n" ++
  "// === Inputs ===\n" ++
  "sessionInput = input.session(\"0930-1600\", \"Session (exchange hours)\")\n" ++
  "useLong = input.bool(true, \"Enable Longs\")\n" ++
  "useShort = input.bool(true, \"Enable Shorts\")\n" ++
  "limitOffsetTicks = input.int(5, \"Limit offset (ticks)\", minval=1)\n" ++
  "cancelAfterBars = input.int(3, \"Cancel limit after (bars)\", minval=1)\n" ++
  "maxTradesPerDay = input.int(3, \"Max trades per day\", minval=1)\n" ++
  "\n" ++
  "// === Session + signals ===\n" ++
  "inSession = not na(time(timeframe.period, sessionInput, \"America/New_York\"))\n" ++
  "maFast = ta.sma(close, 10)\n" ++
  "maSlow = ta.sma(close, 30)\n" ++
  "longSignal = inSession and ta.crossover(maFast, maSlow)\n" ++
  "shortSignal = inSession and ta.crossunder(maFast, maSlow)\n" ++
  "\n" ++
  "// === Trade counters ===\n" ++
  "var int tradesToday = 0\n" ++
  "var int lastDay = na\n" ++
  "currentDay = dayofmonth(time(\"D\"))\n" ++
  "if barstate.isconfirmed and (na(lastDay) or currentDay != lastDay)\n" ++
  "    tradesToday := 0\n" ++
  "    lastDay := currentDay\n" ++
  "\n" ++
  "// === Pending order tracking ===\n" ++
  "var int longPlacedBar = na\n" ++
  "var int shortPlacedBar = na\n" ++
  "longLimitPrice = close - limitOffsetTicks * syminfo.mintick\n" ++
  "shortLimitPrice = close + limitOffsetTicks * syminfo.mintick\n" ++
  "canTrade = barstate.isconfirmed and tradesToday < maxTradesPerDay\n" ++
  "canLong = canTrade and useLong and na(longPlacedBar)\n" ++
  "canShort = canTrade and useShort and na(shortPlacedBar)\n" ++
  "\n" ++
  "if canLong and longSignal and strategy.position_size <= 0\n" ++
  "    strategy.entry(\"L\", strategy.long, limit=longLimitPrice, comment=\"limit long\")\n" ++
  "    longPlacedBar := bar_index\n" ++
  "\n" ++
  "if canShort and shortSignal and strategy.position_size >= 0\n" ++
  "    strategy.entry(\"S\", strategy.short, limit=shortLimitPrice, comment=\"limit short\")\n" ++
  "    shortPlacedBar := bar_index\n" ++
  "\n" ++
  "// Cancel unfilled orders after the timeout window\n" ++
  "longExpired = not na(longPlacedBar) and bar_index - longPlacedBar >= cancelAfterBars\n" ++
  "shortExpired = not na(shortPlacedBar) and bar_index - shortPlacedBar >= cancelAfterBars\n" ++
  "if longExpired and strategy.position_size <= 0\n" ++
  "    strategy.cancel(\"L\")\n" ++
  "    longPlacedBar := na\n" ++
  "if shortExpired and strategy.position_size >= 0\n" ++
  "    strategy.cancel(\"S\")\n" ++
  "    shortPlacedBar := na\n" ++
  "\n" ++
  "// Reset pending markers once a position is filled\n" ++
  "if strategy.position_size != 0\n" ++
  "    longPlacedBar := na\n" ++
  "    shortPlacedBar := na\n" ++
  "\n" ++
  "// Count fills to enforce the per-day limit\n" ++
  "if barstate.isconfirmed and strategy.position_size != 0 and strategy.position_size[1] == 0\n" ++
  "    tradesToday += 1\n" ++
  "\n" ++
  "// === Visuals ===\n" ++
  "plot(maFast, color=color.new(color.green, 0), title=\"MA Fast\")\n" ++
  "plot(maSlow, color=color.new(color.orange, 0), title=\"MA Slow\")\n"

/-- The Pine Script source of a new strategy. -/
def strategyTemplate (name : String) : String :=
  "//@version=6\n" ++ strategyDeclaration (strategyTitle name) ++ strategyBody

/-- The manifest of a new strategy. -/
def manifestTemplate (name : String) : Manifest :=
  { name := name
    version := "0.1.0"
    description := name ++ " strategy scaffold"
    symbols := ["ES1!"]
    timeframes := ["5"]
    timezone := "America/New_York"
    session := "0930-1600"
    orderPolicy := ⟨"limit", 5, 3⟩
    risk := ⟨"contracts", .int 1, 0⟩
    backtestAssumptions := ⟨.float 2.5, 1⟩ }

/-- The text of a new strategy's manifest file: indented JSON and a final line feed. -/
def manifestText (name : String) : String :=
  Json.encode .indented (manifestTemplate name).toValue ++ "\n"

/-- The README of a new strategy. -/
def readmeTemplate (name : String) : String :=
    "# " ++
  strategyTitle name ++
    "\n" ++
  "\n" ++
  "Generated Pine Script v6 strategy scaffold. The file `strategy.pine` is copy/paste-ready for TradingView and includes limit-order-first logic with cancel/timeout guardrails.\n" ++
  "\n" ++
  "## Staging checklist\n" ++
  "- [ ] Confirm `manifest.json` values (symbols, timeframes, session, risk) match your test plan.\n" ++
  "- [ ] Paper trade with the defaults and record screenshots of fills and cancels.\n" ++
  "- [ ] Verify limit orders and timeout behavior in the TradingView strategy tester.\n" ++
  "- [ ] Note any broker/session quirks discovered during staging.\n" ++
  "\n" ++
  "## What to tweak first\n" ++
  "- Update entry signals in `strategy.pine`.\n" ++
  "- Adjust `orderPolicy` values in `manifest.json` to fit your instrument.\n" ++
  "- Run `pinelint lint \"strategies/**/*.pine\"` and `pinelint manifests` before committing changes.\n"

/-- Why a strategy was not created. -/
inductive ScaffoldError where
  /-- The name is no strategy name. -/
  | invalidName
  /-- A file is there already and `force` is not set. -/
  | refusing (path : String)
  /-- The tree refused an operation. -/
  | os (e : OsError)
  deriving Repr

/-- The message of a refusal. -/
def ScaffoldError.message : ScaffoldError → String
  | .invalidName =>
    "Invalid strategy name. Use lowercase letters, numbers, and hyphens only (e.g., es-orb-gap)."
  | .refusing path => "Refusing to overwrite existing file: " ++ path
  | .os e => e.message

/-- The directory of a strategy below a project directory. -/
def strategyDir (root : RelPath) (name : String) : RelPath := root ++ ["strategies", name]

/-- The files of a new strategy, in the order they are written. -/
def strategyFiles (name : String) : List (String × String) :=
  [("strategy.pine", strategyTemplate name), ("manifest.json", manifestText name),
    ("README.md", readmeTemplate name)]

/-- Write files into a directory in order; an existing file stops the writing unless
`force` is set. -/
def writeFiles (dir : RelPath) (force : Bool) :
    Workspace → List (String × String) → Workspace × Except ScaffoldError Unit
  | w, [] => (w, .ok ())
  | w, (file, content) :: rest =>
    let target := dir ++ [file]
    if w.hasEntry target && !force then (w, .error (.refusing target.render))
    else
      match w.writeText target content with
      | .ok w' => writeFiles dir force w' rest
      | .error e => (w, .error (.os e))

/-- Create a strategy in a project directory: the tree afterwards, and the strategy's
directory or why it was not created. -/
def createStrategy (w : Workspace) (root : RelPath) (name : String) (force : Bool) :
    Workspace × Except ScaffoldError RelPath :=
  if !isStrategyName name then (w, .error .invalidName)
  else
    let dir := strategyDir root name
    match w.makeDirs dir with
    | .error e => (w, .error (.os e))
    | .ok w' =>
      match writeFiles dir force w' (strategyFiles name) with
      | (w'', .ok ()) => (w'', .ok dir)
      | (w'', .error e) => (w'', .error e)

end PineCheck
