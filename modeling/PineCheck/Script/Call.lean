import PineCheck.Text.Scan
/-!
# Calls and arguments in Pine Script code

The rules look for calls of a few functions, by name, with blanks allowed before the `(`.
A call's name must not continue a longer name, so the character before it is neither a
word character nor a dot:

* inputs: `input(` and `input.<kind>(`;
* external data: `request.security(` and `request.security_lower_tf(`;
* order entries: `strategy.entry(` and `strategy.order(`;
* order cancels: `strategy.cancel(`, `strategy.cancel_all(`, `strategy.close(` and
  `strategy.close_all(`;
* plots: `plot(`, `plotshape(`, `plotchar(`, `plotarrow(`, `plotbar(`, `plotcandle(`,
  `hline(`, `fill(`, `bgcolor(` and `barcolor(`.

Inside a call's arguments they look for keyword arguments (`lookahead=`, `limit=`) as whole
words. A probe's length reaches to the call's `(`.
-/

namespace PineCheck.Script

open Text

/-- A probe for a call pattern that must not continue a longer name. -/
def freeCall (recognise : List Char → Option Nat) : Probe := fun prev cs =>
  if freeBefore prev then recognise cs else none

/-- An input call: `input` with an optional `.kind`, then `(`. -/
def inputCall : Probe := freeCall fun cs =>
  match afterPrefix "input".toList cs with
  | some rest =>
    let dotted := match rest with
      | '.' :: r =>
        let w := (r.takeWhile isWord).length
        if w > 0 then (openParenLength (r.drop w)).map (6 + w + ·) else none
      | _ => none
    match dotted with
    | some n => some n
    | none => (openParenLength rest).map (5 + ·)
  | none => none

/-- A call for external data: `request.security` or `request.security_lower_tf`. -/
def securityCall : Probe := freeCall fun cs =>
  match afterPrefix "request.security".toList cs with
  | some rest =>
    let lower := match afterPrefix "_lower_tf".toList rest with
      | some r => (openParenLength r).map (25 + ·)
      | none => none
    match lower with
    | some n => some n
    | none => (openParenLength rest).map (16 + ·)
  | none => none

/-- An order entry: `strategy.entry` or `strategy.order`. -/
def entryCall : Probe := freeCall fun cs =>
  match afterPrefix "strategy.".toList cs with
  | some rest => (callOfAny ["entry".toList, "order".toList] rest).map (9 + ·)
  | none => none

/-- An order cancel: `strategy.cancel`, `cancel_all`, `close` or `close_all`. -/
def cancelCall : Probe := freeCall fun cs =>
  match afterPrefix "strategy.".toList cs with
  | some rest =>
    (callOfAny ["cancel".toList, "cancel_all".toList, "close".toList, "close_all".toList]
      rest).map (9 + ·)
  | none => none

/-- The names of the plotting functions. -/
def plotNames : List (List Char) :=
  ["plot", "plotshape", "plotchar", "plotarrow", "plotbar", "plotcandle", "hline", "fill",
    "bgcolor", "barcolor"].map String.toList

/-- A plotting call. -/
def plotCall : Probe := freeCall (callOfAny plotNames)

/-- A whole word at a word boundary, followed by a further test on the rest. -/
def wordThen (word : List Char) (more : List Char → Option Nat) : Probe := fun prev cs =>
  if boundary prev cs then
    match afterPrefix word cs with
    | some rest => (more rest).map (word.length + ·)
    | none => none
  else none

/-- The rest ends a word here: recognises nothing more. -/
def endOfWord (cs : List Char) : Option Nat := if wordEnds cs then some 0 else none

/-- Blanks, `=`, blanks: the length of all three. -/
def equalsSign (cs : List Char) : Option Nat :=
  match dropBlank cs with
  | '=' :: r => some (blankRun cs + 1 + blankRun r)
  | _ => none

/-- Blanks, `=`, blanks and a literal: the length of all. -/
def equalsThen (value : List Char) (more : List Char → Option Nat) (cs : List Char) :
    Option Nat :=
  match equalsSign cs with
  | some n =>
    match afterPrefix value (cs.drop n) with
    | some rest => (more rest).map (n + value.length + ·)
    | none => none
  | none => none

/-- `lookahead = barmerge.lookahead_on`, as whole words. -/
def lookaheadOn : Probe :=
  wordThen "lookahead".toList (equalsThen "barmerge.lookahead_on".toList endOfWord)

/-- `lookahead =` with any value. -/
def lookaheadSet : Probe :=
  wordThen "lookahead".toList fun cs =>
    match dropBlank cs with
    | '=' :: _ => some (blankRun cs + 1)
    | _ => none

/-- `limit =` with any value. -/
def limitSet : Probe :=
  wordThen "limit".toList fun cs =>
    match dropBlank cs with
    | '=' :: _ => some (blankRun cs + 1)
    | _ => none

/-- What may follow a raw price: blanks, then the end, a comma or a closing `)`. -/
def priceEnds (cs : List Char) : Option Nat :=
  match dropBlank cs with
  | [] => some 0
  | ',' :: _ => some 0
  | ')' :: _ => some 0
  | _ => none

/-- `limit = close` or `limit = open`, the price ending the argument. -/
def limitAtBarPrice : Probe :=
  wordThen "limit".toList fun cs =>
    match equalsThen "close".toList priceEnds cs with
    | some n => some n
    | none => equalsThen "open".toList priceEnds cs

/-- `calc_on_every_tick = true`, as whole words. -/
def everyTickOn : Probe :=
  wordThen "calc_on_every_tick".toList (equalsThen "true".toList endOfWord)

/-- `barstate.isrealtime` as whole words. -/
def realtimeState : Probe := wordThen "barstate.isrealtime".toList endOfWord

/-- The words that show an entry is guarded, each as a whole word. -/
def guardWords : List (List Char) :=
  ["ta.cross", "strategy.position_size", "strategy.opentrades", "barstate.isconfirmed",
    "barstate.isnew"].map String.toList

/-- A guard against an entry firing on every bar: a crossing (`crossover`, `crossunder`
anywhere, `ta.cross`, a call of `cross`), the position size or open trades, or a confirmed
or new bar. -/
def entryGuard : Probe := fun prev cs =>
  if "crossover".toList.isPrefixOf cs || "crossunder".toList.isPrefixOf cs then some 0
  else if guardWords.any (fun w => (wordThen w endOfWord prev cs).isSome) then some 0
  else if freeBefore prev && (callOf "cross".toList cs).isSome then some 0
  else none

/-- A `;` with more than blanks after it. -/
def statementSeparator : Probe := fun _ cs =>
  match cs with
  | ';' :: rest => if allBlank rest then none else some 1
  | _ => none

/-- A word character or a dot, blanks, `(`: something called. -/
def callLike : Probe := fun _ cs =>
  match cs with
  | c :: rest => if isWord c || c == '.' then (openParenLength rest).map (1 + ·) else none
  | [] => none

/-- The operators that change a variable in place. -/
def updateOperators : List (List Char) :=
  [":=", "+=", "-=", "*=", "/=", "%="].map String.toList

/-- A name that does not continue a longer one, changed in place by `:=` or a compound
assignment. -/
def updateOf (name : List Char) : Probe := freeCall fun cs =>
  match afterPrefix name cs with
  | some rest =>
    let r := dropBlank rest
    if updateOperators.any (·.isPrefixOf r) then some (name.length + blankRun rest + 2) else none
  | none => none

/-- A declaration of the script: `strategy` or `indicator`, blanks, `(` at the start. -/
def isDeclaration (code : List Char) : Bool :=
  (callOfAny ["strategy".toList, "indicator".toList] code).isSome

/-- The version line: `//@version=` and decimal digits, nothing else. -/
def isVersionLine (s : List Char) : Bool :=
  match afterPrefix "//@version=".toList s with
  | some ds => !ds.isEmpty && ds.all isDecimal
  | none => false

/-- The text after an open bracket at `start` up to the bracket that closes it, counting
brackets of every kind; up to the end of the text when none does. -/
def argumentsFrom (text : List Char) (start : Nat) : List Char :=
  let rec go (depth : Int) (i : Nat) : List Char → List Char
    | [] => text.drop (start + 1)
    | c :: rest =>
      if c == '(' || c == '[' || c == '{' then go (depth + 1) (i + 1) rest
      else if c == ')' || c == ']' || c == '}' then
        if depth - 1 == 0 then (text.drop (start + 1)).take (i - (start + 1))
        else go (depth - 1) (i + 1) rest
      else go depth (i + 1) rest
  go 0 start (text.drop start)

/-- The part of a text from index `a` to index `b`, where a negative index counts from the
end and an index outside the text is moved to its nearer end. -/
def sliceBetween (text : List Char) (a b : Int) : List Char :=
  let n : Int := text.length
  let clamp (i : Int) : Nat := (max 0 (min n (if i < 0 then i + n else i))).toNat
  (text.drop (clamp a)).take (clamp b - clamp a)

/-- `argumentsFrom` for any integer start: a negative index counts from the end of the text.
`none` when the reading reaches an index before the start of the text. -/
def argumentsAt (text : List Char) (start : Int) : Option (List Char) :=
  let n : Int := text.length
  let rec go (depth : Int) : List Int → Option (List Char)
    | [] => some (sliceBetween text (start + 1) n)
    | i :: rest =>
      let r := if i < 0 then i + n else i
      if r < 0 then none
      else
        match text[r.toNat]? with
        | none => none
        | some c =>
          if c == '(' || c == '[' || c == '{' then go (depth + 1) rest
          else if c == ')' || c == ']' || c == '}' then
            if depth - 1 == 0 then some (sliceBetween text (start + 1) i)
            else go (depth - 1) rest
          else go depth rest
  go 0 ((List.range (n - start).toNat).map fun (k : Nat) => start + (k : Int))

end PineCheck.Script
