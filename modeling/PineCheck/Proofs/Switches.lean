import PineCheck.Proofs.Coupling
import PineCheck.Proofs.StrategyTitle
/-!
# What the switches change

Four settings switch findings on: `disallowTabs` a tab, `requireLimitOrders` an order entry
with no limit price, `disallowLookahead` external data that repaints, and `oneInputPerLine`
several inputs on one line. Each is read by one rule, in one branch of it, and by nothing
else: with the switch off that branch reports nothing, and no other finding depends on it.
So the report under settings with fewer of these switches on is the report under more, with
the findings of the switches that are off left out (`switches_filter_report`).

Two settings grade a finding instead of deciding it: `strictIndent` reports an indent that
is no multiple of the unit as an error rather than a warning, and `disallowEveryTick` does
the same for `calc_on_every_tick = true`. The report with either on is the report with it
off, each such warning turned into its error in place (`severity_switches_promote`).

Both are couplings of two passes (`PineCheck.Proofs.Coupling`). The trackers are the same on
both sides, since a tracker reads only the window of the settings, and each kind of rule is
checked on its own: the rules that read none of these settings report the same findings,
none of them with a code that a switch silences or promotes.
-/

namespace PineCheck

open Script Text

/-! ## Same trackers -/

/-- Two passes whose settings have the same window run the same trackers. -/
def sameTrackers : Tracker → Tracker → Prop := Eq

/-- The snapshots of the same tracker. -/
def sameScopes : Snapshot → Snapshot → Prop := Eq

/-- The same tracker steps the same way under both settings. -/
theorem sameTrackers_advance {t₁ t₂ : Tracker} (l : Line) (h : sameTrackers t₁ t₂) :
    sameScopes (t₁.advance l).1 (t₂.advance l).1 ∧
      (t₁.advance l).2.1 = (t₂.advance l).2.1 ∧
      sameTrackers (t₁.advance l).2.2 (t₂.advance l).2.2 := by
  cases h
  exact ⟨rfl, rfl, rfl⟩

/-! ## Switches that turn findings off -/

/-- The settings with the four switches set as given. -/
def Settings.withSwitches (s : Settings) (tabs limits lookahead inputs : Bool) : Settings :=
  { s with disallowTabs := tabs, requireLimitOrders := limits, disallowLookahead := lookahead,
           oneInputPerLine := inputs }

section WithSwitches

variable (s : Settings) (tabs limits lookahead inputs : Bool)

/-- The tab switch is set as given. -/
@[simp] theorem Settings.withSwitches_disallowTabs :
    (s.withSwitches tabs limits lookahead inputs).disallowTabs = tabs := rfl

/-- The limit-order switch is set as given. -/
@[simp] theorem Settings.withSwitches_requireLimitOrders :
    (s.withSwitches tabs limits lookahead inputs).requireLimitOrders = limits := rfl

/-- The lookahead switch is set as given. -/
@[simp] theorem Settings.withSwitches_disallowLookahead :
    (s.withSwitches tabs limits lookahead inputs).disallowLookahead = lookahead := rfl

/-- The one-input-per-line switch is set as given. -/
@[simp] theorem Settings.withSwitches_oneInputPerLine :
    (s.withSwitches tabs limits lookahead inputs).oneInputPerLine = inputs := rfl

end WithSwitches

/-- Whether a switch that is off in `s` silences the findings with this code. -/
def Settings.silences (s : Settings) : Code → Bool
  | .tab => !s.disallowTabs
  | .limitOrder => !s.requireLimitOrders
  | .lookaheadOn => !s.disallowLookahead
  | .inputStyle => !s.oneInputPerLine
  | _ => false

/-- Whether a finding survives the switches of `s`. -/
def Settings.allows (s : Settings) (d : Diagnostic) : Bool := !s.silences d.code

section Switches

variable {s : Settings} {tabs limits lookahead inputs : Bool}

/-- Findings that no switch silences survive the filter. -/
theorem filter_allows_of_forall {ds : List Diagnostic}
    (h : ∀ d ∈ ds, s.silences d.code = false) : ds.filter s.allows = ds :=
  List.filter_eq_self.2 fun d hd => by simp [Settings.allows, h d hd]

/-- Findings of one code that no switch silences survive the filter. -/
theorem filter_allows_of_code {ds : List Diagnostic} {k : Code} (hk : s.silences k = false)
    (h : ∀ d ∈ ds, d.code = k) : ds.filter s.allows = ds :=
  filter_allows_of_forall fun d hd => by rw [h d hd, hk]

/-- A branch that a switch gates. The switch is on in `s` only if it is on in the wider
settings; filtering by `s` keeps the branch's findings exactly when it is on in `s`. -/
theorem filter_allows_gate {flag flag' : Bool} (hflag : flag = true → flag' = true) {k : Code}
    (hk : s.silences k = !flag) {ds : List Diagnostic} (hds : ∀ d ∈ ds, d.code = k) :
    (if flag' = true then ds else []).filter s.allows = if flag = true then ds else [] := by
  cases flag
  · have hnil : ds.filter s.allows = [] :=
      List.filter_eq_nil_iff.2 fun d hd => by simp [Settings.allows, hds d hd, hk]
    cases flag' <;> simp [hnil]
  · rw [if_pos (hflag rfl), if_pos rfl]
    exact filter_allows_of_code (by rw [hk]; rfl) hds

/-- The text rules under more switches, filtered, report what they report under `s`: the tab finding
is gated by its switch. -/
theorem filter_allows_textFindings (htabs : s.disallowTabs = true → tabs = true) (l : Line)
    (first : Bool) :
    (textFindings (s.withSwitches tabs limits lookahead inputs) l first).filter s.allows =
      textFindings s l first := by
  have hversion : ∀ s₀, (if first = true then versionFinding s₀ l else []).filter s.allows =
      if first = true then versionFinding s₀ l else [] := by
    intro s₀
    split
    · exact filter_allows_of_code rfl fun _ => code_of_mem_versionFinding
    · rfl
  have htabs' : s.disallowTabs = true →
      (s.withSwitches tabs limits lookahead inputs).disallowTabs = true := htabs
  simp only [textFindings, List.filter_append, hversion,
    filter_allows_of_code rfl fun _ => code_of_mem_trailingSpaceFinding]
  rw [filter_allows_gate htabs' rfl fun _ => code_of_mem_tabFinding]
  rfl

/-- The line rules under more switches, filtered, report what they report under `s`: the input-style
finding is gated by its switch. -/
theorem filter_allows_lineFindings (hinputs : s.oneInputPerLine = true → inputs = true)
    (l : Line) (sc : Snapshot) :
    (lineFindings (s.withSwitches tabs limits lookahead inputs) l sc).filter s.allows =
      lineFindings s l sc := by
  -- the only line rule a switch reads: several inputs on one line
  have hinput : (inputStyleRule (s.withSwitches tabs limits lookahead inputs) l).filter s.allows =
      inputStyleRule s l := by
    cases hs : s.oneInputPerLine
    · have hoff : inputStyleRule s l = [] := by simp [inputStyleRule, hs]
      rw [hoff]
      exact List.filter_eq_nil_iff.2 fun d hd => by
        simp [Settings.allows, Settings.silences, code_of_mem_inputStyleRule hd, hs]
    · have hsame : inputStyleRule (s.withSwitches tabs limits lookahead inputs) l =
          inputStyleRule s l := by
        simp [inputStyleRule, hs, hinputs hs]
      rw [hsame]
      exact filter_allows_of_code (by simp [Settings.silences, hs])
        fun _ => code_of_mem_inputStyleRule
  have hindent : ∀ s₀, (indentRule s₀ l sc).filter s.allows = indentRule s₀ l sc := fun _ =>
    filter_allows_of_forall fun d hd => by
      rcases code_of_mem_indentRule hd with h | h <;> rw [h] <;> rfl
  have htick : ∀ s₀, (everyTickRule s₀ l).filter s.allows = everyTickRule s₀ l := fun _ =>
    filter_allows_of_forall fun d hd => by
      rcases code_of_mem_everyTickRule hd with h | h <;> rw [h] <;> rfl
  simp only [lineFindings, List.filter_append, hinput, hindent, htick,
    filter_allows_of_code rfl fun _ => code_of_mem_eolContinuationRule,
    filter_allows_of_code rfl fun _ => code_of_mem_blockIndentRule,
    filter_allows_of_code rfl fun _ => code_of_mem_reservedIdentifierRule,
    filter_allows_of_code rfl fun _ => code_of_mem_globalMutationRule,
    filter_allows_of_code rfl fun _ => code_of_mem_plotScopeRule,
    filter_allows_of_code rfl fun _ => code_of_mem_realtimeRule,
    filter_allows_of_code rfl fun _ => code_of_mem_multiStatementRule,
    filter_allows_of_code rfl fun _ => code_of_mem_lineLengthRule]
  rfl

/-- The statement rules under more switches, filtered, report what they report under `s`: the
limit-order and lookahead findings are gated by their switches, and the warnings beside them are
not. -/
theorem filter_allows_statementFindings (hlimits : s.requireLimitOrders = true → limits = true)
    (hlookahead : s.disallowLookahead = true → lookahead = true) (st : Statement) :
    (statementFindings (s.withSwitches tabs limits lookahead inputs) st).filter s.allows =
      statementFindings s st := by
  have hlookahead' : s.disallowLookahead = true →
      (s.withSwitches tabs limits lookahead inputs).disallowLookahead = true := hlookahead
  have hlimits' : s.requireLimitOrders = true →
      (s.withSwitches tabs limits lookahead inputs).requireLimitOrders = true := hlimits
  -- each call's findings: the switched branch, or a finding no switch reads
  have hlook : (lookaheadRule (s.withSwitches tabs limits lookahead inputs) st).filter s.allows =
      lookaheadRule s st := by
    unfold lookaheadRule
    rw [List.filter_flatMap]
    congr 1
    funext call
    split
    · exact filter_allows_gate hlookahead' rfl fun d hd => by rw [List.mem_singleton.1 hd]
    · split
      · rfl
      · exact filter_allows_of_code rfl fun d hd => by rw [List.mem_singleton.1 hd]
  have hlimit : (limitOrderRule (s.withSwitches tabs limits lookahead inputs) st).filter s.allows =
      limitOrderRule s st := by
    unfold limitOrderRule
    rw [List.filter_flatMap]
    congr 1
    funext call
    split
    · exact filter_allows_gate hlimits' rfl fun d hd => by rw [List.mem_singleton.1 hd]
    · split
      · exact filter_allows_of_code rfl fun d hd => by rw [List.mem_singleton.1 hd]
      · rfl
  simp only [statementFindings, List.filter_append, hlook, hlimit,
    filter_allows_of_code rfl fun _ => code_of_mem_entryGatingRule]

/-- The whole-file rules read no switch. -/
theorem filter_allows_fileFindings (t : Tally) :
    (fileFindings (s.withSwitches tabs limits lookahead inputs) t).filter s.allows =
      fileFindings s t :=
  filter_allows_of_forall fun d hd => by
    have hfile := fromFileRule_of_mem_fileFindings hd
    cases hk : d.code <;> simp_all [Code.fromFileRule, Settings.silences]

/-- The only findings a switch silences write out no setting. -/
theorem any_filter_allows {P : Diagnostic → Bool} (hP : ∀ d, s.allows d = false → P d = false)
    (ds : List Diagnostic) : (ds.filter s.allows).any P = ds.any P := by
  induction ds with
  | nil => rfl
  | cons d ds ih =>
    rw [List.filter_cons]
    cases h : s.allows d
    · simp [hP d h, ih]
    · simp [ih]

/-- The pass under more switches, coupled with the pass under `s`: the findings under `s` are
those under more switches that `s` allows. -/
def switchesCoupling (htabs : s.disallowTabs = true → tabs = true)
    (hlimits : s.requireLimitOrders = true → limits = true)
    (hlookahead : s.disallowLookahead = true → lookahead = true)
    (hinputs : s.oneInputPerLine = true → inputs = true) :
    Coupling (s.withSwitches tabs limits lookahead inputs) s (fun d => s.allows d = false)
      (fun d d' => s.allows d = true ∧ d' = d) where
  trackers := sameTrackers
  scopes := sameScopes
  start := rfl
  advance l h := sameTrackers_advance l h
  continuation h := by cases h; rfl
  dangling h := by cases h; rfl
  text l first := by
    have h := Thinned.of_filter s.allows
      (textFindings (s.withSwitches tabs limits lookahead inputs) l first)
    rwa [filter_allows_textFindings htabs] at h
  line l sc _ h := by
    cases h
    have h := Thinned.of_filter s.allows
      (lineFindings (s.withSwitches tabs limits lookahead inputs) l sc)
    rwa [filter_allows_lineFindings hinputs] at h
  statement ls sc _ h := by
    cases h
    have h := Thinned.of_filter s.allows
      (statementFindings (s.withSwitches tabs limits lookahead inputs) ⟨ls, sc⟩)
    rwa [filter_allows_statementFindings hlimits hlookahead] at h
  file t := by
    have h := Thinned.of_filter s.allows
      (fileFindings (s.withSwitches tabs limits lookahead inputs) t)
    rwa [filter_allows_fileFindings] at h
  fixed d hd := by
    refine ⟨?_, rfl⟩
    cases hk : d.code <;> simp_all [Code.settingFree, Settings.allows, Settings.silences]
  sameLine h := by rw [h.2]

end Switches

/-- **Switching a rule off removes exactly its findings.** Take settings `s` and settings
that agree with `s` but may have more of the four switches on: tabs, limit orders,
lookahead and one input per line. Linting a text under `s` gives what linting it under the
wider settings gives, with the findings of the switches that are off in `s` left out; all
other findings stay, in the same order. Linting fails under the one exactly when it fails
under the other. -/
theorem switches_filter_report (s : Settings) (tabs limits lookahead inputs : Bool)
    (htabs : s.disallowTabs = true → tabs = true)
    (hlimits : s.requireLimitOrders = true → limits = true)
    (hlookahead : s.disallowLookahead = true → lookahead = true)
    (hinputs : s.oneInputPerLine = true → inputs = true) (content : List Char) :
    lintText s content =
      (lintText (s.withSwitches tabs limits lookahead inputs) content).map
        (List.filter s.allows) := by
  have hreport :=
    ((switchesCoupling htabs hlimits hlookahead hinputs).thinned_lintContent content).eq_filter
  -- the checks around the report read no switch
  have hwindow : (s.withSwitches tabs limits lookahead inputs).entryGuardWindow =
      s.entryGuardWindow := rfl
  have hversion : (s.withSwitches tabs limits lookahead inputs).version = s.version := rfl
  have hwritten : writtenSetting (s.withSwitches tabs limits lookahead inputs) =
      writtenSetting s := rfl
  have hsilenced : ∀ d, s.allows d = false →
      ((writtenSetting s d.code).any tooLongToWrite) = false := by
    intro d hd
    cases hk : d.code <;> simp_all [Settings.allows, Settings.silences, writtenSetting]
  rw [lintText_eq, lintText_eq, hreport, hwindow, hversion, hwritten,
    any_filter_allows hsilenced]
  split_ifs <;> rfl

/-- With tabs disallowed, the tab finding of every line of a text is in its report. -/
theorem tabFinding_subset_lintContent {s : Settings} (htabs : s.disallowTabs = true)
    {content : List Char} {l : Line} (hl : l ∈ classifyLines content) :
    l.tabFinding ⊆ lintContent s content := by
  intro d hd
  obtain ⟨pre, post, hsplit⟩ := List.append_of_mem hl
  apply mem_lintContent_of_mem_found
  rw [hsplit, runPass, List.foldl_append, List.foldl_cons]
  -- the step on the line puts its text findings after those so far, and later steps keep them
  apply (Pass.found_prefix_foldl s _ post).subset
  apply (Pass.found_prefix_step s _ l).subset
  unfold textFindings
  simp [htabs, hd]

/-- `switches_filter_report` with tabs allowed, against the default settings, on a text with
a tab: the default report has an `E_TAB` finding, the filter of the settings that allow tabs
leaves out every `E_TAB` finding, and the report with tabs allowed is the default report so
filtered. -/
theorem switches_filter_report_tabs_allowed :
    ((Settings.default.withSwitches false true true true).disallowTabs = true → true = true) ∧
    ((Settings.default.withSwitches false true true true).requireLimitOrders = true →
      true = true) ∧
    ((Settings.default.withSwitches false true true true).disallowLookahead = true →
      true = true) ∧
    ((Settings.default.withSwitches false true true true).oneInputPerLine = true →
      true = true) ∧
    (∃ ds, lintText ((Settings.default.withSwitches false true true true).withSwitches
        true true true true) "//@version=6\n\tx = 1\n".toList = .ok ds ∧
      ∃ d ∈ ds, d.code = .tab) ∧
    (∀ d : Diagnostic, d.code = .tab →
      (Settings.default.withSwitches false true true true).allows d = false) ∧
    lintText (Settings.default.withSwitches false true true true)
        "//@version=6\n\tx = 1\n".toList =
      (lintText ((Settings.default.withSwitches false true true true).withSwitches
          true true true true) "//@version=6\n\tx = 1\n".toList).map
        (List.filter (Settings.default.withSwitches false true true true).allows) := by
  have htabs : (Settings.default.withSwitches false true true true).disallowTabs = true →
      true = true := fun _ => rfl
  have hlimits : (Settings.default.withSwitches false true true true).requireLimitOrders =
      true → true = true := fun _ => rfl
  have hlookahead : (Settings.default.withSwitches false true true true).disallowLookahead =
      true → true = true := fun _ => rfl
  have hinputs : (Settings.default.withSwitches false true true true).oneInputPerLine =
      true → true = true := fun _ => rfl
  -- the wider settings are the default ones, which report the tab on line 2
  have hwide : (Settings.default.withSwitches false true true true).withSwitches
      true true true true = Settings.default := rfl
  have hlines : classifyLines "//@version=6\n\tx = 1\n".toList =
      [Line.classify 1 "//@version=6".toList, Line.classify 2 "\tx = 1".toList] := by
    decide
  have hline :
      Line.classify 2 "\tx = 1".toList ∈ classifyLines "//@version=6\n\tx = 1\n".toList := by
    rw [hlines]
    exact List.mem_cons_of_mem _ List.mem_cons_self
  have htab : ∃ ds, lintText ((Settings.default.withSwitches false true true true).withSwitches
      true true true true) "//@version=6\n\tx = 1\n".toList = .ok ds ∧
        ∃ d ∈ ds, d.code = .tab := by
    rw [hwide]
    exact ⟨_, lintText_default _, _,
      tabFinding_subset_lintContent rfl hline (List.mem_singleton_self _), rfl⟩
  have hsilenced : ∀ d : Diagnostic, d.code = .tab →
      (Settings.default.withSwitches false true true true).allows d = false := by
    intro d hd
    simp [Settings.allows, Settings.silences, hd]
  exact ⟨htabs, hlimits, hlookahead, hinputs, htab, hsilenced,
    switches_filter_report _ _ _ _ _ htabs hlimits hlookahead hinputs _⟩

/-! ## Switches that grade findings -/

/-- The two settings that grade a finding: an indent that is no multiple of the unit, and
`calc_on_every_tick = true`. -/
inductive GradeSwitch where
  | strictIndent
  | everyTick
  deriving DecidableEq, Repr

namespace GradeSwitch

/-- The settings with the switch set as given. -/
def set : GradeSwitch → Settings → Bool → Settings
  | .strictIndent, s, b => { s with strictIndent := b }
  | .everyTick, s, b => { s with disallowEveryTick := b }

/-- The code of the finding the switch grades, as a warning. -/
def warning : GradeSwitch → Code
  | .strictIndent => .indentWarn
  | .everyTick => .everyTickWarn

/-- The code of the finding the switch grades, as an error. -/
def error : GradeSwitch → Code
  | .strictIndent => .indentError
  | .everyTick => .everyTickError

end GradeSwitch

/-- A finding with code `w` turned into one with code `e`, at the same place and with the
same message; every other finding as it is. -/
def Diagnostic.promote (w e : Code) (d : Diagnostic) : Diagnostic :=
  if d.code = w then { d with code := e } else d

/-- The codes some switch grades as warnings. -/
def Code.graded : Code → Bool
  | .indentWarn | .everyTickWarn => true
  | _ => false

section Grades

variable (g : GradeSwitch) (s : Settings)

/-- Findings of other codes than the promoted one are left as they are. -/
theorem map_promote_of_ne {w e : Code} {ds : List Diagnostic} (h : ∀ d ∈ ds, d.code ≠ w) :
    ds.map (Diagnostic.promote w e) = ds :=
  (List.map_congr_left fun d hd => by simp [Diagnostic.promote, h d hd]).trans (List.map_id ds)

/-- Findings with no graded code are left as they are. -/
theorem map_promote_of_forall {ds : List Diagnostic} (h : ∀ d ∈ ds, d.code.graded = false) :
    ds.map (Diagnostic.promote g.warning g.error) = ds :=
  map_promote_of_ne fun d hd hcode => by
    have := h d hd
    cases g <;> simp_all [GradeSwitch.warning, Code.graded]

/-- Findings of one code that no switch grades are left as they are. -/
theorem map_promote_of_code {ds : List Diagnostic} {k : Code} (hk : k.graded = false)
    (h : ∀ d ∈ ds, d.code = k) : ds.map (Diagnostic.promote g.warning g.error) = ds :=
  map_promote_of_forall g fun d hd => by rw [h d hd, hk]

/-- The indent rule with strict indents reports the warnings of the other as errors. -/
theorem map_promote_indentRule (l : Line) (sc : Snapshot) :
    (indentRule (g.set s false) l sc).map (Diagnostic.promote g.warning g.error) =
      indentRule (g.set s true) l sc := by
  cases g
  · -- the switch grades this rule
    have hunit : ∀ b, (GradeSwitch.strictIndent.set s b).indentUnit = s.indentUnit := fun _ => rfl
    have hstrict : ∀ b, (GradeSwitch.strictIndent.set s b).strictIndent = b := fun _ => rfl
    unfold indentRule
    rw [hunit, hunit, hstrict, hstrict]
    cases sc.continuation || l.indent == 0 || l.indent % s.indentUnit == 0 <;> rfl
  · exact map_promote_of_ne fun d hd => by
      rcases code_of_mem_indentRule hd with h | h <;> rw [h] <;> decide

/-- The every-tick rule with the switch on reports the warning of the other as an error. -/
theorem map_promote_everyTickRule (l : Line) :
    (everyTickRule (g.set s false) l).map (Diagnostic.promote g.warning g.error) =
      everyTickRule (g.set s true) l := by
  cases g
  · exact map_promote_of_ne fun d hd => by
      rcases code_of_mem_everyTickRule hd with h | h <;> rw [h] <;> decide
  · -- the switch grades this rule
    have htick : ∀ b, (GradeSwitch.everyTick.set s b).disallowEveryTick = b := fun _ => rfl
    unfold everyTickRule
    rw [htick, htick]
    split <;> rfl

/-- The text rules read no grading switch. -/
theorem map_promote_textFindings (l : Line) (first : Bool) :
    (textFindings (g.set s false) l first).map (Diagnostic.promote g.warning g.error) =
      textFindings (g.set s true) l first := by
  rw [map_promote_of_forall g fun d hd => ?_]
  · cases g <;> rfl
  · rcases code_of_mem_textFindings hd with hc | hc | hc <;> rw [hc] <;> rfl

/-- The line rules with a grading switch on report the warnings it grades as errors. -/
theorem map_promote_lineFindings (l : Line) (sc : Snapshot) :
    (lineFindings (g.set s false) l sc).map (Diagnostic.promote g.warning g.error) =
      lineFindings (g.set s true) l sc := by
  simp only [lineFindings, List.map_append, map_promote_indentRule, map_promote_everyTickRule,
    map_promote_of_code g rfl fun _ => code_of_mem_eolContinuationRule,
    map_promote_of_code g rfl fun _ => code_of_mem_blockIndentRule,
    map_promote_of_code g rfl fun _ => code_of_mem_reservedIdentifierRule,
    map_promote_of_code g rfl fun _ => code_of_mem_globalMutationRule,
    map_promote_of_code g rfl fun _ => code_of_mem_plotScopeRule,
    map_promote_of_code g rfl fun _ => code_of_mem_realtimeRule,
    map_promote_of_code g rfl fun _ => code_of_mem_inputStyleRule,
    map_promote_of_code g rfl fun _ => code_of_mem_multiStatementRule,
    map_promote_of_code g rfl fun _ => code_of_mem_lineLengthRule]
  -- the rules that read neither grading switch
  cases g <;> rfl

/-- The statement rules read no grading switch. -/
theorem map_promote_statementFindings (st : Statement) :
    (statementFindings (g.set s false) st).map (Diagnostic.promote g.warning g.error) =
      statementFindings (g.set s true) st := by
  rw [map_promote_of_forall g fun d hd => ?_]
  · cases g <;> rfl
  · have hst := fromStatementRule_of_mem_statementFindings hd
    cases hk : d.code <;> simp_all [Code.fromStatementRule, Code.graded]

/-- The whole-file rules read no grading switch. -/
theorem map_promote_fileFindings (t : Tally) :
    (fileFindings (g.set s false) t).map (Diagnostic.promote g.warning g.error) =
      fileFindings (g.set s true) t := by
  rw [map_promote_of_forall g fun d hd => ?_]
  · cases g <;> rfl
  · have hfile := fromFileRule_of_mem_fileFindings hd
    cases hk : d.code <;> simp_all [Code.fromFileRule, Code.graded]

/-- The pass with a grading switch off, coupled with the pass with it on: the findings with
it on are those with it off, each of its warnings promoted. -/
def gradeCoupling : Coupling (g.set s false) (g.set s true) (fun _ => False)
    (fun d d' => d' = d.promote g.warning g.error) where
  trackers := sameTrackers
  scopes := sameScopes
  start := by cases g <;> rfl
  advance l h := sameTrackers_advance l h
  continuation h := by cases h; rfl
  dangling h := by cases h; rfl
  text l first := map_promote_textFindings g s l first ▸ Thinned.of_map _ _
  line l sc _ h := by
    cases h
    exact map_promote_lineFindings g s l sc ▸ Thinned.of_map _ _
  statement ls sc _ h := by
    cases h
    exact map_promote_statementFindings g s ⟨ls, sc⟩ ▸ Thinned.of_map _ _
  file t := map_promote_fileFindings g s t ▸ Thinned.of_map _ _
  fixed d hd := by
    have hw : d.code ≠ g.warning := by
      intro hcode
      cases g <;> simp_all [GradeSwitch.warning, Code.settingFree]
    simp [Diagnostic.promote, hw]
  sameLine h := by
    rw [h]
    unfold Diagnostic.promote
    split <;> rfl

/-- A promoted finding writes out the setting its warning wrote out. -/
theorem writtenSetting_promote (d : Diagnostic) :
    writtenSetting (g.set s true) (d.promote g.warning g.error).code =
      writtenSetting (g.set s false) d.code := by
  unfold Diagnostic.promote
  split
  · rename_i hcode
    rw [hcode]
    cases g <;> rfl
  · cases g <;> rfl

/-- **A grading switch only promotes its warnings to errors.** -/
theorem lintText_grade (content : List Char) :
    lintText (g.set s true) content =
      (lintText (g.set s false) content).map (List.map (Diagnostic.promote g.warning g.error)) := by
  have hreport := ((gradeCoupling g s).thinned_lintContent content).eq_map
  have hwindow : (g.set s true).entryGuardWindow = (g.set s false).entryGuardWindow := by
    cases g <;> rfl
  have hversion : (g.set s true).version = (g.set s false).version := by cases g <;> rfl
  rw [lintText_eq, lintText_eq, hreport, hwindow, hversion, List.any_map]
  simp only [Function.comp_def, writtenSetting_promote]
  split_ifs <;> rfl

/-- Promoting a warning to an error never turns a failing report into a passing one. -/
theorem any_isError_map_promote (ds : List Diagnostic) (h : ds.any (·.isError) = true) :
    (ds.map (Diagnostic.promote g.warning g.error)).any (·.isError) = true := by
  obtain ⟨d, hd, herr⟩ := List.any_eq_true.1 h
  refine List.any_eq_true.2 ⟨d.promote g.warning g.error, List.mem_map_of_mem hd, ?_⟩
  unfold Diagnostic.promote
  split
  · cases g <;> rfl
  · exact herr

/-- A report that passes with a grading switch on passes with it off. -/
theorem passes_of_grade (content : List Char) (ds : List Diagnostic)
    (hon : lintText (g.set s true) content = .ok ds) (hpass : ds.any (·.isError) = false) :
    ∃ ds₀, lintText (g.set s false) content = .ok ds₀ ∧ ds₀.any (·.isError) = false := by
  rw [lintText_grade] at hon
  cases hoff : lintText (g.set s false) content with
  | error e => rw [hoff] at hon; cases hon
  | ok ds₀ =>
    rw [hoff] at hon
    refine ⟨ds₀, rfl, ?_⟩
    -- an error with the switch off stays an error once promoted
    cases herr : ds₀.any (·.isError)
    · rfl
    · have := any_isError_map_promote g ds₀ herr
      simp only [Except.map, Except.ok.injEq] at hon
      rw [hon, hpass] at this
      cases this

end Grades

/-- **A severity switch only changes how its finding is graded.** Linting a text with
`strictIndent` on gives what linting it with the switch off gives, with every indent warning
replaced in place by the indent error, at the same line and column and with the same message;
likewise `disallowEveryTick` turns every `calc_on_every_tick` warning into its error. The
errors have error severity. Nothing else changes: linting fails with the switch on exactly
when it fails with it off, and a report that passes with a switch on passes with it off. -/
theorem severity_switches_promote (s : Settings) (content : List Char) :
    lintText { s with strictIndent := true } content =
      (lintText { s with strictIndent := false } content).map
        (List.map (Diagnostic.promote .indentWarn .indentError)) ∧
    lintText { s with disallowEveryTick := true } content =
      (lintText { s with disallowEveryTick := false } content).map
        (List.map (Diagnostic.promote .everyTickWarn .everyTickError)) ∧
    Code.indentError.severity = .error ∧ Code.everyTickError.severity = .error ∧
    (∀ ds, lintText { s with strictIndent := true } content = .ok ds →
      ds.any (·.isError) = false →
      ∃ ds₀, lintText { s with strictIndent := false } content = .ok ds₀ ∧
        ds₀.any (·.isError) = false) ∧
    (∀ ds, lintText { s with disallowEveryTick := true } content = .ok ds →
      ds.any (·.isError) = false →
      ∃ ds₀, lintText { s with disallowEveryTick := false } content = .ok ds₀ ∧
        ds₀.any (·.isError) = false) :=
  ⟨lintText_grade .strictIndent s content, lintText_grade .everyTick s content, rfl, rfl,
    passes_of_grade .strictIndent s content, passes_of_grade .everyTick s content⟩

end PineCheck
