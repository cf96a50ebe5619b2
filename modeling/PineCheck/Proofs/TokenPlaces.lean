import Mathlib.Data.List.Infix
import PineCheck.Proofs.VersionLine
/-!
# Findings at their tokens

The statement rules and the whole-file rule on order cancels report a call, or an argument of
one, at the first character of the token they name: `request.security` for external data with
no `lookahead =`, `lookahead` for a request that repaints, `strategy.` for an order entry, and
`limit` for a limit at the raw bar price (`Code.pointedWord`).

The statement rules find a call in the statement's text, the code of its lines joined by line
feeds. An argument's position is the position of the call's `(`, plus one, plus its place in
the arguments read from there; `Statement.locate` maps a position back to a line and a column.
No token holds a line feed, so a token that starts at a position of the text lies whole on the
line that the position is mapped to (`Statement.prefix_drop_locateIn`), however many lines the
call and its arguments span. The order-cancel rule reports the first order entry that the tally
recorded, which is where the probe for entries matched on the code of a line.

Main statement: `findings_point_at_their_token`.
-/

namespace PineCheck

open Script Text

/-- The token that a finding of code `c` names, for the codes that report a call or one of
its arguments. -/
def Code.pointedWord : Code → Option (List Char)
  | .lookaheadDefault => some "request.security".toList
  | .lookaheadOn => some "lookahead".toList
  | .limitOrder | .spamEntry | .noCancel => some "strategy.".toList
  | .limitMarketLike => some "limit".toList
  | _ => none

/-- A token is no empty word and holds no line feed. -/
theorem Code.word_of_pointedWord {c : Code} {w : List Char} (h : c.pointedWord = some w) :
    w ≠ [] ∧ '\n' ∉ w := by
  cases c <;> simp only [Code.pointedWord, Option.some.injEq, reduceCtorEq] at h <;>
    (subst h; decide)

/-- Only the statement rules and the order-cancel rule name a token. -/
theorem Code.fromStatementRule_of_pointedWord {c : Code} {w : List Char}
    (h : c.pointedWord = some w) : c.fromStatementRule = true ∨ c = .noCancel := by
  cases c <;> simp_all [Code.pointedWord, Code.fromStatementRule]

/-- Finding `d` points at word `w` on line `l`: it names `l`, and `l`'s code from `d`'s column
on starts with `w`. -/
def Diagnostic.PointsAtWord (w : List Char) (l : Line) (d : Diagnostic) : Prop :=
  d.line = l.number ∧ w <+: l.code.drop (d.column - 1)

/-! ## Probes that start with a word -/

/-- Every stretch that probe `p` recognises starts with `w`. -/
def StartsWith (p : Probe) (w : List Char) : Prop := ∀ prev cs n, p prev cs = some n → w <+: cs

/-- A matched prefix is a prefix of the text. -/
theorem prefix_of_afterPrefix {pre cs rest : List Char} (h : afterPrefix pre cs = some rest) :
    pre <+: cs := by
  rw [eq_append_of_afterPrefix h]
  exact List.prefix_append _ _

/-- A probe for a word followed by more starts with the word. -/
theorem startsWith_wordThen (word : List Char) (more : List Char → Option Nat) :
    StartsWith (wordThen word more) word := by
  intro prev cs n h
  unfold wordThen at h
  split at h
  · split at h
    · exact prefix_of_afterPrefix ‹_›
    · cases h
  · cases h

/-- Every match of the external-data call starts with `request.security`. -/
theorem startsWith_securityCall : StartsWith securityCall "request.security".toList := by
  intro prev cs n h
  unfold securityCall freeCall at h
  split at h
  · dsimp only at h
    split at h
    · exact prefix_of_afterPrefix ‹_›
    · cases h
  · cases h

/-- Every match of the order-entry call starts with `strategy.`. -/
theorem startsWith_entryCall : StartsWith entryCall "strategy.".toList := by
  intro prev cs n h
  unfold entryCall freeCall at h
  split at h
  · dsimp only at h
    split at h
    · exact prefix_of_afterPrefix ‹_›
    · cases h
  · cases h

/-- Every match of a lookahead argument starts with `lookahead`. -/
theorem startsWith_lookaheadOn : StartsWith lookaheadOn "lookahead".toList :=
  startsWith_wordThen _ _

/-- Every match of a limit at the bar's price starts with `limit`. -/
theorem startsWith_limitAtBarPrice : StartsWith limitAtBarPrice "limit".toList :=
  startsWith_wordThen _ _

/-- The first stretch found from index `i` on is one the probe recognises in the text there. -/
theorem recognised_of_searchFrom_eq_some {p : Probe} {Q : List Char → Nat → Prop}
    (hp : ∀ prev cs n, p prev cs = some n → Q cs n) :
    ∀ (cs : List Char) (prev : Option Char) (i : Nat) {pos len : Nat},
      searchFrom p prev cs i = some (pos, len) → i ≤ pos ∧ Q (cs.drop (pos - i)) len := by
  intro cs
  induction cs with
  | nil =>
    intro prev i pos len h
    unfold searchFrom at h
    split at h
    · rename_i n hn
      simp only [Option.some.injEq, Prod.mk.injEq] at h
      obtain ⟨rfl, rfl⟩ := h
      exact ⟨Nat.le_refl _, by simpa using hp prev [] _ hn⟩
    · simp at h
  | cons c cs ih =>
    intro prev i pos len h
    unfold searchFrom at h
    split at h
    · rename_i n hn
      simp only [Option.some.injEq, Prod.mk.injEq] at h
      obtain ⟨rfl, rfl⟩ := h
      exact ⟨Nat.le_refl _, by simpa using hp prev (c :: cs) _ hn⟩
    · obtain ⟨hle, hrec⟩ := ih (some c) (i + 1) h
      refine ⟨by omega, ?_⟩
      rw [show pos - i = (pos - (i + 1)) + 1 by omega, List.drop_succ_cons]
      exact hrec

namespace StartsWith

variable {p : Probe} {w : List Char}

/-- The first match of a probe that starts with a word is where the word starts. -/
theorem search (hp : StartsWith p w) {cs : List Char} {pos len : Nat}
    (h : PineCheck.Text.search p cs = some (pos, len)) : w <+: cs.drop pos := by
  simpa using (recognised_of_searchFrom_eq_some (Q := fun cs _ => w <+: cs) hp cs none 0 h).2

/-- Every match of a probe that starts with a word is where the word starts. -/
theorem allMatches (hp : StartsWith p w) {cs : List Char} {pos len : Nat}
    (h : (pos, len) ∈ PineCheck.Text.allMatches p cs) : w <+: cs.drop pos := by
  simpa using (recognised_of_mem_matchesFrom (Q := fun cs _ => w <+: cs) hp cs none 0 h).2

/-- A call that a probe finds starts with the probe's word. -/
theorem callSite (hp : StartsWith p w) {text : List Char} {call : CallSite}
    (hcall : call ∈ callSites p text) : w <+: text.drop call.offset := by
  obtain ⟨⟨pos, len⟩, hmem, rfl⟩ := List.mem_map.1 hcall
  exact hp.allMatches hmem

end StartsWith

/-! ## Arguments of a call -/

/-- The arguments read from an opener start the text right after it. -/
theorem isPrefix_argumentsFrom (text : List Char) (start : Nat) :
    argumentsFrom text start <+: text.drop (start + 1) := by
  suffices h : ∀ (cs : List Char) (depth : Int) (i : Nat),
      argumentsFrom.go text start depth i cs <+: text.drop (start + 1) from h _ 0 start
  intro cs
  induction cs with
  | nil => intro depth i; exact List.prefix_refl _
  | cons c cs ih =>
    intro depth i
    unfold argumentsFrom.go
    split_ifs
    · exact ih _ _
    · exact List.take_prefix _ _
    · exact ih _ _
    · exact ih _ _

/-- A word found in a call's arguments starts the text at the argument's position: one past
the call's `(`, plus its place in the arguments. -/
theorem StartsWith.argument {q : Probe} {w : List Char} (hq : StartsWith q w) {p : Probe}
    (hp : EndsAtParen p) {text : List Char} {call : CallSite} (hcall : call ∈ callSites p text)
    {pos len : Nat} (hsearch : Text.search q call.args = some (pos, len)) :
    w <+: text.drop (call.argsStart + pos) := by
  obtain ⟨hpos, -, hargs⟩ := callSite_opens hp hcall
  have hwithin : call.args <+: text.drop call.argsStart := by
    rw [hargs]
    simpa [Nat.sub_add_cancel hpos] using isPrefix_argumentsFrom text (call.argsStart - 1)
  rw [← List.drop_drop]
  exact (hq.search hsearch).trans (hwithin.drop pos)

/-! ## Positions of a statement -/

/-- A word with no `c` in it that starts a text starts the part of the text before a `c`. -/
theorem prefix_of_prefix_append_cons {w a b : List Char} {c : Char} (hc : c ∉ w)
    (h : w <+: a ++ c :: b) : w <+: a := by
  have hac : a ++ [c] <+: a ++ c :: b := by simp
  rcases List.prefix_or_prefix_of_prefix h hac with hw | hw
  · rcases List.prefix_concat_iff.1 hw with rfl | hw
    · simp at hc
    · exact hw
  · exact absurd (hw.subset (by simp)) hc

/-- The joined code of two lines or more: the first line's code, a line feed, the rest. -/
theorem joinedCode_cons_cons (l l' : Line) (ls : List Line) :
    List.intercalate ['\n'] ((l :: l' :: ls).map (·.code)) =
      l.code ++ '\n' :: List.intercalate ['\n'] ((l' :: ls).map (·.code)) := by
  simp [List.intercalate_cons_cons]

/-- **A word at a position of a statement's text lies on the line the position is mapped to**,
from the column it is mapped to, when the word is not empty and holds no line feed. -/
theorem Statement.prefix_drop_locateIn {w : List Char} (hw : w ≠ []) (hnl : '\n' ∉ w) :
    ∀ {ls : List Line} {offset : Nat},
      w <+: (List.intercalate ['\n'] (ls.map (·.code))).drop offset →
      ∃ l ∈ ls, (Statement.locateIn ls offset).1 = l.number ∧
        1 ≤ (Statement.locateIn ls offset).2 ∧
        w <+: l.code.drop ((Statement.locateIn ls offset).2 - 1)
  | [], offset, h => by simp_all
  | [l], offset, h => by
    simp only [List.map_cons, List.map_nil, List.intercalate_singleton] at h
    -- a word starts no position past the end of the line
    have hle : offset ≤ l.code.length := by
      by_contra hgt
      rw [List.drop_eq_nil_of_le (by omega), List.prefix_nil] at h
      exact hw h
    refine ⟨l, List.mem_cons_self, ?_⟩
    unfold Statement.locateIn
    rw [if_pos hle, Nat.add_sub_cancel]
    exact ⟨rfl, Nat.le_add_left 1 offset, h⟩
  | l :: l' :: rest, offset, h => by
    rw [joinedCode_cons_cons] at h
    unfold Statement.locateIn
    split
    · -- the position is on the first line: the word ends before its line feed
      rename_i hle
      rw [List.drop_append_of_le_length hle] at h
      refine ⟨l, List.mem_cons_self, rfl, Nat.le_add_left 1 offset, ?_⟩
      rw [Nat.add_sub_cancel]
      exact prefix_of_prefix_append_cons hnl h
    · -- past the first line and its line feed: the position in the rest of the text
      rename_i hgt
      rw [List.drop_append, List.drop_eq_nil_of_le (by omega), List.nil_append,
        show offset - l.code.length = (offset - (l.code.length + 1)) + 1 by omega,
        List.drop_succ_cons] at h
      obtain ⟨m, hm, hline, hcol, hpre⟩ := Statement.prefix_drop_locateIn hw hnl h
      exact ⟨m, List.mem_cons_of_mem _ hm, hline, hcol, hpre⟩

/-- A statement finding at an offset is at the offset's column, at least 1. -/
theorem Statement.column_findingAt (st : Statement) (c : Code) (m : String) (offset : Nat) :
    (st.findingAt c m offset).column = max (st.locate offset).2 1 := rfl

/-- Finding `d` of a statement is reported at a position of the statement's text where the
token of its code starts. -/
def Statement.ReportsAtToken (st : Statement) (d : Diagnostic) : Prop :=
  ∃ offset w, d = st.findingAt d.code d.message offset ∧ d.code.pointedWord = some w ∧
    w <+: st.text.drop offset

/-- A finding made at an offset where its code's token starts is reported at the token. -/
theorem Statement.reportsAtToken_findingAt {st : Statement} {c : Code} {w : List Char}
    (hw : c.pointedWord = some w) (m : String) {offset : Nat} (h : w <+: st.text.drop offset) :
    st.ReportsAtToken (st.findingAt c m offset) :=
  ⟨offset, w, rfl, hw, h⟩

/-- A finding reported at the start of its token points at the token on a line of the
statement. -/
theorem Statement.ReportsAtToken.pointsAtWord {st : Statement} {d : Diagnostic}
    (h : st.ReportsAtToken d) : ∃ w, d.code.pointedWord = some w ∧ ∃ l ∈ st.lines,
      d.PointsAtWord w l := by
  obtain ⟨offset, w, hd, hw, hpre⟩ := h
  obtain ⟨hne, hnl⟩ := Code.word_of_pointedWord hw
  obtain ⟨l, hl, hline, hcol, hdrop⟩ := Statement.prefix_drop_locateIn hne hnl hpre
  refine ⟨w, hw, l, hl, ?_, ?_⟩
  · rw [hd, Statement.line_findingAt]
    exact hline
  · rw [hd, Statement.column_findingAt, Statement.locate, Nat.max_eq_left hcol]
    exact hdrop

/-! ## The statement rules -/

section StatementRules

variable {s : Settings} {st : Statement} {d : Diagnostic}

/-- Every lookahead finding is reported at its token. -/
theorem reportsAtToken_of_mem_lookaheadRule (h : d ∈ lookaheadRule s st) :
    st.ReportsAtToken d := by
  unfold lookaheadRule at h
  obtain ⟨call, hcall, hd⟩ := List.mem_flatMap.1 h
  split at hd
  · -- a repainting request: reported at its `lookahead` argument
    rename_i pos len hsearch
    split at hd
    · rw [List.mem_singleton.1 hd]
      exact Statement.reportsAtToken_findingAt rfl _
        (startsWith_lookaheadOn.argument securityCall_endsAtParen hcall hsearch)
    · simp at hd
  · split at hd
    · simp at hd
    · rw [List.mem_singleton.1 hd]
      exact Statement.reportsAtToken_findingAt rfl _ (startsWith_securityCall.callSite hcall)

/-- Every limit-order finding is reported at its token. -/
theorem reportsAtToken_of_mem_limitOrderRule (h : d ∈ limitOrderRule s st) :
    st.ReportsAtToken d := by
  unfold limitOrderRule at h
  obtain ⟨call, hcall, hd⟩ := List.mem_flatMap.1 h
  split at hd
  · split at hd
    · rw [List.mem_singleton.1 hd]
      exact Statement.reportsAtToken_findingAt rfl _ (startsWith_entryCall.callSite hcall)
    · simp at hd
  · split at hd
    · -- a limit at the raw bar price: reported at its `limit` argument
      rename_i pos len hsearch
      rw [List.mem_singleton.1 hd]
      exact Statement.reportsAtToken_findingAt rfl _
        (startsWith_limitAtBarPrice.argument entryCall_endsAtParen hcall hsearch)
    · simp at hd

/-- Every entry-gating finding is reported at its token. -/
theorem reportsAtToken_of_mem_entryGatingRule (h : d ∈ entryGatingRule st) :
    st.ReportsAtToken d := by
  unfold entryGatingRule at h
  dsimp only at h
  split at h
  · simp at h
  · split at h
    · simp at h
    · obtain ⟨call, hcall, rfl⟩ := List.mem_map.1 h
      exact Statement.reportsAtToken_findingAt rfl _ (startsWith_entryCall.callSite hcall)

/-- **The statement rules report at their tokens**, on a line of the statement. -/
theorem pointsAtWord_of_mem_statementFindings (h : d ∈ statementFindings s st) :
    ∃ w, d.code.pointedWord = some w ∧ ∃ l ∈ st.lines, d.PointsAtWord w l := by
  simp only [statementFindings, List.mem_append] at h
  rcases h with (h | h) | h
  · exact (reportsAtToken_of_mem_lookaheadRule h).pointsAtWord
  · exact (reportsAtToken_of_mem_limitOrderRule h).pointsAtWord
  · exact (reportsAtToken_of_mem_entryGatingRule h).pointsAtWord

end StatementRules

/-! ## The order-cancel rule -/

/-- The tally's first order entry is where the probe for entries matched on a code line:
the order-cancel rule reports `strategy.` there. -/
theorem pointsAtWord_of_mem_cancelPresenceRule {lines : List Line} {d : Diagnostic}
    (h : d ∈ cancelPresenceRule (lines.foldl Tally.observe Tally.empty)) :
    ∃ l ∈ lines, d.PointsAtWord "strategy.".toList l := by
  unfold cancelPresenceRule at h
  split at h
  · rename_i line column rest hentries
    split at h
    · simp at h
    · have hfirst : (line, column) ∈ (lines.filter (·.isCode)).flatMap
          (Line.callPositions entryCall) := by
        rw [← List.nil_append ((lines.filter (·.isCode)).flatMap _),
          ← show Tally.empty.entries = [] from rfl, ← Tally.foldl_observe_entries, hentries]
        exact List.mem_cons_self
      obtain ⟨l, hl, hpos⟩ := List.mem_flatMap.1 hfirst
      obtain ⟨⟨pos, len⟩, hmatch, hplace⟩ := List.mem_map.1 hpos
      simp only [Prod.mk.injEq] at hplace
      obtain ⟨rfl, rfl⟩ := hplace
      rw [List.mem_singleton.1 h]
      refine ⟨l, (List.mem_filter.1 hl).1, rfl, ?_⟩
      simpa [Diagnostic.make] using startsWith_entryCall.allMatches hmatch
  · simp at h

/-! ## The codes of the pass -/

/-- A code of the whole-file rules is no code of the statement rules. -/
theorem Code.fromStatementRule_of_fromFileRule {c : Code} (h : c.fromFileRule = true) :
    c.fromStatementRule = false := by
  cases c <;> simp_all [Code.fromFileRule, Code.fromStatementRule]

/-- A code of the whole-file rules is no code of the line rules. -/
theorem Code.fromLineRule_of_fromFileRule {c : Code} (h : c.fromFileRule = true) :
    c.fromLineRule = false := by
  cases c <;> simp_all [Code.fromFileRule, Code.fromLineRule]

/-- **The pass reports no code of a whole-file rule other than the version's**: over a run of
lines, and at its end, those findings stay what they were. -/
theorem findingsOf_finish_foldl_of_fromFileRule {c : Code} (hc : c.fromFileRule = true)
    (hv : c ≠ .version) (s : Settings) (lines : List Line) : ∀ p : Pass,
    findingsOf c ((lines.foldl (Pass.step s) p).finish s) = findingsOf c p.found := by
  have hs := Code.fromStatementRule_of_fromFileRule hc
  -- the text rules report tabs, trailing blanks and the version line
  have htext : ∀ l b, findingsOf c (textFindings s l b) = [] := fun l b =>
    findingsOf_eq_nil fun d hd heq => by
      rcases code_of_mem_textFindings hd with h | h | h <;> rw [h] at heq <;> subst heq
      · cases hc
      · cases hc
      · exact hv rfl
  induction lines with
  | nil =>
    intro p
    exact findingsOf_finish hs (fun h => by rw [h] at hc; cases hc) s p
  | cons l ls ih =>
    intro p
    rw [List.foldl_cons, ih, findingsOf_step hs (Code.fromLineRule_of_fromFileRule hc)
      (fun h => by rw [h] at hc; cases hc), htext, List.append_nil]

/-! ## The report -/

/-- The pass names a token only in the statement rules' findings, on the lines of their
statements. -/
theorem pointsAtWord_of_mem_finish_runPass (s : Settings) (lines : List Line) {d : Diagnostic}
    (hd : d ∈ (runPass s lines).finish s) {w : List Char} (hw : d.code.pointedWord = some w) :
    ∃ l ∈ lines, d.PointsAtWord w l := by
  rcases Code.fromStatementRule_of_pointedWord hw with hcode | hcode
  · -- the statements of the pass cover code lines of the file
    let hist := (Tracker.start s.entryGuardWindow).history (lines.filter (·.isCode))
    have hpart : d ∈ (groupStatements hist).flatMap (statementFindings s) := by
      have h := statementPart_run_of_closed s lines (Pass.start s) rfl rfl
      rw [show (Pass.start s).found = [] from rfl, statementPart_nil, List.nil_append] at h
      change d ∈ (groupStatements ((Pass.start s).tracker.history _)).flatMap _
      rw [← h]
      exact List.mem_filter.2 ⟨hd, hcode⟩
    obtain ⟨st, hst, hfound⟩ := List.mem_flatMap.1 hpart
    obtain ⟨w', hw', l, hl, hpoints⟩ := pointsAtWord_of_mem_statementFindings hfound
    have hlines : l ∈ (groupStatements hist).flatMap (·.lines) := List.mem_flatMap.2 ⟨st, hst, hl⟩
    rw [flatMap_lines_groupStatements, Tracker.map_fst_history] at hlines
    rw [hw, Option.some.injEq] at hw'
    exact ⟨l, (List.mem_filter.1 hlines).1, hw' ▸ hpoints⟩
  · -- the pass reports no order-cancel finding
    have hnone := findingsOf_finish_foldl_of_fromFileRule (c := .noCancel) rfl (by decide) s
      lines (Pass.start s)
    rw [show (Pass.start s).found = [] from rfl, findingsOf_nil] at hnone
    have hmem : d ∈ findingsOf .noCancel ((runPass s lines).finish s) :=
      List.mem_filter.2 ⟨hd, by simp [hcode]⟩
    rw [runPass, hnone] at hmem
    cases hmem

/-- Of the whole-file rules, only the order-cancel rule names a token. -/
theorem pointsAtWord_of_mem_fileFindings (s : Settings) (lines : List Line) {d : Diagnostic}
    (hd : d ∈ fileFindings s (lines.foldl Tally.observe Tally.empty)) {w : List Char}
    (hw : d.code.pointedWord = some w) : ∃ l ∈ lines, d.PointsAtWord w l := by
  rcases Code.fromStatementRule_of_pointedWord hw with hcode | hcode
  · have hfile := fromFileRule_of_mem_fileFindings hd
    cases hk : d.code <;> simp_all [Code.fromFileRule, Code.fromStatementRule]
  · have hcancel : d ∈ cancelPresenceRule (lines.foldl Tally.observe Tally.empty) := by
      simp only [fileFindings, List.mem_append, or_assoc] at hd
      rcases hd with h | h | h | h | h | h
      · rw [code_of_mem_versionPresentRule h] at hcode; cases hcode
      · rcases code_of_mem_declarationCountRule h with h | h <;> rw [h] at hcode <;> cases hcode
      · rw [code_of_mem_declarationOrderRule h] at hcode; cases hcode
      · rw [code_of_mem_inputCeilingRule h] at hcode; cases hcode
      · rw [code_of_mem_securityCeilingRule h] at hcode; cases hcode
      · exact h
    rw [hcode, Code.pointedWord, Option.some.injEq] at hw
    exact hw ▸ pointsAtWord_of_mem_cancelPresenceRule hcancel

/-- **Every finding of the report that names a token points at it**, on a code line of the
file. -/
theorem pointsAtWord_of_mem_lintContent (s : Settings) (content : List Char) {d : Diagnostic}
    (hd : d ∈ lintContent s content) {w : List Char} (hw : d.code.pointedWord = some w) :
    ∃ l ∈ classifyLines content, d.PointsAtWord w l := by
  unfold lintContent at hd
  dsimp only at hd
  rcases List.mem_append.1 hd with hd | hd
  · rw [sortByLine, List.mem_mergeSort, List.mem_append, List.mem_append] at hd
    rcases hd with (hd | hd) | hd
    · -- the preconditions and the bracket check name no token
      rcases code_of_mem_preconditionFindings hd with hc | hc <;> simp [hc, Code.pointedWord] at hw
    · obtain ⟨f, -, rfl⟩ := List.mem_map.1 hd
      simp [Code.pointedWord] at hw
    · exact pointsAtWord_of_mem_finish_runPass s _ hd hw
  · rw [runPass_tally] at hd
    exact pointsAtWord_of_mem_fileFindings s _ hd hw

/-- **The statement rules and the order-cancel rule point at the token they report.** For every
source text and settings, each finding that linting returns with a code that names a token
(`Code.pointedWord`: `request.security` for external data with no lookahead setting,
`lookahead` for a repainting request, `strategy.` for an order entry with no limit, with no
guard or with no cancel in the file, `limit` for a limit at the raw bar price) names a line of
the text, and the code part of that line, before any `//` comment, starts with the token at the
finding's column. This holds when the call and its arguments span several lines. -/
theorem findings_point_at_their_token (s : Settings) (content : List Char) (ds : List Diagnostic)
    (h : lintText s content = .ok ds) :
    ∀ d ∈ ds, ∀ w, d.code.pointedWord = some w →
      1 ≤ d.line ∧ ∃ text, (physicalLines content)[d.line - 1]? = some text ∧
        w <+: (stripComment text).drop (d.column - 1) := by
  intro d hd w hw
  rw [eq_lintContent_of_lintText h] at hd
  obtain ⟨l, hl, hline, hpre⟩ := pointsAtWord_of_mem_lintContent s content hd hw
  obtain ⟨hnumber, htext⟩ := exists_getElem?_of_mem_classifyLines hl
  obtain ⟨⟨text, n⟩, -, rfl⟩ := List.mem_map.1 hl
  rw [hline]
  exact ⟨hnumber, text, htext, hpre⟩

/-- `findings_point_at_their_token` on a request whose `lookahead` argument sits on a
continuation line, under the default settings. -/
theorem findings_point_at_their_token_continued :
    let content := "//@version=6\nstrategy(\"s\")\nx = request.security(\"A\", \"D\",\n     close, lookahead = barmerge.lookahead_on)\n".toList
    lintText Settings.default content = .ok (lintContent Settings.default content) ∧
      ∀ d ∈ lintContent Settings.default content, ∀ w, d.code.pointedWord = some w →
        1 ≤ d.line ∧ ∃ text, (physicalLines content)[d.line - 1]? = some text ∧
          w <+: (stripComment text).drop (d.column - 1) :=
  ⟨lintText_default _, findings_point_at_their_token _ _ _ (lintText_default _)⟩

end PineCheck
