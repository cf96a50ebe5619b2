import PineCheck.Proofs.VersionLine
/-!
# The first statement of a block

A line that opens a block (`if`, `else`, `for`, `while`, `switch` or `type` at its start, an
arrow at its end, or an assignment of one of those) is kept by the tracker as the pending
block, and handed to the next line that starts a statement, in that line's snapshot
(`Snapshot.blockOpener`). Lines that continue a statement neither take nor replace it, and the
tracker never reads blank or comment lines. A line that starts a statement always replaces the
pending block: by itself if it opens a block, by nothing if not.

So the openers the snapshots hold are read off the statement heads of a run alone
(`openers_history`): each head is handed the head before it, when that one opens a block
(`handOver_none`). The rule on the first statement of a block reports such a head when it is
not indented one unit deeper than its opener; the report holds these findings and no other
of the code, in the order of the heads (`findingsOf_blockIndent_lintContent`). Each head has
one head after it, so an opener is named by one finding at most.

Main statement: `block_indent_checked_after_opener`.
-/

namespace PineCheck

open Script

/-! ## Statement heads and the openers handed to them -/

/-- The lines of a run of the tracker that start a statement, in the order read. -/
def statementHeads (hs : List (Line × Snapshot)) : List Line :=
  (hs.filter fun p => !p.2.continuation).map (·.1)

/-- A run of no lines starts no statement. -/
@[simp] theorem statementHeads_nil : statementHeads [] = [] := rfl

/-- A line starts a statement when it does not continue one. -/
theorem statementHeads_cons (l : Line) (sc : Snapshot) (hs : List (Line × Snapshot)) :
    statementHeads ((l, sc) :: hs) =
      if sc.continuation then statementHeads hs else l :: statementHeads hs := by
  cases h : sc.continuation <;> simp [statementHeads, h]

/-- The statement heads of a run are some of its lines, in order. -/
theorem statementHeads_sublist (hs : List (Line × Snapshot)) :
    (statementHeads hs).Sublist (hs.map (·.1)) :=
  List.filter_sublist.map _

/-- The block a line leaves pending when it starts a statement: itself if it opens one. -/
def pendingAfter (l : Line) : Option Line := if opensBlock l.stripped then some l else none

/-- Each statement head paired with the opener handed to it (opener first), from the block
pending before the first head. -/
def handOver : Option Line → List Line → List (Line × Line)
  | _, [] => []
  | pending, l :: ls => (pending.map (·, l)).toList ++ handOver (pendingAfter l) ls

/-- The lines of a run whose snapshot holds an opener, each paired with it (opener first). -/
def openers (hs : List (Line × Snapshot)) : List (Line × Line) :=
  hs.filterMap fun p => p.2.blockOpener.map (·, p.1)

/-- A line whose snapshot holds an opener is paired with it, before the pairs of the lines after it.
-/
@[simp] theorem openers_cons (l : Line) (sc : Snapshot) (hs : List (Line × Snapshot)) :
    openers ((l, sc) :: hs) = (sc.blockOpener.map (·, l)).toList ++ openers hs := by
  simp only [openers, List.filterMap_cons]
  cases sc.blockOpener <;> rfl

/-- **The pending block over a run.** The openers the snapshots of a run hold are those the
statement heads hand on, from the block pending before the run. -/
theorem openers_history (t : Tracker) (codes : List Line) :
    openers (t.history codes) = handOver t.pendingBlock (statementHeads (t.history codes)) := by
  induction codes generalizing t with
  | nil => rfl
  | cons l ls ih =>
    rw [Tracker.history_cons, openers_cons, statementHeads_cons, ih, Tracker.advance_continuation,
      Tracker.advance_blockOpener, Tracker.advance_pendingBlock]
    -- a line that continues keeps the pending block; a head takes it and leaves its own
    cases t.continues l
    · simp [handOver, pendingAfter]
    · simp

/-- After a head, each later head is handed the head before it, when that one opens a
block. -/
theorem handOver_pendingAfter (h : Line) (ls : List Line) :
    handOver (pendingAfter h) ls = ((h :: ls).zip ls).filter (opensBlock ·.1.stripped) := by
  induction ls generalizing h with
  | nil => rfl
  | cons l ls ih =>
    rw [handOver, ih, List.zip_cons_cons, List.filter_cons]
    unfold pendingAfter
    cases opensBlock h.stripped <;> rfl

/-- From no pending block, each head is handed the head before it, when that one opens a
block. -/
theorem handOver_none (heads : List Line) :
    handOver none heads = (heads.zip heads.tail).filter (opensBlock ·.1.stripped) := by
  cases heads with
  | nil => rfl
  | cons h ls => rw [handOver, handOver_pendingAfter]; rfl

/-! ## The rule on the first statement of a block -/

/-- The finding on a head `p.2` handed the opener `p.1`. -/
def blockIndentFindingOf (unit : Nat) (p : Line × Line) : Diagnostic :=
  blockIndentFinding unit p.1.number p.2.number (p.2.indent + 1)

/-- Whether a head `p.2` is not indented one unit deeper than its opener `p.1`. -/
def shallowUnder (unit : Nat) (p : Line × Line) : Bool := p.2.indent < p.1.indent + unit

/-- The block-indent rule reports a line handed an opener when the line is not deeper than it, as
one finding of the opener and the line. -/
theorem blockIndentRule_eq (s : Settings) (l : Line) (sc : Snapshot) :
    blockIndentRule s l sc =
      ((sc.blockOpener.map (·, l)).toList.filter (shallowUnder s.indentUnit)).map
        (blockIndentFindingOf s.indentUnit) := by
  unfold blockIndentRule
  cases sc.blockOpener with
  | none => rfl
  | some o =>
    by_cases hdeep : l.indent ≥ o.indent + s.indentUnit
    · simp [hdeep, shallowUnder]
    · simp [hdeep, shallowUnder, blockIndentFindingOf, Nat.lt_of_not_le hdeep]

/-- The rule over a run reports the shallow heads among the lines handed an opener. -/
theorem flatMap_blockIndentRule (s : Settings) (hs : List (Line × Snapshot)) :
    hs.flatMap (fun q => blockIndentRule s q.1 q.2) =
      ((openers hs).filter (shallowUnder s.indentUnit)).map (blockIndentFindingOf s.indentUnit) := by
  induction hs with
  | nil => rfl
  | cons q hs ih =>
    obtain ⟨l, sc⟩ := q
    rw [List.flatMap_cons, ih, blockIndentRule_eq, openers_cons, List.filter_append, List.map_append]

/-! ## The pass -/

/-- Of the line rules only the block-indent rule reports a block indent. -/
theorem findingsOf_blockIndent_lineFindings (s : Settings) (l : Line) (sc : Snapshot) :
    findingsOf .blockIndent (lineFindings s l sc) = blockIndentRule s l sc := by
  have hrule : findingsOf .blockIndent (blockIndentRule s l sc) = blockIndentRule s l sc :=
    findingsOf_eq_self fun _ hd => code_of_mem_blockIndentRule hd
  -- every other line rule reports codes of its own
  have heol : findingsOf .blockIndent (eolContinuationRule sc) = [] := findingsOf_eq_nil fun _ hd => by
    rw [code_of_mem_eolContinuationRule hd]; decide
  have hindent : findingsOf .blockIndent (indentRule s l sc) = [] := findingsOf_eq_nil fun _ hd => by
    rcases code_of_mem_indentRule hd with h | h <;> rw [h] <;> decide
  have hreserved : findingsOf .blockIndent (reservedIdentifierRule l sc) = [] :=
    findingsOf_eq_nil fun _ hd => by rw [code_of_mem_reservedIdentifierRule hd]; decide
  have hglobal : findingsOf .blockIndent (globalMutationRule l sc) = [] :=
    findingsOf_eq_nil fun _ hd => by rw [code_of_mem_globalMutationRule hd]; decide
  have hplot : findingsOf .blockIndent (plotScopeRule l sc) = [] := findingsOf_eq_nil fun _ hd => by
    rw [code_of_mem_plotScopeRule hd]; decide
  have htick : findingsOf .blockIndent (everyTickRule s l) = [] := findingsOf_eq_nil fun _ hd => by
    rcases code_of_mem_everyTickRule hd with h | h <;> rw [h] <;> decide
  have hrealtime : findingsOf .blockIndent (realtimeRule l) = [] := findingsOf_eq_nil fun _ hd => by
    rw [code_of_mem_realtimeRule hd]; decide
  have hinput : findingsOf .blockIndent (inputStyleRule s l) = [] := findingsOf_eq_nil fun _ hd => by
    rw [code_of_mem_inputStyleRule hd]; decide
  have hmulti : findingsOf .blockIndent (multiStatementRule l) = [] := findingsOf_eq_nil fun _ hd => by
    rw [code_of_mem_multiStatementRule hd]; decide
  have hlength : findingsOf .blockIndent (lineLengthRule s l) = [] := findingsOf_eq_nil fun _ hd => by
    rw [code_of_mem_lineLengthRule hd]; decide
  simp only [lineFindings, findingsOf_append, hrule, heol, hindent, hreserved, hglobal, hplot,
    htick, hrealtime, hinput, hmulti, hlength, List.append_nil, List.nil_append]

/-- The text rules report no block indent. -/
theorem findingsOf_blockIndent_textFindings (s : Settings) (l : Line) (b : Bool) :
    findingsOf .blockIndent (textFindings s l b) = [] :=
  findingsOf_eq_nil fun _ hd => by
    rcases code_of_mem_textFindings hd with h | h | h <;> rw [h] <;> decide

/-- **The rule over the rest of a pass.** It adds the rule's findings at each code line still
to read, with the snapshot the tracker gives it there; the end of the pass adds none. -/
theorem findingsOf_blockIndent_finish_foldl (s : Settings) (lines : List Line) : ∀ p : Pass,
    findingsOf .blockIndent ((lines.foldl (Pass.step s) p).finish s) =
      findingsOf .blockIndent p.found ++
        (p.tracker.history (lines.filter (·.isCode))).flatMap (fun q => blockIndentRule s q.1 q.2) := by
  induction lines with
  | nil =>
    intro p
    rw [List.foldl_nil, findingsOf_finish rfl (by decide)]
    simp
  | cons line lines ih =>
    intro p
    rw [List.foldl_cons, ih]
    cases hcode : line.isCode
    · rw [Pass.step_of_not_code s p line hcode]
      simp [hcode, findingsOf_blockIndent_textFindings]
    · rw [Pass.step_of_code s p line hcode]
      -- the tracker reports nested loops and a flushed statement statement-rule codes only
      have htracker : findingsOf .blockIndent (p.tracker.advance line).2.1 = [] :=
        findingsOf_eq_nil fun _ hd => by rw [Tracker.code_of_mem_advance_found hd]; decide
      have hflush : findingsOf .blockIndent
          (if (p.tracker.advance line).1.continuation && !p.statement.isEmpty then []
            else flushStatement s p.statement p.scope) = [] := by
        split
        · rfl
        · exact findingsOf_flushStatement rfl s _ _
      simp only [findingsOf_append, findingsOf_blockIndent_textFindings, htracker, hflush,
        findingsOf_blockIndent_lineFindings, List.filter_cons_of_pos hcode, Tracker.history_cons,
        List.flatMap_cons, List.nil_append, List.append_assoc]

/-! ## The report -/

/-- Consecutive items of a list in a strict order pair up in that order, on both sides. -/
theorem pairwise_zip_tail {α : Type} {R : α → α → Prop} :
    ∀ {l : List α}, l.Pairwise R → (l.zip l.tail).Pairwise (fun p q => R p.1 q.1 ∧ R p.2 q.2)
  | [], _ => List.Pairwise.nil
  | [_], _ => List.Pairwise.nil
  | a :: b :: l, h => by
    have hb : (b :: l).Pairwise R := h.of_cons
    rw [List.tail_cons, List.zip_cons_cons, List.pairwise_cons]
    refine ⟨fun q hq => ?_, pairwise_zip_tail hb⟩
    have hmem := List.of_mem_zip hq
    exact ⟨List.rel_of_pairwise_cons h hmem.1, List.rel_of_pairwise_cons hb hmem.2⟩

/-- The statement heads of a text, as the tracker reads its code lines, each after the first
paired with the head before it (that one first). -/
def headPairs (w : Nat) (content : List Char) : List (Line × Line) :=
  let heads := statementHeads ((Tracker.start w).history ((classifyLines content).filter (·.isCode)))
  heads.zip heads.tail

/-- The statement heads of a text come in the order of its lines, so its pairs of heads do so
on both sides. -/
theorem pairwise_headPairs (w : Nat) (content : List Char) :
    (headPairs w content).Pairwise fun p q => p.1.number < q.1.number ∧ p.2.number < q.2.number := by
  have hsub := statementHeads_sublist ((Tracker.start w).history ((classifyLines content).filter (·.isCode)))
  rw [Tracker.map_fst_history] at hsub
  exact pairwise_zip_tail ((pairwise_number_classifyLines content).sublist (hsub.trans List.filter_sublist))

/-- **The block findings of a report.** Of the findings on a text, those of the first
statement of a block are one for each statement head that follows a head opening a block and
is not indented one unit deeper than it, in the order of the heads. -/
theorem findingsOf_blockIndent_lintContent (s : Settings) (content : List Char) :
    findingsOf .blockIndent (lintContent s content) =
      ((headPairs s.entryGuardWindow content).filter fun p =>
          opensBlock p.1.stripped && shallowUnder s.indentUnit p).map
        (blockIndentFindingOf s.indentUnit) := by
  -- the pass's findings of the rule, read off the run of the tracker over the code lines
  have hpass : findingsOf .blockIndent ((runPass s (classifyLines content)).finish s) =
      ((headPairs s.entryGuardWindow content).filter fun p =>
          opensBlock p.1.stripped && shallowUnder s.indentUnit p).map
        (blockIndentFindingOf s.indentUnit) := by
    rw [runPass, findingsOf_blockIndent_finish_foldl, flatMap_blockIndentRule, openers_history]
    change [] ++ _ = _
    rw [List.nil_append, show (Pass.start s).tracker.pendingBlock = none from rfl, handOver_none,
      List.filter_filter]
    exact congrArg _ (List.filter_congr fun p _ => Bool.and_comm _ _)
  have hpre : findingsOf .blockIndent (preconditionFindings content) = [] :=
    findingsOf_eq_nil fun _ hd => by
      rcases code_of_mem_preconditionFindings hd with h | h <;> rw [h] <;> decide
  have hbrackets : findingsOf .blockIndent (checkBrackets ((classifyLines content).map (·.code))) = [] :=
    findingsOf_eq_nil fun _ hd => by
      obtain ⟨f, -, rfl⟩ := List.mem_map.1 hd
      rw [BracketFault.toDiagnostic_code]
      decide
  have hfile : findingsOf .blockIndent (fileFindings s (runPass s (classifyLines content)).tally) = [] :=
    findingsOf_eq_nil fun _ hd h => by
      have hfrom := fromFileRule_of_mem_fileFindings hd
      rw [h] at hfrom
      cases hfrom
  -- the findings are on the heads' lines, which increase, so sorting leaves them in place
  have hsorted : (((headPairs s.entryGuardWindow content).filter fun p =>
      opensBlock p.1.stripped && shallowUnder s.indentUnit p).map
        (blockIndentFindingOf s.indentUnit)).Pairwise fun a b => decide (a.line ≤ b.line) := by
    rw [List.pairwise_map]
    exact ((pairwise_headPairs s.entryGuardWindow content).filter _).imp fun h =>
      decide_eq_true (Nat.le_of_lt h.2)
  unfold lintContent
  dsimp only
  rw [findingsOf_append, hfile, List.append_nil]
  unfold findingsOf
  rw [← sortByLine_filter]
  change sortByLine (findingsOf .blockIndent _) = _
  rw [findingsOf_append, findingsOf_append, hpre, hbrackets, hpass, List.nil_append,
    List.nil_append]
  exact List.mergeSort_of_pairwise hsorted

-- The `if` ends with `and`, so the next line continues it; the blank and the comment line are
-- not read; the assignment is handed the `if` and is not indented under it.
example : findingsOf .blockIndent
    (lintContent Settings.default "//@version=6\nif c and\n  d\n\n// note\nx = 1\n".toList) =
      [blockIndentFinding 4 2 6 1] := by
  decide +kernel

/-- **The first statement of a block is checked against the head before it, once.** Of the
findings that linting returns, those on the first statement of a block are, in order, one for
each line that starts a statement (its snapshot does not continue one) such that the last line
before it that starts a statement opens a block and the line is not indented one unit deeper
than that opener. Each is placed at the line, one column past its indent, and names the
opener's line. The openers so named come in increasing line order, so none is named twice. -/
theorem block_indent_checked_after_opener (s : Settings) (content : List Char)
    (ds : List Diagnostic) (h : lintText s content = .ok ds) :
    ds.filter (·.code == .blockIndent) =
        ((headPairs s.entryGuardWindow content).filter fun p =>
            opensBlock p.1.stripped && shallowUnder s.indentUnit p).map
          (blockIndentFindingOf s.indentUnit) ∧
      ((headPairs s.entryGuardWindow content).filter fun p =>
          opensBlock p.1.stripped && shallowUnder s.indentUnit p).Pairwise
        (·.1.number < ·.1.number) := by
  refine ⟨?_, ((pairwise_headPairs s.entryGuardWindow content).filter _).imp And.left⟩
  rw [eq_lintContent_of_lintText h]
  exact findingsOf_blockIndent_lintContent s content

/-- `block_indent_checked_after_opener` on an `if` whose body is not indented, under the
default settings. -/
theorem block_indent_checked_after_opener_flat_body :
    lintText Settings.default "//@version=6\nif c\nx = 1\n".toList =
        .ok (lintContent Settings.default "//@version=6\nif c\nx = 1\n".toList) ∧
      (lintContent Settings.default "//@version=6\nif c\nx = 1\n".toList).filter
          (·.code == .blockIndent) =
        ((headPairs Settings.default.entryGuardWindow "//@version=6\nif c\nx = 1\n".toList).filter
            fun p => opensBlock p.1.stripped && shallowUnder Settings.default.indentUnit p).map
          (blockIndentFindingOf Settings.default.indentUnit) :=
  ⟨lintText_default _, (block_indent_checked_after_opener Settings.default _ _ (lintText_default _)).1⟩

end PineCheck
