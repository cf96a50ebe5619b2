import PineCheck.Proofs.RuleCodes
import PineCheck.Proofs.Tracker
/-!
# The statements a file is cut into

The lint pass keeps the lines of the statement it is reading and runs the statement rules on
them when the next statement starts, and once more after the last line. This module says
which statements those are without the pass: read the code lines with the tracker, and cut
the run before each line whose snapshot does not continue a statement (`groupStatements`).
A statement is then a line that starts one, with all the lines right after it that continue
it, paired with the snapshot of its first line.

The pass is a left fold that flushes an accumulator, and the cut is a recursion from the
front; they meet in `continueStatement`, the statements of a run whose first statement is
already under way. One line of the pass either extends that statement or flushes it and
starts the next (`continueStatement_cons`), and the findings of the statement rules are the
only findings with their codes (`PineCheck.Proofs.RuleCodes`). So, by induction on the
lines, the statement rules' part of the pass's findings is the statement rules run once on
each statement, in order (`statementPart_finish`).

Main statement: `statementRules_run_once_per_statement`.
-/

namespace PineCheck

open Script Text

/-! ## Statements of a run -/

/-- The statements of a run of the tracker: each line read, with the lines right after it
whose snapshots continue a statement, paired with the snapshot of its first line. -/
def groupStatements : List (Line × Snapshot) → List Statement
  | [] => []
  | (l, sc) :: rest =>
    ⟨l :: (rest.takeWhile (·.2.continuation)).map (·.1), sc⟩ ::
      groupStatements (rest.dropWhile (·.2.continuation))
termination_by hs => hs.length
decreasing_by
  have := (List.dropWhile_suffix (fun p : Line × Snapshot => p.2.continuation) (l := rest)).length_le
  simp only [List.length_cons]
  omega

/-- The statements of a run whose first statement `st` may go on in the lines `rest`. -/
def continueStatement (st : Statement) (rest : List (Line × Snapshot)) : List Statement :=
  ⟨st.lines ++ (rest.takeWhile (·.2.continuation)).map (·.1), st.scope⟩ ::
    groupStatements (rest.dropWhile (·.2.continuation))

/-- The first line of a run starts the first statement. -/
theorem groupStatements_cons (l : Line) (sc : Snapshot) (rest : List (Line × Snapshot)) :
    groupStatements ((l, sc) :: rest) = continueStatement ⟨[l], sc⟩ rest := by
  rw [groupStatements]
  rfl

/-- A statement with no line after it is the last statement. -/
theorem continueStatement_nil (st : Statement) : continueStatement st [] = [st] := by
  simp [continueStatement, groupStatements]

/-- The next line of a run either continues the statement under way or starts the next. -/
theorem continueStatement_cons (st : Statement) (l : Line) (sc : Snapshot)
    (rest : List (Line × Snapshot)) :
    continueStatement st ((l, sc) :: rest) =
      if sc.continuation then continueStatement ⟨st.lines ++ [l], st.scope⟩ rest
      else st :: groupStatements ((l, sc) :: rest) := by
  cases hc : sc.continuation
  · simp [continueStatement, hc]
  · simp [continueStatement, hc]

/-- Every line of a run is in exactly one statement, in order. -/
theorem flatMap_lines_groupStatements (hs : List (Line × Snapshot)) :
    (groupStatements hs).flatMap (·.lines) = hs.map (·.1) := by
  induction hs using groupStatements.induct with
  | case1 => simp [groupStatements]
  | case2 l sc rest ih =>
    rw [groupStatements, List.flatMap_cons, ih]
    simp only [List.map_cons, List.cons_append, ← List.map_append, List.takeWhile_append_dropWhile]

/-- When the first line of a run starts a statement, every statement starts at a line whose
snapshot does not continue one. -/
theorem scope_of_mem_groupStatements {hs : List (Line × Snapshot)}
    (hhead : ∀ p ∈ hs.head?, p.2.continuation = false) :
    ∀ st ∈ groupStatements hs, st.scope.continuation = false := by
  induction hs using groupStatements.induct with
  | case1 => simp [groupStatements]
  | case2 l sc rest ih =>
    intro st hst
    rw [groupStatements, List.mem_cons] at hst
    rcases hst with rfl | hst
    · exact hhead _ rfl
    · refine ih (fun p hp => ?_) st hst
      have := List.head?_dropWhile_not (fun p : Line × Snapshot => p.2.continuation) rest
      rw [hp] at this
      exact this

/-! ## The statements the pass checks -/

/-- The findings of the statement rules among a list of findings. -/
def statementPart (ds : List Diagnostic) : List Diagnostic := ds.filter (·.code.fromStatementRule)

/-- No finding has no statement finding. -/
@[simp] theorem statementPart_nil : statementPart [] = [] := rfl

/-- The statement findings of findings put together are those of each part. -/
@[simp] theorem statementPart_append (ds es : List Diagnostic) :
    statementPart (ds ++ es) = statementPart ds ++ statementPart es := List.filter_append ds es

/-- The text rules report no statement finding. -/
@[simp] theorem statementPart_textFindings (s : Settings) (line : Line) (b : Bool) :
    statementPart (textFindings s line b) = [] :=
  List.filter_eq_nil_iff.2 fun _ hd => by simp [fromStatementRule_of_mem_textFindings hd]

/-- The line rules report no statement finding. -/
@[simp] theorem statementPart_lineFindings (s : Settings) (line : Line) (sc : Snapshot) :
    statementPart (lineFindings s line sc) = [] :=
  List.filter_eq_nil_iff.2 fun _ hd => by simp [fromStatementRule_of_mem_lineFindings hd]

/-- The tracker reports no statement finding. -/
@[simp] theorem statementPart_advance_found (t : Tracker) (line : Line) :
    statementPart (t.advance line).2.1 = [] :=
  List.filter_eq_nil_iff.2 fun _ hd => by simp [Tracker.code_of_mem_advance_found hd, Code.fromStatementRule]

/-- The statement rules report only statement findings. -/
@[simp] theorem statementPart_statementFindings (s : Settings) (st : Statement) :
    statementPart (statementFindings s st) = statementFindings s st :=
  List.filter_eq_self.2 fun _ hd => fromStatementRule_of_mem_statementFindings hd

/-- The pass's findings after the last line, as far as the statement rules go: the last
statement's, and none from a dangling last line. -/
theorem statementPart_finish (s : Settings) (p : Pass) :
    statementPart (p.finish s) = statementPart p.found ++ flushStatement s p.statement p.scope := by
  have hflush : statementPart (flushStatement s p.statement p.scope) =
      flushStatement s p.statement p.scope := by
    unfold flushStatement
    split <;> simp
  unfold Pass.finish
  cases p.tracker.danglingLine with
  | none => simp [hflush]
  | some d =>
    have hdangling : statementPart [danglingFinding d] = [] := rfl
    simp [hflush, hdangling]

namespace Pass

variable (s : Settings) (p : Pass) (line : Line)

/-- A line that is not code only adds the findings of the text rules. -/
theorem step_of_not_code (h : line.isCode = false) :
    p.step s line =
      { p with
        tally := p.tally.observe line
        found := p.found ++ textFindings s line (p.tally.firstNonblank.isNone && line.kind != .blank) } := by
  simp only [Line.isCode, beq_eq_false_iff_ne, ne_eq] at h
  simp [step, h]

/-- A code line goes to the tracker; it joins the statement under way when its snapshot
continues one, and otherwise flushes it and starts the next. -/
theorem step_of_code (h : line.isCode = true) :
    p.step s line =
      let r := p.tracker.advance line
      let joins := r.1.continuation && !p.statement.isEmpty
      { tracker := r.2.2
        tally := p.tally.observe line
        statement := if joins then p.statement ++ [line] else [line]
        scope := if joins then p.scope else some r.1
        found := p.found ++ textFindings s line (p.tally.firstNonblank.isNone && line.kind != .blank) ++
          r.2.1 ++ (if joins then [] else flushStatement s p.statement p.scope) ++
          lineFindings s line r.1 } := by
  simp only [Line.isCode, beq_iff_eq] at h
  simp only [step, h, bne_self_eq_false, Bool.false_eq_true, if_false]
  split <;> rfl

end Pass

/-- **The pass in the middle of a statement.** From a pass state whose statement under way
is `st`, the statement rules' findings of the rest of the pass are those of `st` completed
by the lines that continue it, then of each later statement, once each. -/
theorem statementPart_run_of_open (s : Settings) (lines : List Line) :
    ∀ (p : Pass) (st : Statement), p.statement = st.lines → p.scope = some st.scope →
      st.lines ≠ [] →
      statementPart ((lines.foldl (Pass.step s) p).finish s) =
        statementPart p.found ++
          (continueStatement st (p.tracker.history (lines.filter (·.isCode)))).flatMap
            (statementFindings s) := by
  induction lines with
  | nil =>
    intro p ⟨stLines, stScope⟩ hst hsc hne
    obtain ⟨l, ls, rfl⟩ := List.exists_cons_of_ne_nil hne
    simp [statementPart_finish, hst, hsc, flushStatement, continueStatement_nil]
  | cons line lines ih =>
    intro p ⟨stLines, stScope⟩ hst hsc hne
    rw [List.foldl_cons]
    cases hcode : line.isCode
    · -- a blank or comment line leaves the statement and the tracker alone
      have hstep := Pass.step_of_not_code s p line hcode
      rw [ih (p.step s line) ⟨stLines, stScope⟩ (by rw [hstep]; exact hst)
        (by rw [hstep]; exact hsc) hne, hstep]
      simp [hcode]
    · have hstep := Pass.step_of_code s p line hcode
      have hjoins : ((p.tracker.advance line).1.continuation && !p.statement.isEmpty) =
          (p.tracker.advance line).1.continuation := by
        simp [hst, hne]
      simp only [hjoins] at hstep
      simp only [List.filter_cons, hcode, if_true, Tracker.history_cons, continueStatement_cons]
      cases hc : (p.tracker.advance line).1.continuation
      · -- the line starts the next statement: the one under way is flushed as it stands
        simp only [hc, Bool.false_eq_true, if_false] at hstep
        rw [ih (p.step s line) ⟨[line], (p.tracker.advance line).1⟩ (by rw [hstep])
          (by rw [hstep]) (List.cons_ne_nil _ _), hstep]
        obtain ⟨l, ls, rfl⟩ := List.exists_cons_of_ne_nil hne
        simp [hst, hsc, flushStatement, groupStatements_cons]
      · -- the line joins the statement under way
        simp only [hc, if_true] at hstep
        rw [ih (p.step s line) ⟨stLines ++ [line], stScope⟩ (by rw [hstep]; simp [hst])
          (by rw [hstep]; exact hsc) (by simp), hstep]
        simp

/-- **The pass before its first statement.** From a pass state with no statement under way,
the statement rules' findings of the rest of the pass are those of each statement of the
remaining code lines, once each. -/
theorem statementPart_run_of_closed (s : Settings) (lines : List Line) :
    ∀ (p : Pass), p.statement = [] → p.scope = none →
      statementPart ((lines.foldl (Pass.step s) p).finish s) =
        statementPart p.found ++
          (groupStatements (p.tracker.history (lines.filter (·.isCode)))).flatMap
            (statementFindings s) := by
  induction lines with
  | nil =>
    intro p hst hsc
    simp [statementPart_finish, hst, hsc, flushStatement, groupStatements]
  | cons line lines ih =>
    intro p hst hsc
    rw [List.foldl_cons]
    cases hcode : line.isCode
    · have hstep := Pass.step_of_not_code s p line hcode
      rw [ih (p.step s line) (by rw [hstep]; exact hst) (by rw [hstep]; exact hsc), hstep]
      simp [hcode]
    · -- the first code line starts the first statement, whatever its snapshot
      have hstep := Pass.step_of_code s p line hcode
      simp only [hst, List.isEmpty_nil, Bool.not_true, Bool.and_false, Bool.false_eq_true,
        if_false] at hstep
      rw [statementPart_run_of_open s lines (p.step s line) ⟨[line], (p.tracker.advance line).1⟩
        (by rw [hstep]) (by rw [hstep]) (List.cons_ne_nil _ _), hstep]
      simp [hcode, flushStatement, groupStatements_cons]

/-! ## One finding per call -/

/-- A rule that reports at most one finding for each call a probe finds in a statement,
call by call. -/
def OnePerCall (probe : Probe) (rule : Statement → List Diagnostic) : Prop :=
  ∀ st, ∃ f : CallSite → Option Diagnostic, rule st = (callSites probe st.text).filterMap f

/-- A list of findings, each of at most one finding, is a `filterMap`. -/
theorem flatMap_eq_filterMap_head? {α : Type} {xs : List α} {g : α → List Diagnostic}
    (h : ∀ x ∈ xs, (g x).length ≤ 1) : xs.flatMap g = xs.filterMap fun x => (g x).head? := by
  induction xs with
  | nil => rfl
  | cons x xs ih =>
    have hx := h x List.mem_cons_self
    have hxs := ih fun y hy => h y (List.mem_cons_of_mem _ hy)
    rw [List.flatMap_cons, List.filterMap_cons, hxs]
    match hg : g x, hx with
    | [], _ => simp
    | [d], _ => simp

/-- The lookahead rule reports at most one finding per external-data call. -/
theorem onePerCall_lookaheadRule (s : Settings) : OnePerCall securityCall (lookaheadRule s) := by
  intro st
  refine ⟨_, flatMap_eq_filterMap_head? fun c _ => ?_⟩
  split <;> split <;> simp

/-- The limit-order rule reports at most one finding per order entry. -/
theorem onePerCall_limitOrderRule (s : Settings) : OnePerCall entryCall (limitOrderRule s) := by
  intro st
  refine ⟨_, flatMap_eq_filterMap_head? fun c _ => ?_⟩
  split
  · split <;> simp
  · split <;> simp

/-- The entry-gating rule reports at most one finding per order entry. -/
theorem onePerCall_entryGatingRule : OnePerCall entryCall entryGatingRule := by
  intro st
  unfold entryGatingRule
  dsimp only
  split
  · rename_i hempty
    exact ⟨fun _ => none, by simp [List.isEmpty_iff.1 hempty]⟩
  · split
    · exact ⟨fun _ => none, by simp⟩
    · exact ⟨some ∘ _, (congrFun List.filterMap_eq_map _).symm⟩

/-! ## The statement rules run once on each statement -/

/-- **The statement rules run once on each statement of a file.** Read the code lines of a
source text with the tracker and cut them into statements. Then:

* the first code line starts a statement, and so does the first line of every statement;
* every code line is in exactly one statement, in file order;
* the findings of the statement rules in the lint pass are, in order, those of the rules run
  once on each statement, with the snapshot of its first line: nothing is left over at the
  end of the file and nothing is checked twice;
* each rule reports at most one finding for each call of the kind it checks. -/
theorem statementRules_run_once_per_statement (s : Settings) (content : List Char) :
    let codeLines := (classifyLines content).filter (·.isCode)
    let hist := (Tracker.start s.entryGuardWindow).history codeLines
    (∀ p ∈ hist.head?, p.2.continuation = false) ∧
    (∀ st ∈ groupStatements hist, st.scope.continuation = false) ∧
    (groupStatements hist).flatMap (·.lines) = codeLines ∧
    ((runPass s (classifyLines content)).finish s).filter (·.code.fromStatementRule) =
      (groupStatements hist).flatMap (statementFindings s) ∧
    OnePerCall securityCall (lookaheadRule s) ∧ OnePerCall entryCall (limitOrderRule s) ∧
      OnePerCall entryCall entryGatingRule := by
  intro codeLines hist
  have hhead : ∀ p ∈ hist.head?, p.2.continuation = false := by
    intro p hp
    cases hcl : codeLines with
    | nil => simp [hist, hcl] at hp
    | cons l ls =>
      simp only [hist, hcl, Tracker.history_cons, List.head?_cons, Option.mem_def,
        Option.some.injEq] at hp
      rw [← hp, Tracker.advance_continuation, Tracker.start_continues]
  refine ⟨hhead, scope_of_mem_groupStatements hhead, ?_, ?_, onePerCall_lookaheadRule s,
    onePerCall_limitOrderRule s, onePerCall_entryGatingRule⟩
  · rw [flatMap_lines_groupStatements, Tracker.map_fst_history]
  · have h := statementPart_run_of_closed s (classifyLines content) (Pass.start s) rfl rfl
    simpa [statementPart, Pass.start, runPass] using h

end PineCheck
