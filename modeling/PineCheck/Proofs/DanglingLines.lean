import PineCheck.Proofs.InsertedLine
import PineCheck.Proofs.BracketReport
/-!
# Dangling lines

A code line dangles when it ends asking for the statement to go on (an operator, a comma, an
open bracket, `and`, `or`, `not`) and the statement does not go on: it is the last code line
of the file, or the next code line does not continue it. `danglingLines` says which lines
dangle from the run of the scope tracker alone.

The linter reports a dangling line by two paths. The line rule on the next code line sees it
through that line's snapshot (`Snapshot.dangling`, the tracker's last code line when it asks
for a continuation) and reports it unless the line continues it; the end of the pass reports
the tracker's last code line when it asks for a continuation (`Tracker.danglingLine`). Over a
run of the tracker the two paths together report each dangling line once, in order
(`danglingReports_eq`), and no other rule reports this code. Blank and comment lines are not
read by the tracker, so they neither hide a dangling line nor report one.

Main statement: `dangling_lines_reported_once`.
-/

namespace PineCheck

open Script Text

/-- The code lines that dangle in a run of the tracker, given as the lines read, each with its
snapshot: a line that asks for a continuation and is the last line read, or is followed by a
line whose snapshot does not continue it. -/
def danglingLines : List (Line × Snapshot) → List Line
  | [] => []
  | (d, _) :: rest =>
    (if endsWithContinuation d.code && rest.head?.all (fun p => !p.2.continuation) then [d]
      else []) ++ danglingLines rest

/-- A dangling line's code asks for a continuation. -/
theorem endsWithContinuation_of_mem_danglingLines :
    ∀ {hs : List (Line × Snapshot)} {d : Line}, d ∈ danglingLines hs → endsWithContinuation d.code = true
  | [], _, h => absurd h List.not_mem_nil
  | (l, _) :: rest, d, h => by
    rw [danglingLines, List.mem_append] at h
    rcases h with h | h
    · split at h
      · rename_i hends
        rw [List.mem_singleton.1 h]
        exact (Bool.and_eq_true_iff.1 hends).1
      · exact absurd h List.not_mem_nil
    · exact endsWithContinuation_of_mem_danglingLines h

/-- The dangling lines of a run are some of its lines, in order. -/
theorem danglingLines_sublist : ∀ hs : List (Line × Snapshot), (danglingLines hs).Sublist (hs.map (·.1))
  | [] => List.Sublist.slnil
  | (d, _) :: rest => by
    rw [danglingLines, List.map_cons]
    split
    · exact (danglingLines_sublist rest).cons_cons d
    · exact (danglingLines_sublist rest).cons d

/-- The finding on a dangling line names the line and its last character that is not blank. -/
theorem danglingFinding_place {d : Line} (h : endsWithContinuation d.code = true) :
    (danglingFinding d).line = d.number ∧ (danglingFinding d).column = (dropBlankEnd d.code).length := by
  have hne : dropBlankEnd d.code ≠ [] := by
    intro hnil
    simp [endsWithContinuation, hnil] at h
  exact ⟨rfl, Nat.max_eq_left (List.length_pos_iff.2 hne)⟩

/-! ## The continuation findings of each rule -/

/-- The continuation findings among a list of findings. -/
def eolPart (ds : List Diagnostic) : List Diagnostic := ds.filter (·.code == .eolContinuation)

/-- No finding has no continuation finding. -/
@[simp] theorem eolPart_nil : eolPart [] = [] := rfl

/-- The continuation findings of findings put together are those of each part. -/
@[simp] theorem eolPart_append (ds es : List Diagnostic) :
    eolPart (ds ++ es) = eolPart ds ++ eolPart es := List.filter_append ds es

/-- Findings with no continuation code have no continuation finding. -/
theorem eolPart_eq_nil {ds : List Diagnostic} (h : ∀ d ∈ ds, d.code ≠ .eolContinuation) :
    eolPart ds = [] :=
  List.filter_eq_nil_iff.2 fun d hd => by simp [h d hd]

/-- The preconditions report only carriage returns and a missing final line feed. -/
theorem code_of_mem_preconditionFindings {content : List Char} {d : Diagnostic}
    (h : d ∈ preconditionFindings content) : d.code = .newline ∨ d.code = .noFinalNewline := by
  unfold preconditionFindings at h
  simp only [List.mem_append] at h
  rcases h with h | h <;> split at h <;> simp_all

/-- The preconditions report no dangling line. -/
@[simp] theorem eolPart_preconditionFindings (content : List Char) :
    eolPart (preconditionFindings content) = [] :=
  eolPart_eq_nil fun _ hd => by
    rcases code_of_mem_preconditionFindings hd with h | h <;> rw [h] <;> decide

/-- The bracket check reports no dangling line. -/
@[simp] theorem eolPart_checkBrackets (codes : List (List Char)) :
    eolPart (checkBrackets codes) = [] :=
  eolPart_eq_nil fun _ hd => by
    obtain ⟨f, -, rfl⟩ := List.mem_map.1 hd
    rw [BracketFault.toDiagnostic_code]
    decide

/-- The text rules report no dangling line. -/
@[simp] theorem eolPart_textFindings (s : Settings) (line : Line) (b : Bool) :
    eolPart (textFindings s line b) = [] :=
  eolPart_eq_nil fun _ hd => by
    rcases code_of_mem_textFindings hd with h | h | h <;> rw [h] <;> decide

/-- The tracker reports no dangling line. -/
@[simp] theorem eolPart_advance_found (t : Tracker) (l : Line) : eolPart (t.advance l).2.1 = [] :=
  eolPart_eq_nil fun _ hd => by
    rw [Tracker.code_of_mem_advance_found hd]
    decide

/-- The statement rules report no dangling line. -/
@[simp] theorem eolPart_flushStatement (s : Settings) (ls : List Line) (sc : Option Snapshot) :
    eolPart (flushStatement s ls sc) = [] :=
  eolPart_eq_nil fun _ hd h => by
    have hstatement := fromStatementRule_of_mem_flushStatement hd
    rw [h] at hstatement
    cases hstatement

/-- The whole-file rules report no dangling line. -/
@[simp] theorem eolPart_fileFindings (s : Settings) (t : Tally) : eolPart (fileFindings s t) = [] :=
  eolPart_eq_nil fun _ hd h => by
    have hfile := fromFileRule_of_mem_fileFindings hd
    rw [h] at hfile
    cases hfile

/-- Of the line rules, only the rule on a dangling line reports continuation findings. -/
@[simp] theorem eolPart_lineFindings (s : Settings) (line : Line) (sc : Snapshot) :
    eolPart (lineFindings s line sc) = eolContinuationRule sc := by
  have hrule : eolPart (eolContinuationRule sc) = eolContinuationRule sc :=
    List.filter_eq_self.2 fun d hd => by simp [code_of_mem_eolContinuationRule hd]
  -- every other line rule reports codes of its own
  have hindent : eolPart (indentRule s line sc) = [] := eolPart_eq_nil fun _ hd => by
    rcases code_of_mem_indentRule hd with h | h <;> rw [h] <;> decide
  have hblock : eolPart (blockIndentRule s line sc) = [] := eolPart_eq_nil fun _ hd => by
    rw [code_of_mem_blockIndentRule hd]; decide
  have hreserved : eolPart (reservedIdentifierRule line sc) = [] := eolPart_eq_nil fun _ hd => by
    rw [code_of_mem_reservedIdentifierRule hd]; decide
  have hglobal : eolPart (globalMutationRule line sc) = [] := eolPart_eq_nil fun _ hd => by
    rw [code_of_mem_globalMutationRule hd]; decide
  have hplot : eolPart (plotScopeRule line sc) = [] := eolPart_eq_nil fun _ hd => by
    rw [code_of_mem_plotScopeRule hd]; decide
  have htick : eolPart (everyTickRule s line) = [] := eolPart_eq_nil fun _ hd => by
    rcases code_of_mem_everyTickRule hd with h | h <;> rw [h] <;> decide
  have hrealtime : eolPart (realtimeRule line) = [] := eolPart_eq_nil fun _ hd => by
    rw [code_of_mem_realtimeRule hd]; decide
  have hinput : eolPart (inputStyleRule s line) = [] := eolPart_eq_nil fun _ hd => by
    rw [code_of_mem_inputStyleRule hd]; decide
  have hmulti : eolPart (multiStatementRule line) = [] := eolPart_eq_nil fun _ hd => by
    rw [code_of_mem_multiStatementRule hd]; decide
  have hlength : eolPart (lineLengthRule s line) = [] := eolPart_eq_nil fun _ hd => by
    rw [code_of_mem_lineLengthRule hd]; decide
  simp only [lineFindings, eolPart_append, hrule, hindent, hblock, hreserved, hglobal, hplot,
    htick, hrealtime, hinput, hmulti, hlength, List.append_nil]

/-! ## Two paths, one report per line -/

/-- The continuation findings of a run of the tracker from `t` over code lines, as the pass
reports them: the line rule at each line read, then the end of the pass. -/
def danglingReports (t : Tracker) (codes : List Line) : List Diagnostic :=
  (t.history codes).flatMap (fun p => eolContinuationRule p.2) ++
    (t.feed codes).danglingLine.toList.map danglingFinding

/-- A tracker's last code line asks for a continuation exactly when it dangles. -/
theorem Tracker.danglingLine_of_lastCode {t : Tracker} {l : Line} (h : t.lastCode = some l) :
    t.danglingLine = if endsWithContinuation l.code then some l else none := by
  simp [Tracker.danglingLine, h]

/-- The line rule at a line reports the last code line before it when that one asks for a
continuation and the line does not continue it. -/
theorem eolContinuationRule_advance (t : Tracker) (l : Line) :
    eolContinuationRule (t.advance l).1 =
      ((t.danglingLine).filter fun _ => !t.continues l).toList.map danglingFinding := by
  unfold eolContinuationRule
  rw [Tracker.advance_dangling, Tracker.advance_continuation]
  cases t.danglingLine <;> cases t.continues l <;> rfl

/-- **Each dangling line of a run is reported once, in order**: the line rule over a run from
`t`, followed by the end of the pass, reports the lines that dangle in the run, after the
tracker's own last line if that one dangles and the run's first line does not continue it. -/
theorem danglingReports_eq (t : Tracker) (codes : List Line) :
    danglingReports t codes =
      ((t.danglingLine).filter fun _ => (t.history codes).head?.all (fun p => !p.2.continuation)).toList.map
          danglingFinding ++
        (danglingLines (t.history codes)).map danglingFinding := by
  induction codes generalizing t with
  | nil =>
    simp only [danglingReports, Tracker.history_nil, Tracker.feed_nil, List.flatMap_nil,
      List.nil_append, danglingLines, List.map_nil, List.append_nil, List.head?_nil]
    cases t.danglingLine <;> rfl
  | cons l ls ih =>
    -- the line read next is the tracker's last code line for the rest of the run
    have hlast := Tracker.danglingLine_of_lastCode (Tracker.advance_lastCode t l)
    have hrest := ih (t.advance l).2.2
    unfold danglingReports at hrest ⊢
    rw [Tracker.history_cons, Tracker.feed_cons, List.flatMap_cons, List.append_assoc, hrest,
      hlast, eolContinuationRule_advance, danglingLines, List.map_append]
    cases hends : endsWithContinuation l.code <;>
      cases (t.advance l).2.2.history ls |>.head?.all (fun p => !p.2.continuation) <;>
      simp [Tracker.advance_continuation, Option.filter]

/-- From the start, the two paths report exactly the dangling lines. -/
theorem danglingReports_start (w : Nat) (codes : List Line) :
    danglingReports (Tracker.start w) codes =
      (danglingLines ((Tracker.start w).history codes)).map danglingFinding := by
  rw [danglingReports_eq]
  rfl

/-! ## The pass -/

/-- The continuation findings of the rest of a pass: those found so far, then those of the
code lines still to read and of the end. -/
theorem eolPart_finish_foldl (s : Settings) (lines : List Line) : ∀ p : Pass,
    eolPart ((lines.foldl (Pass.step s) p).finish s) =
      eolPart p.found ++ danglingReports p.tracker (lines.filter (·.isCode)) := by
  induction lines with
  | nil =>
    intro p
    unfold Pass.finish danglingReports
    simp only [eolPart_append, eolPart_flushStatement, List.append_nil, List.foldl_nil,
      List.filter_nil, Tracker.history_nil, List.flatMap_nil, List.nil_append, Tracker.feed_nil]
    split
    · rename_i d hd
      simp [hd, eolPart, danglingFinding]
    · rename_i hd
      simp [hd]
  | cons line lines ih =>
    intro p
    rw [List.foldl_cons, ih]
    cases hcode : line.isCode
    · -- a blank or comment line adds text findings only
      rw [Pass.step_of_not_code s p line hcode]
      simp [hcode]
    · rw [Pass.step_of_code s p line hcode]
      simp only [eolPart_append, eolPart_textFindings, eolPart_advance_found,
        eolPart_lineFindings, List.filter_cons_of_pos hcode]
      -- joining the statement under way or flushing it adds no continuation finding
      split <;> simp [danglingReports, List.append_assoc]

/-! ## The report -/

/-- Filtering commutes with sorting by line. -/
theorem sortByLine_filter (p : Diagnostic → Bool) (ds : List Diagnostic) :
    sortByLine (ds.filter p) = (sortByLine ds).filter p :=
  Thinned.eq_filter ((Thinned.of_filter p ds).sortByLine fun h => by rw [h.2])

/-- The lines of a file are numbered in increasing order. -/
theorem pairwise_number_classifyLines (content : List Char) :
    (classifyLines content).Pairwise (fun a b => a.number < b.number) := by
  have hnumbers : (classifyLines content).map (·.number) =
      ((physicalLines content).zipIdx.map Prod.snd).map (· + 1) := by
    unfold classifyLines
    rw [List.map_map, List.map_map]
    rfl
  rw [← List.pairwise_map, hnumbers, List.zipIdx_map_snd, List.pairwise_map]
  exact List.Pairwise.imp (fun h => Nat.add_lt_add_right h 1) List.pairwise_lt_range'

/-- **Every dangling line is reported once, and nothing else is.** The continuation findings
of the report are one finding for each code line that asks for a continuation and is the last
code line or is followed by a code line whose snapshot does not continue it, in the order of
the lines; each names its line and the line's last character that is not blank. -/
theorem dangling_lines_reported_once (s : Settings) (content : List Char) :
    (lintContent s content).filter (·.code == .eolContinuation) =
        (danglingLines ((Tracker.start s.entryGuardWindow).history
          ((classifyLines content).filter (·.isCode)))).map danglingFinding ∧
      (danglingLines ((Tracker.start s.entryGuardWindow).history
          ((classifyLines content).filter (·.isCode)))).Pairwise (·.number < ·.number) ∧
      ∀ d ∈ danglingLines ((Tracker.start s.entryGuardWindow).history
          ((classifyLines content).filter (·.isCode))),
        (danglingFinding d).line = d.number ∧
          (danglingFinding d).column = (dropBlankEnd d.code).length := by
  have hordered : (danglingLines ((Tracker.start s.entryGuardWindow).history
      ((classifyLines content).filter (·.isCode)))).Pairwise (·.number < ·.number) := by
    have hsub := danglingLines_sublist ((Tracker.start s.entryGuardWindow).history
      ((classifyLines content).filter (·.isCode)))
    rw [Tracker.map_fst_history] at hsub
    exact (pairwise_number_classifyLines content).sublist (hsub.trans List.filter_sublist)
  refine ⟨?_, hordered, ?_⟩
  · -- only the pass reports continuation findings, and sorting leaves them in place
    have hreport : (lintContent s content).filter (·.code == .eolContinuation) =
        sortByLine (eolPart ((runPass s (classifyLines content)).finish s)) := by
      unfold lintContent
      dsimp only
      rw [List.filter_append, ← sortByLine_filter]
      change sortByLine (eolPart (_ ++ _ ++ _)) ++ eolPart (fileFindings _ _) = _
      simp only [eolPart_append, eolPart_preconditionFindings, eolPart_checkBrackets,
        eolPart_fileFindings, List.nil_append, List.append_nil]
    rw [hreport, runPass, eolPart_finish_foldl]
    change sortByLine (eolPart [] ++ danglingReports (Tracker.start s.entryGuardWindow) _) = _
    rw [eolPart_nil, List.nil_append, danglingReports_start]
    unfold sortByLine
    apply List.mergeSort_of_pairwise
    rw [List.pairwise_map]
    exact hordered.imp fun h => decide_eq_true (Nat.le_of_lt h)
  · intro d hd
    exact danglingFinding_place (endsWithContinuation_of_mem_danglingLines hd)

end PineCheck
