import PineCheck.Proofs.InsideLines
/-!
# The version line

A script starts with its version line: the first line that is not blank must read
`//@version=N` once stripped of blanks, for the version `N` of the settings. Two rules check
it, at different times. The text rule looks at the first line that is not blank while the pass
reads it; the pass knows that line is the first from the tally before the line is counted.
The whole-file rule looks at the tally after the pass, and reports a file with no line but
blank ones. Only blank lines are passed over: a comment line is the first line that is not
blank as much as a code line is.

So which rule reports depends only on the first line that is not blank
(`findingsOf_version_lintContent`): with none, the whole-file rule reports the file at its
start; with one that does not read as the version line, the text rule reports that line at its
first column; with one that does, neither rule reports anything. The report holds at most one
version finding.

Main statement: `version_checked_on_first_nonblank_line`.
-/

namespace PineCheck

open Text

/-- The first line of a list that is not blank. -/
def firstNonblankLine (lines : List Line) : Option Line := lines.find? (·.kind != .blank)

/-- No line has no first line that is not blank. -/
@[simp] theorem firstNonblankLine_nil : firstNonblankLine [] = none := rfl

/-- The first line that is not blank is the first line, unless it is blank. -/
theorem firstNonblankLine_cons (l : Line) (ls : List Line) :
    firstNonblankLine (l :: ls) = if l.kind = .blank then firstNonblankLine ls else some l := by
  by_cases h : l.kind = .blank <;> simp [firstNonblankLine, h]

/-! ## Findings by code -/

/-- The findings with code `c` among a list of findings. -/
def findingsOf (c : Code) (ds : List Diagnostic) : List Diagnostic := ds.filter (·.code == c)

/-- No finding has none of a code. -/
@[simp] theorem findingsOf_nil (c : Code) : findingsOf c [] = [] := rfl

/-- The findings of a code among findings put together are those of each part. -/
@[simp] theorem findingsOf_append (c : Code) (ds es : List Diagnostic) :
    findingsOf c (ds ++ es) = findingsOf c ds ++ findingsOf c es := List.filter_append ds es

/-- Findings of other codes have none of the code. -/
theorem findingsOf_eq_nil {c : Code} {ds : List Diagnostic} (h : ∀ d ∈ ds, d.code ≠ c) :
    findingsOf c ds = [] :=
  List.filter_eq_nil_iff.2 fun d hd => by simp [h d hd]

/-- Findings all of the code are all kept. -/
theorem findingsOf_eq_self {c : Code} {ds : List Diagnostic} (h : ∀ d ∈ ds, d.code = c) :
    findingsOf c ds = ds :=
  List.filter_eq_self.2 fun d hd => by simp [h d hd]

/-- The findings of a code that no line rule reports are none of the line rules'. -/
theorem findingsOf_lineFindings {c : Code} (hc : c.fromLineRule = false) (s : Settings)
    (l : Line) (sc : Snapshot) : findingsOf c (lineFindings s l sc) = [] :=
  findingsOf_eq_nil fun _ hd h => by
    have hline := fromLineRule_of_mem_lineFindings hd
    rw [h, hc] at hline
    cases hline

/-- The findings of a code that no statement rule reports are none of a statement's. -/
theorem findingsOf_flushStatement {c : Code} (hc : c.fromStatementRule = false) (s : Settings)
    (ls : List Line) (sc : Option Snapshot) : findingsOf c (flushStatement s ls sc) = [] :=
  findingsOf_eq_nil fun _ hd h => by
    have hstatement := fromStatementRule_of_mem_flushStatement hd
    rw [h, hc] at hstatement
    cases hstatement

/-- One line of the pass adds, of a code that neither the tracker nor a line or statement rule
reports, only what the text rules find on the line. -/
theorem findingsOf_step {c : Code} (hs : c.fromStatementRule = false)
    (hl : c.fromLineRule = false) (hn : c ≠ .nestedLoop) (s : Settings) (p : Pass) (l : Line) :
    findingsOf c (p.step s l).found = findingsOf c p.found ++
      findingsOf c (textFindings s l (p.tally.firstNonblank.isNone && l.kind != .blank)) := by
  have htracker : findingsOf c (p.tracker.advance l).2.1 = [] :=
    findingsOf_eq_nil fun _ hd h => hn (by rw [← h, Tracker.code_of_mem_advance_found hd])
  cases hcode : l.isCode
  · rw [Pass.step_of_not_code s p l hcode, findingsOf_append]
  · rw [Pass.step_of_code s p l hcode]
    dsimp only
    -- the statement flushed here, if any, reports codes of the statement rules only
    have hflush : findingsOf c (if (p.tracker.advance l).1.continuation && !p.statement.isEmpty
        then [] else flushStatement s p.statement p.scope) = [] := by
      split
      · rfl
      · exact findingsOf_flushStatement hs s _ _
    simp only [findingsOf_append, htracker, hflush, findingsOf_lineFindings hl, List.append_nil]

/-- The end of the pass adds nothing of a code that neither a statement rule nor the rule on a
dangling line reports. -/
theorem findingsOf_finish {c : Code} (hs : c.fromStatementRule = false)
    (he : c ≠ .eolContinuation) (s : Settings) (p : Pass) :
    findingsOf c (p.finish s) = findingsOf c p.found := by
  have hdangling : findingsOf c (p.tracker.danglingLine.toList.map danglingFinding) = [] :=
    findingsOf_eq_nil fun _ hd h => by
      obtain ⟨dl, -, rfl⟩ := List.mem_map.1 hd
      exact he (by rw [← h]; rfl)
  unfold Pass.finish
  rw [findingsOf_append, findingsOf_append, findingsOf_flushStatement hs s _ _]
  cases hdl : p.tracker.danglingLine <;> simp_all

/-! ## The version findings of each rule -/

section Version

variable (s : Settings)

/-- The text rules report a version finding only on the first line that is not blank. -/
theorem findingsOf_version_textFindings (l : Line) (b : Bool) :
    findingsOf .version (textFindings s l b) = if b then versionFinding s l else [] := by
  have htab : findingsOf .version (if s.disallowTabs then l.tabFinding else []) = [] :=
    findingsOf_eq_nil fun d hd => by
      split at hd
      · rw [code_of_mem_tabFinding hd]; decide
      · simp at hd
  have htrailing : findingsOf .version l.trailingSpaceFinding = [] :=
    findingsOf_eq_nil fun d hd => by rw [code_of_mem_trailingSpaceFinding hd]; decide
  have hversion : findingsOf .version (versionFinding s l) = versionFinding s l :=
    findingsOf_eq_self fun _ hd => code_of_mem_versionFinding hd
  unfold textFindings
  rw [findingsOf_append, findingsOf_append, htab, htrailing]
  cases b <;> simp [hversion]

/-- Of the whole-file rules, only the rule on a file with no line but blank ones reports a
version finding. -/
theorem findingsOf_version_fileFindings (t : Tally) :
    findingsOf .version (fileFindings s t) = versionPresentRule s t := by
  have hpresent : findingsOf .version (versionPresentRule s t) = versionPresentRule s t :=
    findingsOf_eq_self fun _ hd => code_of_mem_versionPresentRule hd
  have hcount : findingsOf .version (declarationCountRule t) = [] := findingsOf_eq_nil fun _ hd => by
    rcases code_of_mem_declarationCountRule hd with h | h <;> rw [h] <;> decide
  have horder : findingsOf .version (declarationOrderRule t) = [] := findingsOf_eq_nil fun _ hd => by
    rw [code_of_mem_declarationOrderRule hd]; decide
  have hinputs : findingsOf .version (inputCeilingRule s t) = [] := findingsOf_eq_nil fun _ hd => by
    rw [code_of_mem_inputCeilingRule hd]; decide
  have hsecurity : findingsOf .version (securityCeilingRule s t) = [] :=
    findingsOf_eq_nil fun _ hd => by rw [code_of_mem_securityCeilingRule hd]; decide
  have hcancel : findingsOf .version (cancelPresenceRule t) = [] := findingsOf_eq_nil fun _ hd => by
    rw [code_of_mem_cancelPresenceRule hd]; decide
  simp only [fileFindings, findingsOf_append, hpresent, hcount, horder, hinputs, hsecurity,
    hcancel, List.append_nil]

/-- One line of the pass adds the text rule's version finding on it when it is the first line
that is not blank, and nothing else of that code. -/
theorem findingsOf_version_step (p : Pass) (l : Line) :
    findingsOf .version (p.step s l).found = findingsOf .version p.found ++
      if p.tally.firstNonblank.isNone && l.kind != .blank then versionFinding s l else [] := by
  rw [findingsOf_step rfl rfl (by decide) s p l, findingsOf_version_textFindings]

/-- **The text rule over a run.** The rest of a pass adds one version finding at most: the
text rule's on the first line that is not blank, if the pass has not yet read such a line. -/
theorem findingsOf_version_finish_foldl (lines : List Line) : ∀ p : Pass,
    findingsOf .version ((lines.foldl (Pass.step s) p).finish s) =
      findingsOf .version p.found ++
        if p.tally.firstNonblank.isNone then (firstNonblankLine lines).elim [] (versionFinding s)
        else [] := by
  induction lines with
  | nil =>
    intro p
    rw [List.foldl_nil, findingsOf_finish rfl (by decide), firstNonblankLine_nil]
    simp
  | cons l ls ih =>
    intro p
    rw [List.foldl_cons, ih, findingsOf_version_step, Pass.step_tally,
      Tally.isNone_observe_firstNonblank, firstNonblankLine_cons, List.append_assoc]
    -- a blank line changes nothing; the first line that is not blank is reported or not, and
    -- after it the tally has a first line
    by_cases hblank : l.kind = .blank
    · simp [hblank]
    · cases p.tally.firstNonblank.isNone <;> simp [hblank]

end Version

/-! ## The report -/

/-- Sorting by line leaves a list of at most one finding as it is. -/
theorem sortByLine_of_length_le_one {ds : List Diagnostic} (h : ds.length ≤ 1) :
    sortByLine ds = ds := by
  cases ds with
  | nil => exact sortByLine_nil
  | cons d rest =>
    cases rest with
    | nil => exact List.mergeSort_singleton d
    | cons e rest => simp at h

/-- What the text rule does with a line: nothing when the line, stripped of blanks, is the
version line, and otherwise one finding at its first column. -/
theorem versionFinding_cases (s : Settings) (l : Line) :
    (trimBlank l.text = (versionMarker s).toList ∧ versionFinding s l = []) ∨
      (trimBlank l.text ≠ (versionMarker s).toList ∧
        ∃ m, versionFinding s l = [Diagnostic.make .version m l.number 1]) := by
  unfold versionFinding
  dsimp only
  split_ifs with h
  · exact .inl ⟨beq_iff_eq.1 h, rfl⟩
  -- the message depends on whether the line starts as a version line; its place does not
  all_goals exact .inr ⟨fun h' => h (beq_iff_eq.2 h'), _, rfl⟩

/-- The version check reports at most one finding. -/
theorem length_versionFinding_le (s : Settings) (l : Line) : (versionFinding s l).length ≤ 1 := by
  rcases versionFinding_cases s l with ⟨-, h⟩ | ⟨-, m, h⟩ <;> rw [h] <;> simp

/-- **The version findings of a report.** With no line but blank ones, the whole-file rule's
finding at the start of the file; otherwise the text rule's finding on the first line that is
not blank, if any. -/
theorem findingsOf_version_lintContent (s : Settings) (content : List Char) :
    findingsOf .version (lintContent s content) =
      (firstNonblankLine (classifyLines content)).elim
        [Diagnostic.make .version ("Missing " ++ versionMarker s ++ " declaration.") 1 1]
        (versionFinding s) := by
  have hpass := findingsOf_version_finish_foldl s (classifyLines content) (Pass.start s)
  rw [show (Pass.start s).found = [] from rfl,
    show (Pass.start s).tally.firstNonblank.isNone = true from rfl, if_pos rfl, findingsOf_nil,
    List.nil_append] at hpass
  have hlines : findingsOf .version (preconditionFindings content ++
      checkBrackets ((classifyLines content).map (·.code)) ++
      (runPass s (classifyLines content)).finish s) =
      (firstNonblankLine (classifyLines content)).elim [] (versionFinding s) := by
    have hpre : findingsOf .version (preconditionFindings content) = [] :=
      findingsOf_eq_nil fun _ hd => by
        rcases code_of_mem_preconditionFindings hd with h | h <;> rw [h] <;> decide
    have hbrackets : findingsOf .version (checkBrackets ((classifyLines content).map (·.code))) = [] :=
      findingsOf_eq_nil fun _ hd => by
        obtain ⟨f, -, rfl⟩ := List.mem_map.1 hd
        rw [BracketFault.toDiagnostic_code]
        decide
    rw [findingsOf_append, findingsOf_append, hpre, hbrackets, runPass, hpass]
    rfl
  -- the whole-file rule reports exactly when the pass has met no line that is not blank
  have hfile : versionPresentRule s (runPass s (classifyLines content)).tally =
      (firstNonblankLine (classifyLines content)).elim
        [Diagnostic.make .version ("Missing " ++ versionMarker s ++ " declaration.") 1 1]
        (fun _ => []) := by
    have hnone := runPass_isNone_firstNonblank s (classifyLines content)
    unfold versionPresentRule
    cases hfirst : firstNonblankLine (classifyLines content) with
    | none =>
      have hall : (classifyLines content).all (·.kind == .blank) = true := by
        simpa [firstNonblankLine, List.find?_eq_none] using hfirst
      rw [hall, Option.isNone_iff_eq_none] at hnone
      simp [hnone]
    | some l =>
      have hall : (classifyLines content).all (·.kind == .blank) = false := by
        have hl := List.find?_some hfirst
        have hmem := List.mem_of_find?_eq_some hfirst
        simp only [List.all_eq_false]
        exact ⟨l, hmem, by simpa using hl⟩
      rw [hall, Option.isNone_eq_false_iff] at hnone
      simp [hnone]
  unfold lintContent
  dsimp only
  rw [findingsOf_append, findingsOf_version_fileFindings, hfile]
  unfold findingsOf
  rw [← sortByLine_filter]
  change sortByLine (findingsOf .version _) ++ _ = _
  rw [hlines]
  cases firstNonblankLine (classifyLines content) with
  | none => simp
  | some l => simp [sortByLine_of_length_le_one (length_versionFinding_le s l)]

/-- The text rule is silent exactly on the version line, and otherwise reports the line at its
first column. -/
theorem versionFinding_eq (s : Settings) (l : Line) :
    (versionFinding s l = [] ↔ trimBlank l.text = (versionMarker s).toList) ∧
      ∀ d ∈ versionFinding s l, d.line = l.number ∧ d.column = 1 := by
  rcases versionFinding_cases s l with ⟨hmarker, h⟩ | ⟨hmarker, m, h⟩ <;> rw [h]
  · exact ⟨iff_of_true rfl hmarker, by simp⟩
  · refine ⟨iff_of_false (List.cons_ne_nil _ _) hmarker, fun d hd => ?_⟩
    rw [List.mem_singleton.1 hd]
    exact ⟨rfl, rfl⟩

/-- **The version line is checked once, on the first line that is not blank.** Of the findings
that linting returns, those of the version code are:

* for a file with no line but blank ones, one finding of the whole-file rule, at line 1,
  column 1;
* otherwise the text rule's on the first line that is not blank: none when that line, stripped
  of blanks, is `//@version=N`, and else one, on that line at column 1.

So the report holds at most one, the two rules never both report, and both stay silent exactly
when the first line that is not blank is the version line. -/
theorem version_checked_on_first_nonblank_line (s : Settings) (content : List Char)
    (ds : List Diagnostic) (h : lintText s content = .ok ds) :
    ds.filter (·.code == .version) =
        (firstNonblankLine (classifyLines content)).elim
          [Diagnostic.make .version ("Missing " ++ versionMarker s ++ " declaration.") 1 1]
          (versionFinding s) ∧
      (ds.filter (·.code == .version)).length ≤ 1 ∧
      (ds.filter (·.code == .version) = [] ↔
        ∃ l, firstNonblankLine (classifyLines content) = some l ∧
          trimBlank l.text = (versionMarker s).toList) ∧
      ∀ l, firstNonblankLine (classifyLines content) = some l →
        ∀ d ∈ versionFinding s l, d.line = l.number ∧ d.column = 1 := by
  have hreport : ds.filter (·.code == .version) =
      (firstNonblankLine (classifyLines content)).elim
        [Diagnostic.make .version ("Missing " ++ versionMarker s ++ " declaration.") 1 1]
        (versionFinding s) := by
    rw [eq_lintContent_of_lintText h]
    exact findingsOf_version_lintContent s content
  refine ⟨hreport, ?_, ?_, fun l _ => (versionFinding_eq s l).2⟩
  · rw [hreport]
    cases firstNonblankLine (classifyLines content) with
    | none => exact Nat.le_refl 1
    | some l => exact length_versionFinding_le s l
  · rw [hreport]
    cases firstNonblankLine (classifyLines content) with
    | none => simp
    | some l => simp [(versionFinding_eq s l).1]

/-- `version_checked_on_first_nonblank_line` on a script that opens with a blank line, a line
of blanks and a comment, under the default settings: the comment is the line checked. -/
theorem version_checked_on_first_nonblank_line_comment_first :
    lintText Settings.default "\n  \n// notes\n//@version=6\n".toList =
        .ok (lintContent Settings.default "\n  \n// notes\n//@version=6\n".toList) ∧
      (lintContent Settings.default "\n  \n// notes\n//@version=6\n".toList).filter
          (·.code == .version) =
        (firstNonblankLine (classifyLines "\n  \n// notes\n//@version=6\n".toList)).elim
          [Diagnostic.make .version ("Missing " ++ versionMarker Settings.default ++ " declaration.") 1 1]
          (versionFinding Settings.default) :=
  ⟨lintText_default _,
    (version_checked_on_first_nonblank_line Settings.default _ _ (lintText_default _)).1⟩

/-- A script whose first line is the version line has no version finding: neither the text
rule nor the whole-file rule reports. -/
theorem version_rules_both_silent_on_version_line :
    lintText Settings.default "//@version=6\nindicator(\"i\")\n".toList =
        .ok (lintContent Settings.default "//@version=6\nindicator(\"i\")\n".toList) ∧
      findingsOf .version (lintContent Settings.default "//@version=6\nindicator(\"i\")\n".toList) =
        [] := by
  refine ⟨lintText_default _, ?_⟩
  rw [findingsOf_version_lintContent]
  decide

end PineCheck
