import PineCheck.Proofs.Statements
/-!
# Where a finding points

Every finding names a line, and every rule takes that line from what it reads: the text
rules, the line rules and the tracker report at the line they read; the rule on a dangling
line at the code line before it; the statement rules at a line of their statement
(`Statement.locate` never leaves it); the bracket check at a line it scanned; the
preconditions at the first or the last line.

So a property of line numbers that holds of the first line and of every line read holds of
every finding of the lint pass (`Pass.PointsAt`, kept by each step and by the end of the
pass). With the lines of a file numbered from 1, no finding points before the first line
(`one_le_line_of_mem_lineLevel`).
-/

namespace PineCheck

open Script Text

/-- The one finding made on a line is on that line. -/
theorem line_of_mem_make {c : Code} {m : String} {n col : Nat} {d : Diagnostic}
    (h : d ∈ [Diagnostic.make c m n col]) : d.line = n := by
  rw [List.mem_singleton.1 h]
  rfl

section Rules

variable {s : Settings} {line : Line} {sc : Snapshot} {st : Statement} {d : Diagnostic}

/-! ## Text and line rules: the line read -/

/-- The text rules report at the line they read. -/
theorem line_of_mem_textFindings {b : Bool} (h : d ∈ textFindings s line b) :
    d.line = line.number := by
  unfold textFindings Line.tabFinding Line.trailingSpaceFinding versionFinding at h
  simp only [List.mem_append] at h
  rcases h with (h | h) | h
  · split at h
    · split at h
      · exact line_of_mem_make h
      · simp at h
    · simp at h
  · split at h
    · simp at h
    · split at h
      · simp at h
      · exact line_of_mem_make h
  · split at h
    · split at h
      · simp at h
      · exact line_of_mem_make h
    · simp at h

/-- The finding on a dangling line points at that line, not at the line that fails to
continue it. -/
theorem line_of_mem_eolContinuationRule (h : d ∈ eolContinuationRule sc) :
    ∃ dl, sc.dangling = some dl ∧ d.line = dl.number := by
  unfold eolContinuationRule at h
  split at h
  · rename_i dl hdl
    split at h
    · simp at h
    · exact ⟨dl, hdl, line_of_mem_make h⟩
  · simp at h

/-- The indent rule reports at the line it reads. -/
theorem line_of_mem_indentRule (h : d ∈ indentRule s line sc) : d.line = line.number := by
  unfold indentRule at h
  split at h
  · simp at h
  · exact line_of_mem_make h

/-- The block-indent rule reports at the line it reads. -/
theorem line_of_mem_blockIndentRule (h : d ∈ blockIndentRule s line sc) :
    d.line = line.number := by
  unfold blockIndentRule at h
  split at h
  · split at h
    · simp at h
    · exact line_of_mem_make h
  · simp at h

/-- The reserved-name rule reports at the line it reads. -/
theorem line_of_mem_reservedIdentifierRule (h : d ∈ reservedIdentifierRule line sc) :
    d.line = line.number := by
  unfold reservedIdentifierRule at h
  split at h
  · simp at h
  · split at h
    · dsimp only at h
      split at h
      · exact line_of_mem_make h
      · simp at h
    · simp at h

/-- The global-mutation rule reports at the line it reads. -/
theorem line_of_mem_globalMutationRule (h : d ∈ globalMutationRule line sc) :
    d.line = line.number := by
  unfold globalMutationRule at h
  split at h
  · simp at h
  · obtain ⟨name, -, hname⟩ := List.mem_filterMap.1 h
    obtain ⟨⟨pos, len⟩, -, rfl⟩ := Option.map_eq_some_iff.1 hname
    rfl

/-- The plot-scope rule reports at the line it reads. -/
theorem line_of_mem_plotScopeRule (h : d ∈ plotScopeRule line sc) : d.line = line.number := by
  unfold plotScopeRule at h
  split at h
  · simp at h
  · split at h
    · exact line_of_mem_make h
    · simp at h

/-- The every-tick rule reports at the line it reads. -/
theorem line_of_mem_everyTickRule (h : d ∈ everyTickRule s line) : d.line = line.number := by
  unfold everyTickRule at h
  split at h
  · exact line_of_mem_make h
  · simp at h

/-- The realtime rule reports at the line it reads. -/
theorem line_of_mem_realtimeRule (h : d ∈ realtimeRule line) : d.line = line.number := by
  unfold realtimeRule at h
  split at h
  · exact line_of_mem_make h
  · simp at h

/-- The input-style rule reports at the line it reads. -/
theorem line_of_mem_inputStyleRule (h : d ∈ inputStyleRule s line) : d.line = line.number := by
  unfold inputStyleRule at h
  split at h
  · simp at h
  · split at h
    · exact line_of_mem_make h
    · simp at h

/-- The several-statements rule reports at the line it reads. -/
theorem line_of_mem_multiStatementRule (h : d ∈ multiStatementRule line) :
    d.line = line.number := by
  unfold multiStatementRule at h
  split at h
  · exact line_of_mem_make h
  · simp at h

/-- The line-length rule reports at the line it reads. -/
theorem line_of_mem_lineLengthRule (h : d ∈ lineLengthRule s line) : d.line = line.number := by
  unfold lineLengthRule at h
  dsimp only at h
  split at h
  · simp at h
  · exact line_of_mem_make h

/-- The line rules report at the line they read, but for a dangling line before it. -/
theorem line_of_mem_lineFindings (h : d ∈ lineFindings s line sc) :
    d.line = line.number ∨ ∃ dl, sc.dangling = some dl ∧ d.line = dl.number := by
  simp only [lineFindings, List.mem_append, or_assoc] at h
  rcases h with h | h | h | h | h | h | h | h | h | h | h
  · exact .inr (line_of_mem_eolContinuationRule h)
  · exact .inl (line_of_mem_indentRule h)
  · exact .inl (line_of_mem_blockIndentRule h)
  · exact .inl (line_of_mem_reservedIdentifierRule h)
  · exact .inl (line_of_mem_globalMutationRule h)
  · exact .inl (line_of_mem_plotScopeRule h)
  · exact .inl (line_of_mem_everyTickRule h)
  · exact .inl (line_of_mem_realtimeRule h)
  · exact .inl (line_of_mem_inputStyleRule h)
  · exact .inl (line_of_mem_multiStatementRule h)
  · exact .inl (line_of_mem_lineLengthRule h)

/-! ## Statement rules: a line of the statement -/

/-- A position of a statement's text lies on one of its lines, or past its end on the last. -/
theorem Statement.locateIn_mem {ls : List Line} (hls : ls ≠ []) (offset : Nat) :
    ∃ l ∈ ls, (Statement.locateIn ls offset).1 = l.number := by
  induction ls generalizing offset with
  | nil => exact absurd rfl hls
  | cons l rest ih =>
    cases rest with
    | nil =>
      refine ⟨l, List.mem_cons_self, ?_⟩
      unfold Statement.locateIn
      split <;> rfl
    | cons l' rest' =>
      unfold Statement.locateIn
      split
      · exact ⟨l, List.mem_cons_self, rfl⟩
      · obtain ⟨m, hm, heq⟩ := ih (List.cons_ne_nil _ _) (offset - (l.code.length + 1))
        exact ⟨m, List.mem_cons_of_mem _ hm, heq⟩

/-- A statement finding at an offset is on the line that holds the offset. -/
theorem Statement.line_findingAt (c : Code) (m : String) (offset : Nat) :
    (st.findingAt c m offset).line = (st.locate offset).1 := rfl

/-- Every lookahead finding is made at an offset of its statement. -/
theorem exists_offset_of_mem_lookaheadRule (h : d ∈ lookaheadRule s st) :
    ∃ offset, d = st.findingAt d.code d.message offset := by
  unfold lookaheadRule at h
  obtain ⟨c, -, hc⟩ := List.mem_flatMap.1 h
  split at hc
  · split at hc
    · rw [List.mem_singleton.1 hc]
      exact ⟨_, rfl⟩
    · simp at hc
  · split at hc
    · simp at hc
    · rw [List.mem_singleton.1 hc]
      exact ⟨_, rfl⟩

/-- Every limit-order finding is made at an offset of its statement. -/
theorem exists_offset_of_mem_limitOrderRule (h : d ∈ limitOrderRule s st) :
    ∃ offset, d = st.findingAt d.code d.message offset := by
  unfold limitOrderRule at h
  obtain ⟨c, -, hc⟩ := List.mem_flatMap.1 h
  split at hc
  · split at hc
    · rw [List.mem_singleton.1 hc]
      exact ⟨_, rfl⟩
    · simp at hc
  · split at hc
    · rw [List.mem_singleton.1 hc]
      exact ⟨_, rfl⟩
    · simp at hc

/-- Every entry-gating finding is made at an offset of its statement. -/
theorem exists_offset_of_mem_entryGatingRule (h : d ∈ entryGatingRule st) :
    ∃ offset, d = st.findingAt d.code d.message offset := by
  unfold entryGatingRule at h
  dsimp only at h
  split at h
  · simp at h
  · split at h
    · simp at h
    · obtain ⟨c, -, rfl⟩ := List.mem_map.1 h
      exact ⟨_, rfl⟩

/-- The statement rules report at a line of their statement. -/
theorem line_of_mem_statementFindings (hst : st.lines ≠ []) (h : d ∈ statementFindings s st) :
    ∃ l ∈ st.lines, d.line = l.number := by
  have hoffset : ∃ offset, d = st.findingAt d.code d.message offset := by
    simp only [statementFindings, List.mem_append] at h
    rcases h with (h | h) | h
    · exact exists_offset_of_mem_lookaheadRule h
    · exact exists_offset_of_mem_limitOrderRule h
    · exact exists_offset_of_mem_entryGatingRule h
  obtain ⟨offset, hd⟩ := hoffset
  rw [hd, Statement.line_findingAt]
  exact Statement.locateIn_mem hst offset

end Rules

/-! ## The tracker, the bracket check and the preconditions -/

/-- The tracker reports at the line it reads. -/
theorem line_of_mem_advance_found {t : Tracker} {l : Line} {d : Diagnostic}
    (h : d ∈ (t.advance l).2.1) : d.line = l.number := by
  rw [Tracker.advance_found] at h
  split at h
  · simp at h
  · rw [Tracker.openFrames_snd] at h
    split at h
    · exact line_of_mem_make h
    · simp at h

/-- Erasing an open bracket leaves some of the open brackets, in order. -/
theorem eraseFirstOfKind_sublist {k : Bracket} {xs ys : List OpenBracket}
    (h : eraseFirstOfKind k xs = some ys) : ys.Sublist xs := by
  induction xs generalizing ys with
  | nil => simp [eraseFirstOfKind] at h
  | cons o rest ih =>
    unfold eraseFirstOfKind at h
    split at h
    · obtain rfl := Option.some.inj h
      exact List.sublist_cons_self _ _
    · obtain ⟨rest', hrest', rfl⟩ := Option.map_eq_some_iff.1 h
      exact (ih hrest').cons_cons o

/-- The bracket check reads lines from `first` on; its faults and open brackets keep to them. -/
def BracketScan.LinesFrom (first : Nat) (s : BracketScan) : Prop :=
  (∀ o ∈ s.stack, first ≤ o.line) ∧ ∀ f ∈ s.faults, first ≤ f.toDiagnostic.line

/-- A step of the bracket check at a line from `first` on keeps it to those lines. -/
theorem BracketScan.LinesFrom.step {first line column : Nat} {s : BracketScan}
    (h : s.LinesFrom first) (hline : first ≤ line) (c : Char) :
    (s.step line column c).LinesFrom first := by
  obtain ⟨stack, faults⟩ := s
  obtain ⟨hstack, hfaults⟩ := h
  have hfault : ∀ f : BracketFault, first ≤ f.toDiagnostic.line →
      ∀ g ∈ f :: faults, first ≤ g.toDiagnostic.line := by
    intro f hf g hg
    rcases List.mem_cons.1 hg with rfl | hg
    · exact hf
    · exact hfaults g hg
  unfold BracketScan.step
  split
  · refine ⟨fun o ho => ?_, hfaults⟩
    rcases List.mem_cons.1 ho with rfl | ho
    · exact hline
    · exact hstack o ho
  · split
    · exact ⟨hstack, hfaults⟩
    · cases stack with
      | nil => exact ⟨hstack, hfault _ hline⟩
      | cons top rest =>
        dsimp only
        split
        · exact ⟨fun o ho => hstack o (List.mem_cons_of_mem _ ho), hfaults⟩
        · -- a crossed pair: what stays open was open before
          refine ⟨fun o ho => ?_, hfault _ hline⟩
          split at ho
          · rename_i rest' herase
            rcases List.mem_cons.1 ho with rfl | ho
            · exact hstack _ List.mem_cons_self
            · exact hstack o (List.mem_cons_of_mem _ ((eraseFirstOfKind_sublist herase).subset ho))
          · exact hstack o (List.mem_cons_of_mem _ ho)

/-- Reading a line from `first` on keeps the bracket check to those lines. -/
theorem BracketScan.LinesFrom.readLine {first line : Nat} (hline : first ≤ line) :
    ∀ {s : BracketScan} (column : Nat) (cs : List Char), s.LinesFrom first →
      (s.readLine line column cs).LinesFrom first
  | _, _, [], h => h
  | _, column, c :: cs, h => LinesFrom.readLine hline (column + 1) cs (h.step hline c)

/-- Reading lines numbered from `first` on keeps the bracket check to those lines. -/
theorem BracketScan.LinesFrom.readLines {first : Nat} :
    ∀ {s : BracketScan} (line : Nat) (ls : List (List Char)), first ≤ line → s.LinesFrom first →
      (s.readLines line ls).LinesFrom first
  | _, _, [], _, h => h
  | _, line, l :: ls, hline, h =>
    LinesFrom.readLines (line + 1) ls (Nat.le_succ_of_le hline) (h.readLine hline 1 l)

/-- The bracket check reports at a line from the first on. -/
theorem one_le_line_of_mem_checkBrackets {codes : List (List Char)} {d : Diagnostic}
    (h : d ∈ checkBrackets codes) : 1 ≤ d.line := by
  have hscan : (BracketScan.empty.readLines 1 codes).LinesFrom 1 :=
    BracketScan.LinesFrom.readLines 1 codes (Nat.le_refl 1) ⟨by simp [BracketScan.empty], by simp [BracketScan.empty]⟩
  obtain ⟨f, hf, rfl⟩ := List.mem_map.1 h
  unfold bracketFaults BracketScan.allFaults at hf
  rcases List.mem_append.1 hf with hf | hf
  · exact hscan.2 f (List.mem_reverse.1 hf)
  · split at hf
    · rename_i top _ hstack
      rw [List.mem_singleton.1 hf]
      exact hscan.1 top (by rw [hstack]; exact List.mem_cons_self)
    · simp at hf

/-- The preconditions report at a line from the first on. -/
theorem one_le_line_of_mem_preconditionFindings {content : List Char} {d : Diagnostic}
    (h : d ∈ preconditionFindings content) : 1 ≤ d.line := by
  unfold preconditionFindings at h
  simp only [List.mem_append] at h
  rcases h with h | h
  · split at h
    · exact Nat.le_of_eq (line_of_mem_make h).symm
    · simp at h
  · split at h
    · simp at h
    · rw [line_of_mem_make h]
      exact Nat.le_max_right _ _

/-! ## The lint pass -/

/-- A dangling line is the last code line read. -/
theorem Tracker.lastCode_of_danglingLine {t : Tracker} {d : Line} (h : t.danglingLine = some d) :
    t.lastCode = some d := by
  unfold Tracker.danglingLine at h
  split at h
  · rename_i last hlast
    split at h
    · rw [hlast, h]
    · simp at h
  · simp at h

/-- A property `P` of line numbers that every finding of a pass state has, and the lines of
its statement under way and its last code line, from which later findings take theirs. -/
structure Pass.PointsAt (P : Nat → Prop) (p : Pass) : Prop where
  found : ∀ d ∈ p.found, P d.line
  statement : ∀ l ∈ p.statement, P l.number
  lastCode : ∀ l ∈ p.tracker.lastCode, P l.number

namespace Pass.PointsAt

variable {P : Nat → Prop} {s : Settings} {p : Pass}

/-- The statement rules on the statement under way report at lines of it, which have the property.
-/
theorem flushStatement (h : p.PointsAt P) :
    ∀ d ∈ PineCheck.flushStatement s p.statement p.scope, P d.line := by
  intro d hd
  cases hst : p.statement with
  | nil => simp [PineCheck.flushStatement, hst] at hd
  | cons l ls =>
    cases hsc : p.scope with
    | none => simp [PineCheck.flushStatement, hst, hsc] at hd
    | some sc =>
      rw [hst, hsc] at hd
      have hd' : d ∈ statementFindings s ⟨l :: ls, sc⟩ := hd
      obtain ⟨m, hm, heq⟩ := line_of_mem_statementFindings (List.cons_ne_nil _ _) hd'
      rw [heq]
      exact h.statement m (hst ▸ hm)

/-- **One line keeps the pass pointing at lines with `P`**, when the line has `P`. -/
theorem step (h : p.PointsAt P) {l : Line} (hl : P l.number) : (p.step s l).PointsAt P := by
  cases hcode : l.isCode
  · rw [Pass.step_of_not_code s p l hcode]
    refine ⟨fun d hd => ?_, h.statement, h.lastCode⟩
    rcases List.mem_append.1 hd with hd | hd
    · exact h.found d hd
    · rw [line_of_mem_textFindings hd]
      exact hl
  · rw [Pass.step_of_code s p l hcode]
    refine ⟨fun d hd => ?_, fun m hm => ?_, fun m hm => ?_⟩
    · simp only [List.mem_append] at hd
      rcases hd with (((hd | hd) | hd) | hd) | hd
      · exact h.found d hd
      · rw [line_of_mem_textFindings hd]
        exact hl
      · rw [line_of_mem_advance_found hd]
        exact hl
      · split at hd
        · simp at hd
        · exact h.flushStatement d hd
      · rcases line_of_mem_lineFindings hd with heq | ⟨dl, hdl, heq⟩
        · rw [heq]
          exact hl
        · -- the dangling line is the tracker's last code line
          rw [heq]
          rw [Tracker.advance_dangling] at hdl
          exact h.lastCode dl (Tracker.lastCode_of_danglingLine hdl)
    · dsimp only at hm
      split at hm
      · rcases List.mem_append.1 hm with hm | hm
        · exact h.statement m hm
        · rw [List.mem_singleton.1 hm]
          exact hl
      · rw [List.mem_singleton.1 hm]
        exact hl
    · rw [Tracker.advance_lastCode, Option.mem_def, Option.some.injEq] at hm
      rw [← hm]
      exact hl

/-- The findings after the last line keep to `P`: the last statement's and a dangling last
line's. -/
theorem finish (h : p.PointsAt P) : ∀ d ∈ p.finish s, P d.line := by
  intro d hd
  simp only [Pass.finish, List.mem_append] at hd
  rcases hd with (hd | hd) | hd
  · exact h.found d hd
  · exact h.flushStatement d hd
  · split at hd
    · rename_i last hlast
      rw [List.mem_singleton.1 hd]
      exact h.lastCode last (Tracker.lastCode_of_danglingLine hlast)
    · simp at hd

end Pass.PointsAt

/-- A property of every line read holds of every finding of the pass over them. -/
theorem pointsAt_runPass {P : Nat → Prop} (s : Settings) {ls : List Line}
    (hls : ∀ l ∈ ls, P l.number) : (runPass s ls).PointsAt P := by
  unfold runPass
  suffices hrun : ∀ p : Pass, p.PointsAt P → (ls.foldl (Pass.step s) p).PointsAt P from
    hrun _ ⟨by simp [Pass.start], by simp [Pass.start], by simp [Pass.start, Tracker.start]⟩
  induction ls with
  | nil => exact fun _ h => h
  | cons l ls ih =>
    intro p h
    exact ih (fun m hm => hls m (List.mem_cons_of_mem _ hm)) _
      (h.step (hls l List.mem_cons_self))

/-- The lines of a file are numbered from 1. -/
theorem one_le_number_of_mem_classifyLines {content : List Char} {l : Line}
    (h : l ∈ classifyLines content) : 1 ≤ l.number := by
  obtain ⟨⟨text, i⟩, -, rfl⟩ := List.mem_map.1 h
  exact Nat.le_add_left 1 i

/-- **No finding points before the first line.** -/
theorem one_le_line_of_mem_lineLevel (s : Settings) (content : List Char) {d : Diagnostic}
    (h : d ∈ preconditionFindings content ++ checkBrackets ((classifyLines content).map (·.code)) ++
      (runPass s (classifyLines content)).finish s) : 1 ≤ d.line := by
  rcases List.mem_append.1 h with h | h
  · rcases List.mem_append.1 h with h | h
    · exact one_le_line_of_mem_preconditionFindings h
    · exact one_le_line_of_mem_checkBrackets h
  · exact (pointsAt_runPass s fun _ hl => one_le_number_of_mem_classifyLines hl).finish d h

end PineCheck
