import PineCheck.Proofs.DanglingLines
import PineCheck.Proofs.CommentEdit
import PineCheck.Proofs.Ceilings
/-!
# Every finding points inside the file

A finding names a line and a column. Every rule takes the line from what it read: the line it
reads, the dangling line before it, a line of its statement, a line the bracket check
scanned, a line the tally recorded, or the first or the last line of the file. It takes the
column from that line too: a position in the line's code, the place after its indent, one past
a length limit that the line's code exceeds, one past the end of the line, or column 1.

`Diagnostic.PointsInto l d` says that a finding names line `l` and a column from 1 to one past
the end of `l`'s text. Each rule's findings point into the line it read; the pass keeps all
its findings pointing into lines of the file, as it keeps the lines of its statement and its
last code line among them (`Pass.Within`); the tally keeps the lines and places it records
among them (`Tally.Within`). So every finding of the report points into a line of the file
(`mem_lintContent_pointsInto`), and every finding that linting returns points inside the
physical lines of the text or just past the end of one (`findings_point_into_file`).
-/

namespace PineCheck

open Script Text

/-! ## Lines and places -/

/-- A line whose code and indent are no longer than its text, as every classified line. -/
structure Line.Fits (l : Line) : Prop where
  code_le : l.code.length ≤ l.text.length
  indent_le : l.indent ≤ l.text.length

/-- Every classified line fits: its code and its indent are prefixes of its text. -/
theorem Line.fits_classify (n : Nat) (text : List Char) : (Line.classify n text).Fits :=
  ⟨(isPrefix_stripComment text).length_le, (List.takeWhile_prefix _).length_le⟩

/-- Every line of a text fits. -/
theorem fits_of_mem_classifyLines {content : List Char} {l : Line}
    (h : l ∈ classifyLines content) : l.Fits := by
  obtain ⟨⟨text, i⟩, -, rfl⟩ := List.mem_map.1 h
  exact Line.fits_classify _ _

/-- A finding points into line `l`: it names `l`'s number, and a column from 1 to one past the
end of `l`'s text. -/
def Diagnostic.PointsInto (l : Line) (d : Diagnostic) : Prop :=
  d.line = l.number ∧ 1 ≤ d.column ∧ d.column ≤ l.text.length + 1

/-- A finding made on a line at a column within it points into the line. -/
theorem Diagnostic.pointsInto_make {l : Line} {column : Nat} (h : column ≤ l.text.length + 1)
    (c : Code) (m : String) : (Diagnostic.make c m l.number column).PointsInto l :=
  ⟨rfl, Nat.le_max_right _ _, Nat.max_le.2 ⟨h, Nat.le_add_left 1 _⟩⟩

/-- The one finding a rule makes on a line at a column within it points into the line. -/
theorem pointsInto_of_mem_make {l : Line} {column : Nat} {c : Code} {m : String} {d : Diagnostic}
    (h : d ∈ [Diagnostic.make c m l.number column]) (hcol : column ≤ l.text.length + 1) :
    d.PointsInto l := by
  rw [List.mem_singleton.1 h]
  exact Diagnostic.pointsInto_make hcol c m

/-! ## Where a probe accepts -/

/-- A match found from index `i` on starts no later than the end of the text searched. -/
theorem le_of_searchFrom_eq_some {p : Probe} :
    ∀ {cs : List Char} {prev : Option Char} {i pos len : Nat},
      searchFrom p prev cs i = some (pos, len) → pos ≤ i + cs.length
  | [], prev, i, pos, len, h => by
    unfold searchFrom at h
    split at h
    · simp only [Option.some.injEq, Prod.mk.injEq] at h
      omega
    · simp at h
  | c :: cs, prev, i, pos, len, h => by
    unfold searchFrom at h
    split at h
    · simp only [Option.some.injEq, Prod.mk.injEq] at h
      omega
    · have hle := le_of_searchFrom_eq_some h
      simp only [List.length_cons]
      omega

/-- A probe accepts at a position of the text or at its end. -/
theorem le_length_of_search_eq_some {p : Probe} {cs : List Char} {pos len : Nat}
    (h : search p cs = some (pos, len)) : pos ≤ cs.length := by
  have hle := le_of_searchFrom_eq_some h
  omega

/-- Every match found from index `i` on starts no later than the end of the text searched. -/
theorem le_of_mem_matchesFrom {p : Probe} :
    ∀ {cs : List Char} {prev : Option Char} {i pos len : Nat},
      (pos, len) ∈ matchesFrom p prev cs i → pos ≤ i + cs.length
  | [], prev, i, pos, len, h => by
    unfold matchesFrom at h
    split at h
    · simp only [List.mem_singleton, Prod.mk.injEq] at h
      omega
    · simp at h
  | c :: cs, prev, i, pos, len, h => by
    unfold matchesFrom at h
    rw [List.mem_append] at h
    rcases h with h | h
    · split at h
      · simp only [List.mem_singleton, Prod.mk.injEq] at h
        omega
      · simp at h
    · have hle := le_of_mem_matchesFrom h
      simp only [List.length_cons]
      omega

/-- Every match in a text starts no later than its end. -/
theorem le_length_of_mem_allMatches {p : Probe} {cs : List Char} {pos len : Nat}
    (h : (pos, len) ∈ allMatches p cs) : pos ≤ cs.length := by
  have hle := le_of_mem_matchesFrom h
  omega

/-- Dropping the blanks at the end of a text does not make it longer. -/
theorem length_dropBlankEnd_le (cs : List Char) : (dropBlankEnd cs).length ≤ cs.length :=
  (isPrefix_dropBlankEnd cs).length_le

/-- The target of an assignment starts inside the code: a name follows it. -/
theorem lt_length_of_assignmentTarget {cs name : List Char} {pos : Nat}
    (h : assignmentTarget cs = some (name, pos)) : pos < cs.length := by
  have hne : ∀ {rest : List Char} {n : List Char}, assignedName rest = some n → rest ≠ [] := by
    rintro rest n hn rfl
    simp [assignedName, nameLength] at hn
  obtain ⟨start, -, hstart⟩ := List.exists_of_findSome?_eq_some h
  unfold targetAt at hstart
  dsimp only at hstart
  split at hstart
  · -- a typed target: the name starts after the type
    rename_i r htyped
    split at htyped
    · rename_i t ht
      obtain ⟨n, hn, hr⟩ := Option.map_eq_some_iff.1 htyped
      rw [← hr, Option.some.injEq, Prod.mk.injEq] at hstart
      have hrest := hne hn
      rw [List.drop_drop, Ne, List.drop_eq_nil_iff] at hrest
      omega
    · simp at htyped
  · obtain ⟨n, hn, hr⟩ := Option.map_eq_some_iff.1 hstart
    simp only [Prod.mk.injEq] at hr
    have hrest := hne hn
    rw [Ne, List.drop_eq_nil_iff] at hrest
    omega

/-! ## The rules on a line -/

section Rules

variable {s : Settings} {line : Line} {sc : Snapshot} {d : Diagnostic}

/-- A tab finding points at the first tab of its line. -/
theorem pointsInto_of_mem_tabFinding (h : d ∈ line.tabFinding) : d.PointsInto line := by
  unfold Line.tabFinding at h
  split at h
  · rename_i i hi
    obtain ⟨hlt, -⟩ := List.idxOf?_eq_some_iff.1 hi
    exact pointsInto_of_mem_make h (by omega)
  · simp at h

/-- A trailing-blanks finding points at the first of the blanks at the end of its line. -/
theorem pointsInto_of_mem_trailingSpaceFinding (h : d ∈ line.trailingSpaceFinding) :
    d.PointsInto line := by
  unfold Line.trailingSpaceFinding at h
  split at h
  · simp at h
  · dsimp only at h
    split at h
    · simp at h
    · exact pointsInto_of_mem_make h (by omega)

/-- Every text-rule finding points into its line. -/
theorem pointsInto_of_mem_textFindings {b : Bool} (h : d ∈ textFindings s line b) :
    d.PointsInto line := by
  simp only [textFindings, List.mem_append] at h
  rcases h with (h | h) | h
  · split at h
    · exact pointsInto_of_mem_tabFinding h
    · simp at h
  · exact pointsInto_of_mem_trailingSpaceFinding h
  · split at h
    · unfold versionFinding at h
      dsimp only at h
      split at h
      · simp at h
      · exact pointsInto_of_mem_make h (Nat.le_add_left 1 _)
    · simp at h

/-- The finding on a dangling line points into that line, at its last character that is not
blank. -/
theorem pointsInto_of_mem_eolContinuationRule (hfits : ∀ dl ∈ sc.dangling, dl.Fits)
    (h : d ∈ eolContinuationRule sc) : ∃ dl ∈ sc.dangling, d.PointsInto dl := by
  unfold eolContinuationRule at h
  split at h
  · rename_i dl hdl
    split at h
    · simp at h
    · have hfit := hfits dl hdl
      refine ⟨dl, hdl, pointsInto_of_mem_make h ?_⟩
      have := length_dropBlankEnd_le dl.code
      have := hfit.code_le
      omega
  · simp at h

/-- A finding at a position of the code, or one past its end. -/
theorem pointsInto_of_mem_code {pos : Nat} {c : Code} {m : String} (hfit : line.Fits)
    (hpos : pos ≤ line.code.length) (h : d ∈ [Diagnostic.make c m line.number (pos + 1)]) :
    d.PointsInto line :=
  pointsInto_of_mem_make h (by have := hfit.code_le; omega)

/-- A finding of a rule that searches the code, at the position the probe accepts. -/
theorem pointsInto_of_search {p : Probe} {pos len : Nat} {c : Code} {m : String}
    (hfit : line.Fits) (hpos : search p line.code = some (pos, len))
    (h : d ∈ [Diagnostic.make c m line.number (pos + 1)]) : d.PointsInto line :=
  pointsInto_of_mem_code hfit (le_length_of_search_eq_some hpos) h

/-- An indent that is no multiple of the unit is reported at column 1. -/
theorem pointsInto_of_mem_indentRule (h : d ∈ indentRule s line sc) : d.PointsInto line := by
  unfold indentRule at h
  split at h
  · simp at h
  · exact pointsInto_of_mem_make h (Nat.le_add_left 1 _)

/-- A block's first statement is reported after its indent. -/
theorem pointsInto_of_mem_blockIndentRule (hfit : line.Fits) (h : d ∈ blockIndentRule s line sc) :
    d.PointsInto line := by
  unfold blockIndentRule at h
  split at h
  · split at h
    · simp at h
    · exact pointsInto_of_mem_make h (by have := hfit.indent_le; omega)
  · simp at h

/-- A reserved-name finding points into its line. -/
theorem pointsInto_of_mem_reservedIdentifierRule (hfit : line.Fits)
    (h : d ∈ reservedIdentifierRule line sc) : d.PointsInto line := by
  unfold reservedIdentifierRule at h
  split at h
  · simp at h
  · split at h
    · rename_i name pos htarget
      dsimp only at h
      split at h
      · exact pointsInto_of_mem_code hfit (Nat.le_of_lt (lt_length_of_assignmentTarget htarget)) h
      · simp at h
    · simp at h

/-- A global-mutation finding points into its line. -/
theorem pointsInto_of_mem_globalMutationRule (hfit : line.Fits)
    (h : d ∈ globalMutationRule line sc) : d.PointsInto line := by
  unfold globalMutationRule at h
  split at h
  · simp at h
  · obtain ⟨name, -, hname⟩ := List.mem_filterMap.1 h
    obtain ⟨⟨pos, len⟩, hpos, rfl⟩ := Option.map_eq_some_iff.1 hname
    exact pointsInto_of_search hfit hpos List.mem_cons_self

/-- A plot-scope finding points into its line. -/
theorem pointsInto_of_mem_plotScopeRule (hfit : line.Fits) (h : d ∈ plotScopeRule line sc) :
    d.PointsInto line := by
  unfold plotScopeRule at h
  split at h
  · simp at h
  · split at h
    · exact pointsInto_of_search hfit ‹_› h
    · simp at h

/-- An every-tick finding points into its line. -/
theorem pointsInto_of_mem_everyTickRule (hfit : line.Fits) (h : d ∈ everyTickRule s line) :
    d.PointsInto line := by
  unfold everyTickRule at h
  split at h
  · exact pointsInto_of_search hfit ‹_› h
  · simp at h

/-- A realtime finding points into its line. -/
theorem pointsInto_of_mem_realtimeRule (hfit : line.Fits) (h : d ∈ realtimeRule line) :
    d.PointsInto line := by
  unfold realtimeRule at h
  split at h
  · exact pointsInto_of_search hfit ‹_› h
  · simp at h

/-- More than one input call is reported at the first. -/
theorem pointsInto_of_mem_inputStyleRule (hfit : line.Fits) (h : d ∈ inputStyleRule s line) :
    d.PointsInto line := by
  unfold inputStyleRule at h
  split at h
  · simp at h
  · split at h
    · rename_i pos len _ _ hmatches
      have hmem : (pos, len) ∈ allMatches inputCall line.code := by
        rw [hmatches]
        exact List.mem_cons_self
      exact pointsInto_of_mem_code hfit (le_length_of_mem_allMatches hmem) h
    · simp at h

/-- A several-statements finding points into its line. -/
theorem pointsInto_of_mem_multiStatementRule (hfit : line.Fits)
    (h : d ∈ multiStatementRule line) : d.PointsInto line := by
  unfold multiStatementRule at h
  split at h
  · exact pointsInto_of_search hfit ‹_› h
  · simp at h

/-- A long line is reported one past the limit its code exceeds. -/
theorem pointsInto_of_mem_lineLengthRule (hfit : line.Fits) (h : d ∈ lineLengthRule s line) :
    d.PointsInto line := by
  unfold lineLengthRule at h
  dsimp only at h
  split at h
  · simp at h
  · rename_i hlong
    simp only [Bool.or_eq_true, decide_eq_true_eq, Bool.not_eq_true', not_or] at hlong
    have := length_dropBlankEnd_le line.code
    have := hfit.code_le
    exact pointsInto_of_mem_make h (by omega)

/-- The rules on a line report inside it, or inside the dangling line before it. -/
theorem pointsInto_of_mem_lineFindings (hfit : line.Fits) (hfits : ∀ dl ∈ sc.dangling, dl.Fits)
    (h : d ∈ lineFindings s line sc) :
    d.PointsInto line ∨ ∃ dl ∈ sc.dangling, d.PointsInto dl := by
  simp only [lineFindings, List.mem_append, or_assoc] at h
  rcases h with h | h | h | h | h | h | h | h | h | h | h
  · exact .inr (pointsInto_of_mem_eolContinuationRule hfits h)
  · exact .inl (pointsInto_of_mem_indentRule h)
  · exact .inl (pointsInto_of_mem_blockIndentRule hfit h)
  · exact .inl (pointsInto_of_mem_reservedIdentifierRule hfit h)
  · exact .inl (pointsInto_of_mem_globalMutationRule hfit h)
  · exact .inl (pointsInto_of_mem_plotScopeRule hfit h)
  · exact .inl (pointsInto_of_mem_everyTickRule hfit h)
  · exact .inl (pointsInto_of_mem_realtimeRule hfit h)
  · exact .inl (pointsInto_of_mem_inputStyleRule hfit h)
  · exact .inl (pointsInto_of_mem_multiStatementRule hfit h)
  · exact .inl (pointsInto_of_mem_lineLengthRule hfit h)

/-- The tracker reports a nested loop after the loop head's indent. -/
theorem pointsInto_of_mem_advance_found {t : Tracker} (hfit : line.Fits)
    (h : d ∈ (t.advance line).2.1) : d.PointsInto line := by
  rw [Tracker.advance_found] at h
  split at h
  · simp at h
  · rw [Tracker.openFrames_snd] at h
    split at h
    · exact pointsInto_of_mem_make h (by have := hfit.indent_le; omega)
    · simp at h

/-! ## The statement rules -/

/-- A position of a statement's text lies on one of its lines, at most one past the end of
its code. -/
theorem Statement.locateIn_within {ls : List Line} (hls : ls ≠ []) (offset : Nat) :
    ∃ l ∈ ls, (Statement.locateIn ls offset).1 = l.number ∧
      (Statement.locateIn ls offset).2 ≤ l.code.length + 1 := by
  induction ls generalizing offset with
  | nil => exact absurd rfl hls
  | cons l rest ih =>
    cases rest with
    | nil =>
      refine ⟨l, List.mem_cons_self, ?_⟩
      unfold Statement.locateIn
      split
      · exact ⟨rfl, by omega⟩
      · exact ⟨rfl, Nat.le_refl _⟩
    | cons l' rest' =>
      unfold Statement.locateIn
      split
      · exact ⟨l, List.mem_cons_self, rfl, by omega⟩
      · obtain ⟨m, hm, heq, hle⟩ := ih (List.cons_ne_nil _ _) (offset - (l.code.length + 1))
        exact ⟨m, List.mem_cons_of_mem _ hm, heq, hle⟩

/-- The statement rules report inside a line of their statement. -/
theorem pointsInto_of_mem_statementFindings {st : Statement} (hst : st.lines ≠ [])
    (hfits : ∀ l ∈ st.lines, l.Fits) (h : d ∈ statementFindings s st) :
    ∃ l ∈ st.lines, d.PointsInto l := by
  have hoffset : ∃ offset, d = st.findingAt d.code d.message offset := by
    simp only [statementFindings, List.mem_append] at h
    rcases h with (h | h) | h
    · exact exists_offset_of_mem_lookaheadRule h
    · exact exists_offset_of_mem_limitOrderRule h
    · exact exists_offset_of_mem_entryGatingRule h
  obtain ⟨offset, hd⟩ := hoffset
  obtain ⟨l, hl, hline, hcol⟩ := Statement.locateIn_within hst offset
  refine ⟨l, hl, ?_⟩
  have hfit := (hfits l hl).code_le
  rw [hd]
  exact ⟨hline, Nat.le_max_right _ _, Nat.max_le.2 ⟨by omega, by omega⟩⟩

end Rules

/-! ## The pass -/

/-- A pass state whose findings all point into lines of `ls`, and whose statement under way
and last code line are lines of `ls`, from which later findings take their places. -/
structure Pass.Within (ls : List Line) (p : Pass) : Prop where
  found : ∀ d ∈ p.found, ∃ l ∈ ls, d.PointsInto l
  statement : ∀ l ∈ p.statement, l ∈ ls
  lastCode : ∀ l ∈ p.tracker.lastCode, l ∈ ls

namespace Pass.Within

variable {ls : List Line} {s : Settings} {p : Pass}

/-- The statement rules on the statement under way report findings that point into its lines. -/
theorem flushStatement (h : p.Within ls) (hfits : ∀ l ∈ ls, l.Fits) :
    ∀ d ∈ PineCheck.flushStatement s p.statement p.scope, ∃ l ∈ ls, d.PointsInto l := by
  intro d hd
  cases hst : p.statement with
  | nil => simp [PineCheck.flushStatement, hst] at hd
  | cons l rest =>
    cases hsc : p.scope with
    | none => simp [PineCheck.flushStatement, hst, hsc] at hd
    | some sc =>
      rw [hst, hsc] at hd
      have hmem : ∀ m ∈ l :: rest, m ∈ ls := fun m hm => h.statement m (hst ▸ hm)
      have hne : (⟨l :: rest, sc⟩ : Statement).lines ≠ [] := List.cons_ne_nil _ _
      obtain ⟨m, hm, hpoints⟩ :=
        pointsInto_of_mem_statementFindings hne (fun m hm => hfits m (hmem m hm)) hd
      exact ⟨m, hmem m hm, hpoints⟩

/-- The pass before the first line is within every list of lines: it has found nothing and holds no
line. -/
theorem start : (Pass.start s).Within ls :=
  ⟨by simp [Pass.start], by simp [Pass.start], by simp [Pass.start, Tracker.start]⟩

/-- **One line keeps the pass within the file**, when the line is a line of it. -/
theorem step (h : p.Within ls) (hfits : ∀ l ∈ ls, l.Fits) {l : Line} (hl : l ∈ ls) :
    (p.step s l).Within ls := by
  have hfit := hfits l hl
  cases hcode : l.isCode
  · rw [Pass.step_of_not_code s p l hcode]
    refine ⟨fun d hd => ?_, h.statement, h.lastCode⟩
    rcases List.mem_append.1 hd with hd | hd
    · exact h.found d hd
    · exact ⟨l, hl, pointsInto_of_mem_textFindings hd⟩
  · rw [Pass.step_of_code s p l hcode]
    refine ⟨fun d hd => ?_, fun m hm => ?_, fun m hm => ?_⟩
    · simp only [List.mem_append] at hd
      rcases hd with (((hd | hd) | hd) | hd) | hd
      · exact h.found d hd
      · exact ⟨l, hl, pointsInto_of_mem_textFindings hd⟩
      · exact ⟨l, hl, pointsInto_of_mem_advance_found hfit hd⟩
      · split at hd
        · simp at hd
        · exact h.flushStatement hfits d hd
      · -- the dangling line is the tracker's last code line
        have hdangling : ∀ dl ∈ (p.tracker.advance l).1.dangling, dl ∈ ls := fun dl hdl => by
          rw [Tracker.advance_dangling] at hdl
          exact h.lastCode dl (Tracker.lastCode_of_danglingLine hdl)
        rcases pointsInto_of_mem_lineFindings hfit (fun dl hdl => hfits dl (hdangling dl hdl)) hd
          with hpoints | ⟨dl, hdl, hpoints⟩
        · exact ⟨l, hl, hpoints⟩
        · exact ⟨dl, hdangling dl hdl, hpoints⟩
    · dsimp only at hm
      split at hm
      · rcases List.mem_append.1 hm with hm | hm
        · exact h.statement m hm
        · rw [List.mem_singleton.1 hm]
          exact hl
      · rw [List.mem_singleton.1 hm]
        exact hl
    · rw [Tracker.advance_lastCode, Option.mem_def, Option.some.injEq] at hm
      rw [← hm]
      exact hl

/-- The findings after the last line point into the file too: the last statement's and a
dangling last line's. -/
theorem finish (h : p.Within ls) (hfits : ∀ l ∈ ls, l.Fits) :
    ∀ d ∈ p.finish s, ∃ l ∈ ls, d.PointsInto l := by
  intro d hd
  simp only [Pass.finish, List.mem_append] at hd
  rcases hd with (hd | hd) | hd
  · exact h.found d hd
  · exact h.flushStatement hfits d hd
  · split at hd
    · rename_i last hlast
      have hmem := h.lastCode last (Tracker.lastCode_of_danglingLine hlast)
      refine ⟨last, hmem, pointsInto_of_mem_make hd ?_⟩
      have := length_dropBlankEnd_le last.code
      have := (hfits last hmem).code_le
      omega
    · simp at hd

/-- Reading lines of `ls`, one after another, keeps the pass within `ls`. -/
theorem foldl (h : p.Within ls) (hfits : ∀ l ∈ ls, l.Fits) :
    ∀ rest : List Line, (∀ l ∈ rest, l ∈ ls) → (rest.foldl (Pass.step s) p).Within ls := by
  intro rest
  induction rest generalizing p with
  | nil => exact fun _ => h
  | cons l rest ih =>
    intro hrest
    have hl := hrest l List.mem_cons_self
    exact ih (h.step hfits hl) fun m hm => hrest m (List.mem_cons_of_mem _ hm)

end Pass.Within

/-- The pass over lines that fit stays within them. -/
theorem within_runPass (s : Settings) {ls : List Line} (hfits : ∀ l ∈ ls, l.Fits) :
    (runPass s ls).Within ls :=
  Pass.Within.start.foldl hfits ls fun _ h => h

/-! ## The tally and the whole-file rules -/

/-- The first line that is not blank is the one recorded, or the line counted. -/
theorem Tally.mem_observe_firstNonblank {t : Tally} {l : Line} {n : Nat}
    (h : n ∈ (t.observe l).firstNonblank) : n ∈ t.firstNonblank ∨ n = l.number := by
  cases hk : l.kind <;> cases hfn : t.firstNonblank <;> simp_all [Tally.observe]

/-- A declaration is one recorded, or the line counted. -/
theorem Tally.mem_observe_declarations {t : Tally} {l : Line} {n : Nat}
    (h : n ∈ (t.observe l).declarations) : n ∈ t.declarations ∨ n = l.number := by
  cases hk : l.kind <;> simp [Tally.observe, hk] at h
  case blank => exact .inl h
  case comment => exact .inl h
  case code =>
    split at h
    · simpa using h
    · exact .inl h

/-- A tally whose first line that is not blank, declarations and order entries are lines, and
places, of `ls`. -/
structure Tally.Within (ls : List Line) (t : Tally) : Prop where
  firstNonblank : ∀ n ∈ t.firstNonblank, ∃ l ∈ ls, l.number = n
  declarations : ∀ n ∈ t.declarations, ∃ l ∈ ls, l.number = n
  entries : ∀ e ∈ t.entries, ∃ l ∈ ls, e.1 = l.number ∧ 1 ≤ e.2 ∧ e.2 ≤ l.text.length + 1

namespace Tally.Within

variable {ls : List Line} {t : Tally}

/-- The empty tally is within every list of lines. -/
theorem empty : Tally.empty.Within ls :=
  ⟨by simp [Tally.empty], by simp [Tally.empty], by simp [Tally.empty]⟩

/-- Counting a line of `ls` keeps the tally within `ls`. -/
theorem observe (h : t.Within ls) {l : Line} (hl : l ∈ ls) (hfit : l.Fits) :
    (t.observe l).Within ls := by
  refine ⟨fun n hn => ?_, fun n hn => ?_, fun e he => ?_⟩
  · rcases Tally.mem_observe_firstNonblank hn with hn | rfl
    · exact h.firstNonblank n hn
    · exact ⟨l, hl, rfl⟩
  · rcases Tally.mem_observe_declarations hn with hn | rfl
    · exact h.declarations n hn
    · exact ⟨l, hl, rfl⟩
  · rw [Tally.observe_entries] at he
    split at he
    · rcases List.mem_append.1 he with he | he
      · exact h.entries e he
      · -- a new entry, at the position of its call in the code
        obtain ⟨⟨pos, len⟩, hpos, rfl⟩ := List.mem_map.1 he
        have hle := le_length_of_mem_allMatches hpos
        have := hfit.code_le
        exact ⟨l, hl, rfl, Nat.le_add_left 1 pos, show pos + 1 ≤ l.text.length + 1 by omega⟩
    · exact h.entries e he

/-- Counting lines of `ls` keeps the tally within `ls`. -/
theorem foldl (h : t.Within ls) (hfits : ∀ l ∈ ls, l.Fits) :
    ∀ rest : List Line, (∀ l ∈ rest, l ∈ ls) → (rest.foldl Tally.observe t).Within ls := by
  intro rest
  induction rest generalizing t with
  | nil => exact fun _ => h
  | cons l rest ih =>
    intro hrest
    have hl := hrest l List.mem_cons_self
    exact ih (h.observe hl (hfits l hl)) fun m hm => hrest m (List.mem_cons_of_mem _ hm)

end Tally.Within

section FileRules

variable {ls : List Line} {s : Settings} {t : Tally} {d : Diagnostic}

/-- A finding at column 1 of a line of `ls` points into it. -/
theorem pointsInto_of_mem_make_one {n : Nat} {c : Code} {m : String}
    (hn : ∃ l ∈ ls, l.number = n) (h : d ∈ [Diagnostic.make c m n 1]) :
    ∃ l ∈ ls, d.PointsInto l := by
  obtain ⟨l, hl, rfl⟩ := hn
  exact ⟨l, hl, pointsInto_of_mem_make h (Nat.le_add_left 1 _)⟩

/-- A rule that reports at the start of the file unless its condition holds. -/
theorem pointsInto_of_mem_unless {p : Prop} [Decidable p] {c : Code} {m : String}
    (hone : ∃ l ∈ ls, l.number = 1) (h : d ∈ if p then [] else [Diagnostic.make c m 1 1]) :
    ∃ l ∈ ls, d.PointsInto l := by
  split at h
  · simp at h
  · exact pointsInto_of_mem_make_one hone h

/-- A missing declaration is reported at the first line that is not blank, or at line 1; a
second one where it stands. -/
theorem pointsInto_of_mem_declarationCountRule (ht : t.Within ls)
    (hone : ∃ l ∈ ls, l.number = 1) (h : d ∈ declarationCountRule t) :
    ∃ l ∈ ls, d.PointsInto l := by
  unfold declarationCountRule at h
  split at h
  · refine pointsInto_of_mem_make_one ?_ h
    cases hfn : t.firstNonblank with
    | none => exact hone
    | some n => exact ht.firstNonblank n hfn
  · simp at h
  · rename_i first second rest hdecls
    exact pointsInto_of_mem_make_one (ht.declarations second (by rw [hdecls]; simp)) h

/-- A declaration-order finding points into a line of the file. -/
theorem pointsInto_of_mem_declarationOrderRule (ht : t.Within ls)
    (h : d ∈ declarationOrderRule t) : ∃ l ∈ ls, d.PointsInto l := by
  unfold declarationOrderRule at h
  split at h
  · rename_i first rest v hdecls hv
    split at h
    · exact pointsInto_of_mem_make_one
        (ht.declarations first (by rw [hdecls]; exact List.mem_cons_self)) h
    · simp at h
  · simp at h

/-- Order entries with no cancel are reported at the first entry. -/
theorem pointsInto_of_mem_cancelPresenceRule (ht : t.Within ls)
    (h : d ∈ cancelPresenceRule t) : ∃ l ∈ ls, d.PointsInto l := by
  unfold cancelPresenceRule at h
  split at h
  · rename_i line column rest hentries
    split at h
    · simp at h
    · obtain ⟨l, hl, hline, hone, hcol⟩ :=
        ht.entries (line, column) (by rw [hentries]; exact List.mem_cons_self)
      rw [List.mem_singleton.1 h]
      exact ⟨l, hl, hline, Nat.le_max_right _ _, Nat.max_le.2 ⟨hcol, Nat.le_add_left 1 _⟩⟩
  · simp at h

/-- The whole-file rules report at a line the tally recorded, or at line 1. -/
theorem pointsInto_of_mem_fileFindings (ht : t.Within ls) (hone : ∃ l ∈ ls, l.number = 1)
    (h : d ∈ fileFindings s t) : ∃ l ∈ ls, d.PointsInto l := by
  simp only [fileFindings, List.mem_append, or_assoc] at h
  rcases h with h | h | h | h | h | h
  · unfold versionPresentRule at h
    exact pointsInto_of_mem_unless hone h
  · exact pointsInto_of_mem_declarationCountRule ht hone h
  · exact pointsInto_of_mem_declarationOrderRule ht h
  · unfold inputCeilingRule at h
    exact pointsInto_of_mem_unless hone h
  · unfold securityCeilingRule at h
    exact pointsInto_of_mem_unless hone h
  · exact pointsInto_of_mem_cancelPresenceRule ht h

end FileRules

/-! ## The lines of a file -/

/-- The classified line at an index is the physical line there, numbered one more. -/
theorem getElem?_classifyLines (content : List Char) (i : Nat) :
    (classifyLines content)[i]? = (physicalLines content)[i]?.map (Line.classify (i + 1)) := by
  unfold classifyLines
  rw [List.getElem?_map, List.getElem?_zipIdx]
  cases (physicalLines content)[i]? <;> simp

/-- The line numbered `i + 1` is the classified `i`-th physical line. -/
theorem exists_getElem?_of_mem_classifyLines {content : List Char} {l : Line}
    (h : l ∈ classifyLines content) :
    1 ≤ l.number ∧ (physicalLines content)[l.number - 1]? = some l.text := by
  obtain ⟨i, hi⟩ := List.mem_iff_getElem?.1 h
  rw [getElem?_classifyLines] at hi
  obtain ⟨text, htext, rfl⟩ := Option.map_eq_some_iff.1 hi
  exact ⟨Nat.le_add_left 1 i, htext⟩

/-- Every text has a line numbered 1. -/
theorem exists_first_classifyLines (content : List Char) :
    ∃ l ∈ classifyLines content, l.number = 1 := by
  obtain ⟨text, rest, hlines⟩ := List.exists_cons_of_ne_nil (physicalLines_ne_nil content)
  refine ⟨Line.classify 1 text, List.mem_of_getElem? (i := 0) ?_, rfl⟩
  rw [getElem?_classifyLines, hlines]
  rfl

/-- The last physical line, numbered by the count of lines, is a line of the file. -/
theorem last_mem_classifyLines (content : List Char) :
    Line.classify (physicalLines content).length
      ((physicalLines content).getLast (physicalLines_ne_nil content)) ∈ classifyLines content := by
  have hne := physicalLines_ne_nil content
  have hpos : 0 < (physicalLines content).length := List.length_pos_iff.2 hne
  refine List.mem_of_getElem? (i := (physicalLines content).length - 1) ?_
  rw [getElem?_classifyLines, ← List.getLast?_eq_getElem?, List.getLast?_eq_some_getLast hne,
    Nat.sub_add_cancel hpos]
  rfl

/-- The preconditions report at line 1, or one past the end of the last line. -/
theorem pointsInto_of_mem_preconditionFindings {content : List Char} {d : Diagnostic}
    (h : d ∈ preconditionFindings content) : ∃ l ∈ classifyLines content, d.PointsInto l := by
  unfold preconditionFindings at h
  simp only [List.mem_append] at h
  rcases h with h | h
  · split at h
    · exact pointsInto_of_mem_make_one (exists_first_classifyLines content) h
    · simp at h
  · split at h
    · simp at h
    · -- the last line, one past its end
      have hne := physicalLines_ne_nil content
      have hpos : 0 < (physicalLines content).length := List.length_pos_iff.2 hne
      refine ⟨_, last_mem_classifyLines content, ?_⟩
      simp only [List.getLast?_eq_some_getLast hne, List.mem_singleton] at h
      rw [h]
      exact ⟨Nat.max_eq_left hpos, Nat.le_max_right _ _,
        Nat.max_le.2 ⟨Nat.le_refl _, Nat.le_add_left 1 _⟩⟩

/-- The bracket check reports inside a line whose code it scanned. -/
theorem pointsInto_of_mem_checkBrackets {content : List Char} {d : Diagnostic}
    (h : d ∈ checkBrackets ((classifyLines content).map (·.code))) :
    ∃ l ∈ classifyLines content, d.PointsInto l := by
  obtain ⟨c, hc⟩ := exists_charAt_of_mem_checkBrackets h
  have hline := Nat.exists_eq_add_of_le' (one_le_line_of_charAt hc)
  obtain ⟨i, hi⟩ := hline
  obtain ⟨j, hj⟩ := Nat.exists_eq_add_of_le' (one_le_column_of_charAt hc)
  rw [hi, hj] at hc
  simp only [charAt, List.getElem?_map, Option.bind_eq_some_iff, Option.map_eq_some_iff] at hc
  obtain ⟨code, ⟨l, hl, rfl⟩, hcode⟩ := hc
  have hmem := List.mem_of_getElem? hl
  rw [getElem?_classifyLines] at hl
  obtain ⟨text, -, rfl⟩ := Option.map_eq_some_iff.1 hl
  have hlt := (List.getElem?_eq_some_iff.1 hcode).1
  have hfit := (Line.fits_classify (i + 1) text).code_le
  refine ⟨_, hmem, hi, by omega, ?_⟩
  rw [hj]
  omega

/-! ## The report -/

/-- **Every finding of the report points into a line of the file.** -/
theorem mem_lintContent_pointsInto (s : Settings) (content : List Char) :
    ∀ d ∈ lintContent s content, ∃ l ∈ classifyLines content, d.PointsInto l := by
  intro d hd
  have hfits : ∀ l ∈ classifyLines content, l.Fits := fun _ hl => fits_of_mem_classifyLines hl
  unfold lintContent at hd
  dsimp only at hd
  rcases List.mem_append.1 hd with hd | hd
  · rw [sortByLine, List.mem_mergeSort, List.mem_append, List.mem_append] at hd
    rcases hd with (hd | hd) | hd
    · exact pointsInto_of_mem_preconditionFindings hd
    · exact pointsInto_of_mem_checkBrackets hd
    · exact (within_runPass s hfits).finish hfits d hd
  · -- the whole-file rules read the tally of every line
    have htally : (runPass s (classifyLines content)).tally.Within (classifyLines content) := by
      rw [runPass_tally]
      exact Tally.Within.empty.foldl hfits _ fun _ hl => hl
    exact pointsInto_of_mem_fileFindings htally (exists_first_classifyLines content) hd

/-- What linting returns, when it returns, is the report. -/
theorem eq_lintContent_of_lintText {s : Settings} {content : List Char} {ds : List Diagnostic}
    (h : lintText s content = .ok ds) : ds = lintContent s content := by
  rw [lintText_eq] at h
  split_ifs at h
  exact (Except.ok.inj h).symm

/-- **Every finding points inside the file.** Each finding that linting returns names a line of
the text, from 1 to the number of its physical lines, and a column from 1 to one past the end
of that line. -/
theorem findings_point_into_file (s : Settings) (content : List Char) (ds : List Diagnostic)
    (h : lintText s content = .ok ds) :
    ∀ d ∈ ds, 1 ≤ d.line ∧ d.line ≤ (physicalLines content).length ∧
      ∃ text, (physicalLines content)[d.line - 1]? = some text ∧
        1 ≤ d.column ∧ d.column ≤ text.length + 1 := by
  intro d hd
  rw [eq_lintContent_of_lintText h] at hd
  obtain ⟨l, hl, hline, hone, hcol⟩ := mem_lintContent_pointsInto s content d hd
  obtain ⟨hnumber, htext⟩ := exists_getElem?_of_mem_classifyLines hl
  have hbound := (List.getElem?_eq_some_iff.1 htext).1
  rw [← hline] at hnumber htext hbound
  exact ⟨hnumber, by omega, l.text, htext, hone, hcol⟩

/-- `findings_point_into_file` on a text with no final newline, under the default settings. -/
theorem findings_point_into_file_default :
    lintText Settings.default "x = 1".toList = .ok (lintContent Settings.default "x = 1".toList) ∧
      ∀ d ∈ lintContent Settings.default "x = 1".toList, 1 ≤ d.line ∧
        d.line ≤ (physicalLines "x = 1".toList).length ∧
        ∃ text, (physicalLines "x = 1".toList)[d.line - 1]? = some text ∧
          1 ≤ d.column ∧ d.column ≤ text.length + 1 :=
  ⟨lintText_default _, findings_point_into_file _ _ _ (lintText_default _)⟩

end PineCheck
