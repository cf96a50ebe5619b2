import Mathlib.Data.List.Forall2
import Mathlib.Order.Monotone.Basic
import Mathlib.Tactic.Simps.Basic
import PineCheck.Proofs.Statements
import PineCheck.Proofs.Coupling
import PineCheck.Proofs.PhysicalLines
/-!
# Renumbered lines

The rules read a line's text, code and indent; its number only says where a finding points.
So when the lines of a pass carry other numbers, given by a map `f` of line numbers, every
finding moves by `f` (`Diagnostic.Renumbered`): its line, and the line numbers that a
finding quotes. Only two kinds quote one: a mismatched bracket names the line of the bracket
it finds open, and a block indent finding the line of the block's opener.

Only the text rules read a line's text. So the laws here are stated for any map `g` of lines
that keeps a line's code, indent and kind and moves its number by `f` (`Line.MovesBy f g`):
renumbering is one (`Line.movesBy_renumber`), and so is giving a line another text with the
same code. Such a map acts on each part of the pass that holds a line (`Tracker.mapLines`,
`Snapshot.mapLines`, `Statement.mapLines`): the tracker keeps the last code line and the
pending block opener, the snapshot a block opener and a dangling line, the statement under
way its lines. The tally keeps line numbers only (`Tally.renumber`). Every rule but the text
rules commutes with `g`, and so does a step of the tracker (`Tracker.advance_mapLines`).

Nothing in the pass compares two line numbers. The file rules do once, the first declaration
against the version line, and sorting by line compares lines; an increasing `f` keeps both
(`declarationOrderRule_moved`, `forall₂_sortByLine`).
-/

namespace PineCheck

open Script Text

variable (f : Nat → Nat)

/-! ## Renumbering the data -/

/-- A finding moved to the line that `f` gives for its own. -/
@[simps]
def Diagnostic.renumber (d : Diagnostic) : Diagnostic := { d with line := f d.line }

/-- A finding made on a line and renumbered is made on the renumbered line. -/
theorem Diagnostic.make_renumber (c : Code) (m : String) (n col : Nat) :
    (Diagnostic.make c m n col).renumber f = Diagnostic.make c m (f n) col := rfl

/-- An open bracket on a renumbered line. -/
@[simps]
def OpenBracket.renumber (o : OpenBracket) : OpenBracket := { o with line := f o.line }

/-- A bracket fault with every line it names renumbered. -/
def BracketFault.renumber : BracketFault → BracketFault
  | .unmatched k line column => .unmatched k (f line) column
  | .mismatched o k line column => .mismatched (o.renumber f) k (f line) column
  | .unclosed o => .unclosed (o.renumber f)

/-- A bracket scan over renumbered lines. -/
@[simps]
def BracketScan.renumber (s : BracketScan) : BracketScan :=
  ⟨s.stack.map (OpenBracket.renumber f), s.faults.map (BracketFault.renumber f)⟩

/-- The tally, with the line numbers it holds renumbered. -/
@[simps]
def Tally.renumber (t : Tally) : Tally :=
  { t with
    firstNonblank := t.firstNonblank.map f
    versionLine := t.versionLine.map f
    declarations := t.declarations.map f
    entries := t.entries.map fun e => (f e.1, e.2) }

/-! ## Maps of lines -/

/-- `g` moves each line by `f`: it keeps what the rules other than the text rules read of a
line, its code, indent and kind, and gives it the number that `f` gives its own. -/
structure Line.MovesBy (g : Line → Line) : Prop where
  number : ∀ l, (g l).number = f l.number
  code : ∀ l, (g l).code = l.code
  indent : ∀ l, (g l).indent = l.indent
  kind : ∀ l, (g l).kind = l.kind

/-- Renumbering lines moves them, keeping all but their numbers. -/
theorem Line.movesBy_renumber : Line.MovesBy f (Line.renumber f) :=
  ⟨fun _ => rfl, fun _ => rfl, fun _ => rfl, fun _ => rfl⟩

/-- A moved line keeps its text with the blanks trimmed, which is read off its code. -/
theorem Line.MovesBy.stripped {f : Nat → Nat} {g : Line → Line} (hg : Line.MovesBy f g)
    (l : Line) : (g l).stripped = l.stripped := by
  unfold Line.stripped
  rw [hg.code]

/-- What the rules see of the scope, with the lines it holds mapped by `g`. -/
@[simps]
def Snapshot.mapLines (g : Line → Line) (sc : Snapshot) : Snapshot :=
  { sc with
    blockOpener := sc.blockOpener.map g
    dangling := sc.dangling.map g }

/-- The tracker, with the lines it holds mapped by `g`. -/
@[simps]
def Tracker.mapLines (g : Line → Line) (t : Tracker) : Tracker :=
  { t with
    pendingBlock := t.pendingBlock.map g
    lastCode := t.lastCode.map g }

/-- A statement on lines mapped by `g`. -/
@[simps]
def Statement.mapLines (g : Line → Line) (st : Statement) : Statement :=
  ⟨st.lines.map g, st.scope.mapLines g⟩

/-! ## Renumbered findings -/

/-- The codes of the findings that quote a line number in their message. -/
def Code.quotesLine : Code → Bool
  | .delimiter | .blockIndent => true
  | _ => false

namespace Diagnostic

/-- `Renumbered f d d'`: `d'` is the finding `d` with every line number in it moved by `f`,
the line it points at and the line it quotes, if any. -/
inductive Renumbered : Diagnostic → Diagnostic → Prop
  /-- A finding that quotes no line moves to its renumbered line. -/
  | moved {d : Diagnostic} : d.code.quotesLine = false → Renumbered d (d.renumber f)
  /-- A bracket finding moves with the brackets it names. -/
  | bracket (b : BracketFault) : Renumbered b.toDiagnostic (b.renumber f).toDiagnostic
  /-- A block indent finding moves with its line and with its opener's. -/
  | blockIndent (unit opener line column : Nat) :
      Renumbered (blockIndentFinding unit opener line column)
        (blockIndentFinding unit (f opener) (f line) column)

variable {f} {d d' : Diagnostic}

/-- A renumbered finding is on the renumbered line. -/
theorem Renumbered.line_eq (h : Renumbered f d d') : d'.line = f d.line := by
  cases h with
  | moved => rfl
  | bracket b => cases b <;> rfl
  | blockIndent => rfl

/-- A renumbered finding keeps its code. -/
theorem Renumbered.code_eq (h : Renumbered f d d') : d'.code = d.code := by
  cases h with
  | moved => rfl
  | bracket b => cases b <;> rfl
  | blockIndent => rfl

/-- Renumbering by the identity moves nothing. -/
theorem Renumbered.eq_of_id (h : Renumbered id d d') : d' = d := by
  cases h with
  | moved => rfl
  | bracket b => cases b <;> rfl
  | blockIndent => rfl

end Diagnostic

open Diagnostic (Renumbered)

/-- Findings renumbered by the identity are the same findings. -/
theorem eq_of_forall₂_renumbered_id {xs ys : List Diagnostic}
    (h : List.Forall₂ (Renumbered id) xs ys) : ys = xs := by
  induction h with
  | nil => rfl
  | cons hd _ ih => rw [hd.eq_of_id, ih]

/-- Findings that quote no line move by their lines. -/
theorem forall₂_renumbered_map {ds : List Diagnostic} (h : ∀ d ∈ ds, d.code.quotesLine = false) :
    List.Forall₂ (Renumbered f) ds (ds.map (Diagnostic.renumber f)) := by
  induction ds with
  | nil => exact .nil
  | cons d ds ih =>
    exact .cons (.moved (h d List.mem_cons_self)) (ih fun e he => h e (List.mem_cons_of_mem _ he))

/-- The findings of a rule with one code that quotes no line move by their lines. -/
theorem forall₂_renumbered_map_of_code {ds : List Diagnostic} {c : Code} (hc : c.quotesLine = false)
    (h : ∀ d ∈ ds, d.code = c) : List.Forall₂ (Renumbered f) ds (ds.map (Diagnostic.renumber f)) :=
  forall₂_renumbered_map f fun d hd => (h d hd).symm ▸ hc

/-! ## Text rules -/

section TextRules

variable (s : Settings) (l : Line)

/-- The tab finding of a renumbered line is the renumbered tab finding. -/
theorem Line.tabFinding_renumber : (l.renumber f).tabFinding = l.tabFinding.map (Diagnostic.renumber f) := by
  simp only [Line.tabFinding, Line.renumber_text, Line.renumber_number]
  split <;> rfl

/-- The trailing-blanks finding of a renumbered line is the renumbered finding. -/
theorem Line.trailingSpaceFinding_renumber :
    (l.renumber f).trailingSpaceFinding = l.trailingSpaceFinding.map (Diagnostic.renumber f) := by
  simp only [Line.trailingSpaceFinding, Line.renumber_text, Line.renumber_number, Line.renumber_kind,
    apply_ite (List.map (Diagnostic.renumber f)), List.map_nil, List.map_cons,
    Diagnostic.make_renumber]
  rfl

/-- The version finding of a renumbered line is the renumbered finding. -/
theorem versionFinding_renumber :
    versionFinding s (l.renumber f) = (versionFinding s l).map (Diagnostic.renumber f) := by
  simp only [versionFinding, Line.renumber_text, Line.renumber_number,
    apply_ite (List.map (Diagnostic.renumber f)), List.map_nil, List.map_cons,
    Diagnostic.make_renumber]
  rfl

/-- The text rules on a renumbered line report the renumbered findings. -/
theorem textFindings_renumber (b : Bool) :
    textFindings s (l.renumber f) b = (textFindings s l b).map (Diagnostic.renumber f) := by
  simp only [textFindings, List.map_append, Line.tabFinding_renumber,
    Line.trailingSpaceFinding_renumber, versionFinding_renumber]
  split_ifs <;> simp

/-- The text rules on a renumbered line report renumbered findings. -/
theorem textFindings_renumbered (b : Bool) :
    List.Forall₂ (Renumbered f) (textFindings s l b) (textFindings s (l.renumber f) b) := by
  rw [textFindings_renumber]
  exact forall₂_renumbered_map f fun d hd => by
    rcases code_of_mem_textFindings hd with h | h | h <;> rw [h] <;> rfl

end TextRules

/-! ## Line rules -/

section LineRules

variable {f} {g : Line → Line} (hg : Line.MovesBy f g) (s : Settings) (l : Line) (sc : Snapshot)
include hg

/-- The finding on a moved dangling line is the renumbered finding. -/
theorem danglingFinding_mapLines : danglingFinding (g l) = (danglingFinding l).renumber f := by
  unfold danglingFinding
  rewrite [hg.number, hg.code]
  rfl

/-- Moving the lines by `g` renumbers the findings of the dangling-line rule. -/
theorem eolContinuationRule_mapLines :
    eolContinuationRule (sc.mapLines g) = (eolContinuationRule sc).map (Diagnostic.renumber f) := by
  unfold eolContinuationRule
  rewrite [Snapshot.mapLines_dangling, Snapshot.mapLines_continuation]
  cases sc.dangling with
  | none => rfl
  | some d =>
    dsimp only [Option.map_some]
    rewrite [danglingFinding_mapLines hg]
    cases sc.continuation <;> rfl

/-- Moving the lines by `g` renumbers the findings of the indent rule. -/
theorem indentRule_mapLines :
    indentRule s (g l) (sc.mapLines g) = (indentRule s l sc).map (Diagnostic.renumber f) := by
  unfold indentRule
  rewrite [Snapshot.mapLines_continuation, hg.indent, hg.number]
  by_cases h : (sc.continuation || l.indent == 0 || l.indent % s.indentUnit == 0) = true
  · rewrite [if_pos h, if_pos h]
    rfl
  · rewrite [if_neg h, if_neg h]
    rfl

/-- The block indent finding moves with its line and quotes its opener's new line. -/
theorem blockIndentRule_mapLines :
    List.Forall₂ (Renumbered f) (blockIndentRule s l sc) (blockIndentRule s (g l) (sc.mapLines g)) := by
  unfold blockIndentRule
  rewrite [Snapshot.mapLines_blockOpener]
  cases sc.blockOpener with
  | none => exact .nil
  | some o =>
    dsimp only [Option.map_some]
    rewrite [hg.indent, hg.indent, hg.number, hg.number]
    by_cases h : l.indent ≥ o.indent + s.indentUnit
    · rewrite [if_pos h, if_pos h]
      exact .nil
    · rewrite [if_neg h, if_neg h]
      exact .cons (Renumbered.blockIndent _ _ _ _) .nil

/-- Moving the lines by `g` renumbers the findings of the reserved-name rule. -/
theorem reservedIdentifierRule_mapLines :
    reservedIdentifierRule (g l) (sc.mapLines g) =
      (reservedIdentifierRule l sc).map (Diagnostic.renumber f) := by
  unfold reservedIdentifierRule
  rewrite [hg.indent, Snapshot.mapLines_continuation, hg.code, hg.number]
  split_ifs
  · rfl
  · split
    · dsimp only
      split_ifs <;> rfl
    · rfl

/-- Moving the lines by `g` renumbers the findings of the global-mutation rule. -/
theorem globalMutationRule_mapLines :
    globalMutationRule (g l) (sc.mapLines g) =
      (globalMutationRule l sc).map (Diagnostic.renumber f) := by
  unfold globalMutationRule
  rewrite [Snapshot.mapLines_inFunction, Snapshot.mapLines_globals, Snapshot.mapLines_continuation,
    hg.code, hg.number]
  split_ifs
  · rfl
  · rw [List.map_filterMap]
    congr 1
    funext name
    cases search (updateOf name) l.code <;> rfl

/-- Moving the lines by `g` renumbers the findings of the plot-scope rule. -/
theorem plotScopeRule_mapLines :
    plotScopeRule (g l) (sc.mapLines g) = (plotScopeRule l sc).map (Diagnostic.renumber f) := by
  unfold plotScopeRule
  rewrite [Snapshot.mapLines_inBlock, Snapshot.mapLines_inFunction, hg.code, hg.number]
  split_ifs
  · rfl
  · split <;> rfl

/-- Moving the lines by `g` renumbers the findings of the every-tick rule. -/
theorem everyTickRule_mapLines :
    everyTickRule s (g l) = (everyTickRule s l).map (Diagnostic.renumber f) := by
  unfold everyTickRule
  rewrite [hg.code, hg.number]
  split <;> rfl

/-- Moving the lines by `g` renumbers the findings of the realtime rule. -/
theorem realtimeRule_mapLines : realtimeRule (g l) = (realtimeRule l).map (Diagnostic.renumber f) := by
  unfold realtimeRule
  rewrite [hg.code, hg.number]
  split <;> rfl

/-- Moving the lines by `g` renumbers the findings of the input-style rule. -/
theorem inputStyleRule_mapLines :
    inputStyleRule s (g l) = (inputStyleRule s l).map (Diagnostic.renumber f) := by
  unfold inputStyleRule
  rewrite [hg.code, hg.number]
  split_ifs
  · rfl
  · split <;> rfl

/-- Moving the lines by `g` renumbers the findings of the several-statements rule. -/
theorem multiStatementRule_mapLines :
    multiStatementRule (g l) = (multiStatementRule l).map (Diagnostic.renumber f) := by
  unfold multiStatementRule
  rewrite [hg.code, hg.number]
  split <;> rfl

/-- Moving the lines by `g` renumbers the findings of the line-length rule. -/
theorem lineLengthRule_mapLines :
    lineLengthRule s (g l) = (lineLengthRule s l).map (Diagnostic.renumber f) := by
  unfold lineLengthRule
  rewrite [hg.code, hg.number]
  dsimp only
  split_ifs <;> rfl

/-- **The line rules move with the line.** -/
theorem lineFindings_mapLines :
    List.Forall₂ (Renumbered f) (lineFindings s l sc) (lineFindings s (g l) (sc.mapLines g)) := by
  unfold lineFindings
  rw [eolContinuationRule_mapLines hg, indentRule_mapLines hg, reservedIdentifierRule_mapLines hg,
    globalMutationRule_mapLines hg, plotScopeRule_mapLines hg, everyTickRule_mapLines hg,
    realtimeRule_mapLines hg, inputStyleRule_mapLines hg, multiStatementRule_mapLines hg,
    lineLengthRule_mapLines hg]
  refine List.rel_append (List.rel_append (List.rel_append (List.rel_append (List.rel_append
    (List.rel_append (List.rel_append (List.rel_append (List.rel_append (List.rel_append
      ?eol ?indent) ?block) ?reserved) ?mutation) ?plot) ?tick) ?realtime) ?input) ?multi) ?length
  case block => exact blockIndentRule_mapLines hg s l sc
  case indent =>
    exact forall₂_renumbered_map f fun d hd => by
      rcases code_of_mem_indentRule hd with h | h <;> rw [h] <;> rfl
  case tick =>
    exact forall₂_renumbered_map f fun d hd => by
      rcases code_of_mem_everyTickRule hd with h | h <;> rw [h] <;> rfl
  case eol => exact forall₂_renumbered_map_of_code f rfl fun _ => code_of_mem_eolContinuationRule
  case reserved =>
    exact forall₂_renumbered_map_of_code f rfl fun _ => code_of_mem_reservedIdentifierRule
  case mutation => exact forall₂_renumbered_map_of_code f rfl fun _ => code_of_mem_globalMutationRule
  case plot => exact forall₂_renumbered_map_of_code f rfl fun _ => code_of_mem_plotScopeRule
  case realtime => exact forall₂_renumbered_map_of_code f rfl fun _ => code_of_mem_realtimeRule
  case input => exact forall₂_renumbered_map_of_code f rfl fun _ => code_of_mem_inputStyleRule
  case multi => exact forall₂_renumbered_map_of_code f rfl fun _ => code_of_mem_multiStatementRule
  case length => exact forall₂_renumbered_map_of_code f rfl fun _ => code_of_mem_lineLengthRule

end LineRules

/-! ## The tracker -/

attribute [ext] Snapshot Tracker

namespace Tracker

variable {f} {g : Line → Line} (hg : Line.MovesBy f g) (t : Tracker) (l : Line)
include hg

/-- The dangling line of a tracker on moved lines is the moved dangling line. -/
theorem danglingLine_mapLines : (t.mapLines g).danglingLine = t.danglingLine.map g := by
  unfold danglingLine
  rewrite [mapLines_lastCode]
  cases t.lastCode with
  | none => rfl
  | some p =>
    dsimp only [Option.map_some]
    rewrite [hg.code]
    by_cases h : endsWithContinuation p.code = true
    · rewrite [if_pos h, if_pos h]
      rfl
    · rewrite [if_neg h, if_neg h]
      rfl

/-- The brackets a tracker carries over to a moved line are those it carries to the line. -/
theorem carriedBrackets_mapLines : (t.mapLines g).carriedBrackets (g l) = t.carriedBrackets l := by
  unfold carriedBrackets
  rewrite [danglingLine_mapLines hg, Option.isNone_map, hg.indent]
  rfl

/-- A moved line continues the statement exactly when the line does. -/
theorem continues_mapLines : (t.mapLines g).continues (g l) = t.continues l := by
  unfold continues
  rewrite [carriedBrackets_mapLines hg, danglingLine_mapLines hg]
  cases t.danglingLine with
  | none => rfl
  | some d =>
    dsimp only [Option.map_some]
    rewrite [hg.indent, hg.indent]
    rfl

/-- Opening and closing frames at a moved line gives the same frames and the renumbered findings. -/
theorem openFrames_mapLines (fs : List Frame) (code : List Char) :
    openFrames fs (g l) code =
      ((openFrames fs l code).1, (openFrames fs l code).2.map (Diagnostic.renumber f)) := by
  refine Prod.ext ?_ ?_
  · unfold openFrames
    rewrite [hg.indent]
    split_ifs <;> rfl
  · rewrite [openFrames_snd, openFrames_snd, hg.indent, hg.number]
    by_cases h : (isLoopHead code &&
        (fs.dropWhile fun fr => decide (fr.indent ≥ l.indent)).any (·.kind == .loop)) = true
    · rewrite [if_pos h, if_pos h]
      rfl
    · rewrite [if_neg h, if_neg h]
      rfl

/-- A step on a moved line reports the renumbered findings. -/
theorem advance_mapLines_found :
    ((t.mapLines g).advance (g l)).2.1 = (t.advance l).2.1.map (Diagnostic.renumber f) := by
  rw [advance_found, advance_found, continues_mapLines hg, mapLines_frames, hg.stripped,
    openFrames_mapLines hg]
  cases t.continues l <;> rfl

/-- A step on a moved line adds the same persistent names. -/
theorem advance_mapLines_globals :
    ((t.mapLines g).advance (g l)).2.2.globals = (t.advance l).2.2.globals := by
  unfold advance
  rewrite [continues_mapLines hg, hg.indent, hg.stripped]
  cases t.continues l <;> rfl

/-- A step on a moved line gives the tracker on moved lines. -/
theorem advance_mapLines_next :
    ((t.mapLines g).advance (g l)).2.2 = (t.advance l).2.2.mapLines g := by
  apply Tracker.ext
  · simp only [advance_frames, continues_mapLines hg, mapLines_frames, hg.stripped,
      openFrames_mapLines hg]
  · rw [advance_mapLines_globals hg, mapLines_globals]
  · simp only [advance_pendingBlock, continues_mapLines hg, mapLines_pendingBlock]
    rewrite [hg.stripped]
    cases t.continues l
    · by_cases h : opensBlock l.stripped = true
      · rewrite [if_neg Bool.false_ne_true, if_neg Bool.false_ne_true, if_pos h, if_pos h]
        rfl
      · rewrite [if_neg Bool.false_ne_true, if_neg Bool.false_ne_true, if_neg h, if_neg h]
        rfl
    · rfl
  · simp only [advance_lastCode, mapLines_lastCode, Option.map_some]
  · simp only [advance_openBrackets, carriedBrackets_mapLines hg, mapLines_openBrackets, hg.code]
  · simp only [advance_statementIndent, continues_mapLines hg, mapLines_statementIndent, hg.indent]
  · simp only [advance_recent, mapLines_recent, mapLines_window, hg.stripped]
  · simp only [advance_window, mapLines_window]

/-- A step on a moved line shows the snapshot on moved lines. -/
theorem advance_mapLines_snapshot :
    ((t.mapLines g).advance (g l)).1 = (t.advance l).1.mapLines g := by
  apply Snapshot.ext
  · simp only [advance_indent, Snapshot.mapLines_indent, hg.indent]
  · simp only [advance_inFunction, advance_mapLines_next hg, mapLines_frames,
      Snapshot.mapLines_inFunction]
  · rw [advance_inBlock, Snapshot.mapLines_inBlock, advance_inBlock, hg.indent]
  · simp only [advance_snapshot_globals, advance_mapLines_globals hg, Snapshot.mapLines_globals]
  · simp only [advance_continuation, continues_mapLines hg, Snapshot.mapLines_continuation]
  · simp only [advance_blockOpener, continues_mapLines hg, mapLines_pendingBlock,
      Snapshot.mapLines_blockOpener]
    cases t.continues l <;> rfl
  · simp only [advance_dangling, danglingLine_mapLines hg, Snapshot.mapLines_dangling]
  · simp only [advance_snapshot_recent, mapLines_recent, Snapshot.mapLines_recent]

/-- **The tracker moves with the lines**: on lines moved by `g` it sees the scope with its
lines moved, reports the renumbered findings and ends in the state with its lines moved. -/
theorem advance_mapLines :
    (t.mapLines g).advance (g l) =
      ((t.advance l).1.mapLines g, (t.advance l).2.1.map (Diagnostic.renumber f),
        (t.advance l).2.2.mapLines g) := by
  rw [← advance_mapLines_snapshot hg, ← advance_mapLines_found hg, ← advance_mapLines_next hg]

end Tracker

/-! ## Statements -/

namespace Statement

/-- An offset in a statement of one line is on that line, at most one past its code. -/
theorem locateIn_singleton (l : Line) (offset : Nat) :
    locateIn [l] offset =
      if offset ≤ l.code.length then (l.number, offset + 1) else (l.number, l.code.length + 1) :=
  rfl

/-- An offset past the first line's code and its line feed is located in the lines after it. -/
theorem locateIn_cons_cons (l l' : Line) (rest : List Line) (offset : Nat) :
    locateIn (l :: l' :: rest) offset =
      if offset ≤ l.code.length then (l.number, offset + 1)
      else locateIn (l' :: rest) (offset - (l.code.length + 1)) :=
  rfl

variable {f} {g : Line → Line} (hg : Line.MovesBy f g)
include hg

/-- A statement on moved lines has the same text. -/
theorem text_mapLines (st : Statement) : (st.mapLines g).text = st.text := by
  simp only [text, mapLines_lines, List.map_map]
  congr 1
  exact List.map_congr_left fun l _ => hg.code l

/-- A position of a statement on moved lines lies on the moved line. -/
theorem locateIn_mapLines {ls : List Line} (hls : ls ≠ []) (offset : Nat) :
    locateIn (ls.map g) offset = (f (locateIn ls offset).1, (locateIn ls offset).2) := by
  induction ls generalizing offset with
  | nil => exact absurd rfl hls
  | cons l rest ih =>
    cases rest with
    | nil =>
      rw [List.map_singleton, locateIn_singleton, locateIn_singleton, hg.code, hg.number]
      by_cases h : offset ≤ l.code.length
      · rw [if_pos h, if_pos h]
      · rw [if_neg h, if_neg h]
    | cons l' rest' =>
      rw [List.map_cons, List.map_cons, locateIn_cons_cons, locateIn_cons_cons, hg.code, hg.number]
      by_cases h : offset ≤ l.code.length
      · rw [if_pos h, if_pos h]
      · rw [if_neg h, if_neg h, ← List.map_cons, ih (List.cons_ne_nil _ _)]

/-- A finding of a statement on moved lines is the renumbered finding. -/
theorem findingAt_mapLines {st : Statement} (hst : st.lines ≠ []) (c : Code) (m : String)
    (offset : Nat) : (st.mapLines g).findingAt c m offset = (st.findingAt c m offset).renumber f := by
  unfold findingAt locate
  rw [mapLines_lines, locateIn_mapLines hg hst]
  rfl

end Statement

section StatementRules

variable {f} {g : Line → Line} (hg : Line.MovesBy f g) (s : Settings) {st : Statement}
  (hst : st.lines ≠ [])
include hg hst

/-- Moving the lines by `g` renumbers the findings of the lookahead rule. -/
theorem lookaheadRule_mapLines :
    lookaheadRule s (st.mapLines g) = (lookaheadRule s st).map (Diagnostic.renumber f) := by
  unfold lookaheadRule
  rw [Statement.text_mapLines hg, List.map_flatMap]
  congr 1
  funext call
  simp only [Statement.findingAt_mapLines hg hst]
  cases search lookaheadOn call.args with
  | some r => cases s.disallowLookahead <;> rfl
  | none => cases occurs lookaheadSet call.args <;> rfl

/-- Moving the lines by `g` renumbers the findings of the limit-order rule. -/
theorem limitOrderRule_mapLines :
    limitOrderRule s (st.mapLines g) = (limitOrderRule s st).map (Diagnostic.renumber f) := by
  unfold limitOrderRule
  rw [Statement.text_mapLines hg, List.map_flatMap]
  congr 1
  funext call
  simp only [Statement.findingAt_mapLines hg hst]
  cases occurs limitSet call.args with
  | false => cases s.requireLimitOrders <;> rfl
  | true => cases search limitAtBarPrice call.args <;> rfl

omit s in
/-- Moving the lines by `g` renumbers the findings of the entry-gating rule. -/
theorem entryGatingRule_mapLines :
    entryGatingRule (st.mapLines g) = (entryGatingRule st).map (Diagnostic.renumber f) := by
  unfold entryGatingRule
  simp only [Statement.text_mapLines hg, Statement.mapLines_scope, Snapshot.mapLines_recent,
    Statement.findingAt_mapLines hg hst]
  split_ifs
  · rfl
  · rfl
  · rw [List.map_map]
    rfl

/-- **The statement rules move with the statement's lines.** -/
theorem statementFindings_mapLines :
    statementFindings s (st.mapLines g) = (statementFindings s st).map (Diagnostic.renumber f) := by
  rw [statementFindings, statementFindings, lookaheadRule_mapLines hg s hst,
    limitOrderRule_mapLines hg s hst, entryGatingRule_mapLines hg hst, List.map_append,
    List.map_append]

end StatementRules

/-- The statement rules quote no line number in their messages. -/
theorem quotesLine_of_fromStatementRule {c : Code} (h : c.fromStatementRule = true) :
    c.quotesLine = false := by
  cases c <;> first | rfl | exact absurd h (by decide)

/-- The statement rules on a statement of moved lines report renumbered findings. -/
theorem flushStatement_mapLines {g : Line → Line} (hg : Line.MovesBy f g) (s : Settings)
    (ls : List Line) (sc : Option Snapshot) :
    List.Forall₂ (Renumbered f) (flushStatement s ls sc)
      (flushStatement s (ls.map g) (sc.map (Snapshot.mapLines g))) := by
  cases ls with
  | nil => exact .nil
  | cons l ls =>
    cases sc with
    | none => exact .nil
    | some sc =>
      have hst : (⟨l :: ls, sc⟩ : Statement).lines ≠ [] := List.cons_ne_nil _ _
      have hmapped : flushStatement s ((l :: ls).map g) (some (sc.mapLines g)) =
          statementFindings s (Statement.mapLines g ⟨l :: ls, sc⟩) := rfl
      rw [Option.map_some, hmapped, statementFindings_mapLines hg s hst]
      exact forall₂_renumbered_map f fun d hd =>
        quotesLine_of_fromStatementRule (fromStatementRule_of_mem_statementFindings hd)

end PineCheck
