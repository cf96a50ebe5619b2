import PineCheck.Proofs.Statements
/-!
# A top-level line resets the tracker

The tracker carries state from line to line: open frames, open brackets, the statement's
indent, a pending block opener, the last line. A line at indent 0 after a line that does not
dangle starts a statement whatever that state is: it carries no bracket over (the count is
dropped at a line no deeper than the statement's first), it closes every frame (each frame's
head is at indent 0 or deeper), and it takes the pending block opener. After it, two
trackers with the same window differ at most in the persistent names and the recent lines.

Neither of those is read by a step: the persistent names are only added to, and the recent
lines only shifted (`Tracker.forget`, `advance_forget`). So two such trackers go on to see
the same scope, report the same findings and cut the same statements on any further lines,
and their recent lines agree once the window has filled with lines after the top-level one.
An unclosed bracket or a broken indent does not leak past such a line.

Main statement: `topLevel_line_resets_tracker`.
-/

namespace PineCheck

open Script

/-! ## What a step reads -/

namespace Tracker

/-- The state with its persistent names and recent lines forgotten: what a step reads of
it, besides the window. -/
def forget (t : Tracker) : Tracker := { t with globals := [], recent := [] }

end Tracker

/-- A snapshot with the persistent names and the recent lines forgotten. -/
def Snapshot.forget (sc : Snapshot) : Snapshot := { sc with globals := [], recent := [] }

/-- Forgetting keeps whether the line continues a statement. -/
@[simp] theorem Snapshot.forget_continuation (sc : Snapshot) :
    sc.forget.continuation = sc.continuation := rfl

namespace Tracker

/-- Whether a line continues the statement reads nothing forgotten. -/
@[simp] theorem continues_forget (t : Tracker) (l : Line) : t.forget.continues l = t.continues l :=
  rfl

/-- **A step reads no persistent name and no recent line.** -/
theorem advance_forget (t : Tracker) (l : Line) :
    (t.forget.advance l).1.forget = (t.advance l).1.forget ∧
      (t.forget.advance l).2.1 = (t.advance l).2.1 ∧
      (t.forget.advance l).2.2.forget = (t.advance l).2.2.forget := by
  unfold advance
  rw [continues_forget]
  cases t.continues l <;> exact ⟨rfl, rfl, rfl⟩

/-- Two states that agree but for the persistent names and the recent lines take the same
step. -/
theorem advance_congr {t₁ t₂ : Tracker} (h : t₁.forget = t₂.forget) (l : Line) :
    (t₁.advance l).1.forget = (t₂.advance l).1.forget ∧
      (t₁.advance l).2.1 = (t₂.advance l).2.1 ∧
      (t₁.advance l).2.2.forget = (t₂.advance l).2.2.forget := by
  obtain ⟨hs₁, hf₁, ht₁⟩ := advance_forget t₁ l
  obtain ⟨hs₂, hf₂, ht₂⟩ := advance_forget t₂ l
  rw [← hs₁, ← hs₂, ← hf₁, ← hf₂, ← ht₁, ← ht₂, h]
  exact ⟨rfl, rfl, rfl⟩

/-! ## Runs from states that agree -/

section Runs

variable {t₁ t₂ : Tracker}

/-- Trackers that agree but for what is forgotten show the same scopes along any lines, but for what
is forgotten. -/
theorem history_congr (h : t₁.forget = t₂.forget) (ls : List Line) :
    (t₁.history ls).map (fun p => (p.1, p.2.forget)) =
      (t₂.history ls).map (fun p => (p.1, p.2.forget)) := by
  induction ls generalizing t₁ t₂ with
  | nil => rfl
  | cons l ls ih =>
    obtain ⟨hsnap, -, hnext⟩ := advance_congr h l
    simp only [history_cons, List.map_cons, hsnap, ih hnext]

/-- Trackers that agree but for what is forgotten report the same findings along any lines. -/
theorem found_trace_congr (h : t₁.forget = t₂.forget) (ls : List Line) :
    (trace t₁ ls).map (·.2.1) = (trace t₂ ls).map (·.2.1) := by
  induction ls generalizing t₁ t₂ with
  | nil => rfl
  | cons l ls ih =>
    obtain ⟨-, hfound, hnext⟩ := advance_congr h l
    simp only [trace, List.map_cons, hfound, ih hnext]

end Runs

/-! ## The top-level line -/

section TopLevel

variable {t : Tracker} {L : Line}

/-- A line at indent 0 after a line that does not dangle starts a statement. -/
theorem continues_eq_false_of_topLevel (hd : t.danglingLine = none) (hL : L.indent = 0) :
    t.continues L = false := by
  unfold continues carriedBrackets
  simp [hd, hL]

/-- A line at indent 0 closes every frame. -/
theorem openFrames_of_topLevel (fs : List Frame) (hL : L.indent = 0) (code : List Char) :
    openFrames fs L code = openFrames [] L code := by
  have hdrop : fs.dropWhile (fun f => decide (f.indent ≥ L.indent)) = [] := by
    induction fs with
    | nil => rfl
    | cons f fs ih => rw [List.dropWhile_cons_of_pos (by simp [hL])]; exact ih
  unfold openFrames
  rw [hdrop]
  rfl

/-- A top-level line reports no nested loop: no loop frame survives it. -/
theorem found_advance_of_topLevel (hd : t.danglingLine = none) (hL : L.indent = 0) :
    (t.advance L).2.1 = [] := by
  rw [advance_found, continues_eq_false_of_topLevel hd hL, openFrames_of_topLevel _ hL,
    openFrames_snd]
  simp

/-- **After a top-level line, the state depends on the line and the window alone**, but for
the persistent names and the recent lines. -/
theorem forget_advance_of_topLevel (hd : t.danglingLine = none) (hL : L.indent = 0) :
    (t.advance L).2.2.forget =
      ((start t.window).advance L).2.2.forget := by
  have hc := continues_eq_false_of_topLevel hd hL
  have hc₀ := continues_eq_false_of_topLevel (t := start t.window) rfl hL
  simp only [forget, advance_frames, advance_pendingBlock, advance_lastCode,
    advance_openBrackets, advance_statementIndent, advance_window, hc, hc₀,
    carriedBrackets_eq_zero_of_continues_false hc, carriedBrackets_eq_zero_of_continues_false hc₀,
    Bool.false_eq_true, if_false, openFrames_of_topLevel _ hL]
  rfl

end TopLevel

/-! ## Recent lines -/

/-- Keeping the last `n` items before adding more and again after is keeping them once after. -/
theorem lastItems_lastItems_append {α : Type} (n : Nat) (xs ys : List α) :
    lastItems n (lastItems n xs ++ ys) = lastItems n (xs ++ ys) := by
  unfold lastItems
  by_cases hle : xs.length ≤ n
  · rw [Nat.sub_eq_zero_of_le hle, List.drop_zero]
  · -- both sides drop the first `xs.length - n` items, then as many as `ys` has
    have hlen : (xs.drop (xs.length - n)).length = n := by rw [List.length_drop]; omega
    have hk : xs.length + ys.length - n = (xs.length - n) + ys.length := by omega
    simp only [List.length_append]
    rw [hlen, show n + ys.length - n = ys.length by omega, hk, ← List.drop_drop,
      @List.drop_append_of_le_length _ xs ys (xs.length - n) (by omega)]

/-- Once `n` items follow, the last `n` items are theirs. -/
theorem lastItems_append_of_le {α : Type} {n : Nat} (xs : List α) {ys : List α}
    (h : n ≤ ys.length) : lastItems n (xs ++ ys) = lastItems n ys := by
  unfold lastItems
  rw [List.length_append, show xs.length + ys.length - n = xs.length + (ys.length - n) by omega,
    List.drop_length_add_append]

/-- The recent lines after a run: the last lines of the window, the run's included. -/
theorem recent_feed_advance (t : Tracker) (l : Line) (ls : List Line) :
    ((t.advance l).2.2.feed ls).recent = lastItems t.window (t.recent ++ (l :: ls).map (·.stripped)) := by
  induction ls generalizing t l with
  | nil => simp
  | cons l' ls ih =>
    rw [feed_cons, ih, advance_window, advance_recent, lastItems_lastItems_append]
    simp

end Tracker

/-- Statements are cut at the lines whose snapshots do not continue one: two runs with the
same lines and the same continuation flags are cut the same way. -/
theorem lines_groupStatements_congr :
    ∀ {hs₁ hs₂ : List (Line × Snapshot)},
      hs₁.map (fun p => (p.1, p.2.continuation)) = hs₂.map (fun p => (p.1, p.2.continuation)) →
      (groupStatements hs₁).map (·.lines) = (groupStatements hs₂).map (·.lines) := by
  intro hs₁
  induction hs₁ using groupStatements.induct with
  | case1 =>
    intro hs₂ h
    rw [List.map_nil, eq_comm, List.map_eq_nil_iff] at h
    rw [h]
  | case2 l sc rest ih =>
    intro hs₂ h
    cases hs₂ with
    | nil => simp at h
    | cons p rest' =>
      obtain ⟨l', sc'⟩ := p
      simp only [List.map_cons, List.cons.injEq, Prod.mk.injEq] at h
      obtain ⟨⟨rfl, -⟩, hrest⟩ := h
      -- the flags decide where the first statement ends, and the lines after it
      have htake := congrArg (List.map Prod.fst) (congrArg (List.takeWhile (·.2)) hrest)
      have hdrop := congrArg (List.dropWhile (·.2)) hrest
      simp only [List.takeWhile_map, List.dropWhile_map, List.map_map, Function.comp_def]
        at htake hdrop
      rw [groupStatements, groupStatements, List.map_cons, List.map_cons, ih hdrop]
      simp only [List.cons.injEq, true_and, and_true]
      exact htake

/-! ## Two runs through a top-level line -/

/-- **A top-level line resets the tracker.** Advance two trackers with the same window,
whose last line does not dangle, on the same line `L` at indent 0. The two snapshots at `L`
agree but for the block opener, the persistent names and the recent lines; neither reports a
nested loop; and the two states after `L` agree but for the persistent names and the recent
lines. On any further lines the two then see the same scope (block openers included),
report the same nested loops and cut the same statements, and their recent lines agree once
the window holds only `L` and lines after it. -/
theorem topLevel_line_resets_tracker (t₁ t₂ : Tracker) (L : Line)
    (hwindow : t₁.window = t₂.window) (h₁ : t₁.danglingLine = none)
    (h₂ : t₂.danglingLine = none) (hL : L.indent = 0) :
    { (t₁.advance L).1.forget with blockOpener := none } =
      { (t₂.advance L).1.forget with blockOpener := none } ∧
    (t₁.advance L).2.1 = [] ∧ (t₂.advance L).2.1 = [] ∧
    (t₁.advance L).2.2.forget = (t₂.advance L).2.2.forget ∧
    ∀ ls : List Line,
      ((t₁.advance L).2.2.history ls).map (fun p => (p.1, p.2.forget)) =
        ((t₂.advance L).2.2.history ls).map (fun p => (p.1, p.2.forget)) ∧
      (Tracker.trace (t₁.advance L).2.2 ls).map (·.2.1) =
        (Tracker.trace (t₂.advance L).2.2 ls).map (·.2.1) ∧
      (groupStatements (t₁.history (L :: ls))).map (·.lines) =
        (groupStatements (t₂.history (L :: ls))).map (·.lines) ∧
      (t₁.window ≤ ls.length + 1 →
        ((t₁.advance L).2.2.feed ls).recent = ((t₂.advance L).2.2.feed ls).recent) := by
  have hc₁ := Tracker.continues_eq_false_of_topLevel h₁ hL
  have hc₂ := Tracker.continues_eq_false_of_topLevel h₂ hL
  have hstate : (t₁.advance L).2.2.forget = (t₂.advance L).2.2.forget := by
    rw [Tracker.forget_advance_of_topLevel h₁ hL, Tracker.forget_advance_of_topLevel h₂ hL,
      hwindow]
  have hsnap : { (t₁.advance L).1.forget with blockOpener := none } =
      { (t₂.advance L).1.forget with blockOpener := none } := by
    -- the snapshot sees the frames as `L` leaves them, and nothing that dangles
    simp [Snapshot.forget, hc₁, hc₂, h₁, h₂, Tracker.openFrames_of_topLevel _ hL]
  refine ⟨hsnap, Tracker.found_advance_of_topLevel h₁ hL,
    Tracker.found_advance_of_topLevel h₂ hL, hstate, fun ls => ⟨?_, ?_, ?_, ?_⟩⟩
  · exact Tracker.history_congr hstate ls
  · exact Tracker.found_trace_congr hstate ls
  · -- the cut reads only the continuation flags, which the forgotten snapshots keep
    apply lines_groupStatements_congr
    have h := congrArg (List.map fun p : Line × Snapshot => (p.1, p.2.continuation))
      (Tracker.history_congr hstate ls)
    simp only [List.map_map, Function.comp_def, Snapshot.forget_continuation] at h
    simp [Tracker.history_cons, hc₁, hc₂, h]
  · intro hlen
    rw [Tracker.recent_feed_advance, Tracker.recent_feed_advance, ← hwindow,
      Tracker.lastItems_append_of_le _ (by simpa using hlen),
      Tracker.lastItems_append_of_le _ (by simpa using hlen)]

/-- A bracket left open before a top-level line does not leak past it. -/
theorem topLevel_line_resets_unclosed_bracket :
    ((Tracker.start 2).feed [Line.classify 1 "x = f(a, b".toList]).window = (Tracker.start 2).window ∧ ((Tracker.start 2).feed [Line.classify 1 "x = f(a, b".toList]).danglingLine = none ∧
    (Tracker.start 2).danglingLine = none ∧ (Line.classify 2 "y = 1".toList).indent = 0 ∧
    ({ (((Tracker.start 2).feed [Line.classify 1 "x = f(a, b".toList]).advance (Line.classify 2 "y = 1".toList)).1.forget with blockOpener := none } =
      { ((Tracker.start 2).advance (Line.classify 2 "y = 1".toList)).1.forget with blockOpener := none } ∧
    (((Tracker.start 2).feed [Line.classify 1 "x = f(a, b".toList]).advance (Line.classify 2 "y = 1".toList)).2.1 = [] ∧ ((Tracker.start 2).advance (Line.classify 2 "y = 1".toList)).2.1 = [] ∧
    (((Tracker.start 2).feed [Line.classify 1 "x = f(a, b".toList]).advance (Line.classify 2 "y = 1".toList)).2.2.forget = ((Tracker.start 2).advance (Line.classify 2 "y = 1".toList)).2.2.forget ∧
    ∀ ls : List Line,
      ((((Tracker.start 2).feed [Line.classify 1 "x = f(a, b".toList]).advance (Line.classify 2 "y = 1".toList)).2.2.history ls).map (fun p => (p.1, p.2.forget)) =
        (((Tracker.start 2).advance (Line.classify 2 "y = 1".toList)).2.2.history ls).map (fun p => (p.1, p.2.forget)) ∧
      (Tracker.trace (((Tracker.start 2).feed [Line.classify 1 "x = f(a, b".toList]).advance (Line.classify 2 "y = 1".toList)).2.2 ls).map (·.2.1) =
        (Tracker.trace ((Tracker.start 2).advance (Line.classify 2 "y = 1".toList)).2.2 ls).map (·.2.1) ∧
      (groupStatements (((Tracker.start 2).feed [Line.classify 1 "x = f(a, b".toList]).history ((Line.classify 2 "y = 1".toList) :: ls))).map (·.lines) =
        (groupStatements ((Tracker.start 2).history ((Line.classify 2 "y = 1".toList) :: ls))).map (·.lines) ∧
      (((Tracker.start 2).feed [Line.classify 1 "x = f(a, b".toList]).window ≤ ls.length + 1 →
        ((((Tracker.start 2).feed [Line.classify 1 "x = f(a, b".toList]).advance (Line.classify 2 "y = 1".toList)).2.2.feed ls).recent = (((Tracker.start 2).advance (Line.classify 2 "y = 1".toList)).2.2.feed ls).recent)) :=
  have hwindow : ((Tracker.start 2).feed [Line.classify 1 "x = f(a, b".toList]).window = (Tracker.start 2).window := by decide
  have h₁ : ((Tracker.start 2).feed [Line.classify 1 "x = f(a, b".toList]).danglingLine = none := by decide
  have h₂ : (Tracker.start 2).danglingLine = none := by decide
  have hL : (Line.classify 2 "y = 1".toList).indent = 0 := by decide
  ⟨hwindow, h₁, h₂, hL, topLevel_line_resets_tracker _ _ _ hwindow h₁ h₂ hL⟩

end PineCheck
