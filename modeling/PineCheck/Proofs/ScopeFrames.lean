import Mathlib.Data.List.Induction
import PineCheck.Proofs.Tracker
/-!
# The open frames of a run

The tracker keeps its frames on a stack and only ever pops from the top, while the line it
reads asks to close every frame whose head is indented as deep or deeper. The two agree
because the stack is sorted by indent, and that is an invariant of the whole run rather than
of one step. This module states what the stack holds without mentioning the stack at all:

* `openHeads` reads the lines of a run in order and keeps each line that started a
  statement and that every later statement start is indented deeper than; those are the
  heads whose frames are still open;
* `headFrames` is what one head opens: a function frame if it is a function head, then a
  loop frame if it is a loop head, both at its indent.

One step of the tracker on a sorted stack filters it by indent and pushes the head's frames
(`frameStack_advance`), and adding a line to a run does the same to its open heads
(`openHeads_concat`). By induction on the run, the stack after any run from the start is
the open heads' frames in order (`frameStack_feed`); it is sorted because the open heads
are strictly deeper one after the other (`openHeads_pairwise`). Reading the function and
loop frames off that list gives the snapshot's `inFunction` and the nested-loop finding.

Main statement: `frameStack_eq_openHeads`.
-/

namespace PineCheck

open Script

/-! ## The heads still open -/

/-- The lines of a run that started a statement and that no later statement start has
closed: every later line that starts a statement is indented deeper. -/
def openHeads : List (Line × Snapshot) → List Line
  | [] => []
  | (l, sc) :: later =>
    if !sc.continuation && later.all (fun p => p.2.continuation || decide (l.indent < p.1.indent))
    then l :: openHeads later else openHeads later

/-- The frames a statement head opens: a function frame, then a loop frame, at its indent. -/
def headFrames (l : Line) : List Frame :=
  (if isFunctionHead l.stripped then [⟨.function, l.indent⟩] else []) ++
    (if isLoopHead l.stripped then [⟨.loop, l.indent⟩] else [])

/-- The frames a statement head opens are at its indent. -/
theorem indent_of_mem_headFrames {l : Line} {f : Frame} (h : f ∈ headFrames l) :
    f.indent = l.indent := by
  unfold headFrames at h
  split_ifs at h <;> simp at h <;> rcases h with rfl | rfl <;> rfl

/-- A head's frames are those of its indent: filtering a list of heads by indent filters
their frames the same way. -/
theorem filter_flatMap_headFrames (heads : List Line) (k : Nat) :
    (heads.flatMap headFrames).filter (fun f => decide (f.indent < k)) =
      (heads.filter (fun F => decide (F.indent < k))).flatMap headFrames := by
  induction heads with
  | nil => rfl
  | cons F heads ih =>
    have hF : (headFrames F).filter (fun f => decide (f.indent < k)) =
        if F.indent < k then headFrames F else [] := by
      split
      · exact List.filter_eq_self.2 fun f hf => by simp [indent_of_mem_headFrames hf, *]
      · exact List.filter_eq_nil_iff.2 fun f hf => by simp [indent_of_mem_headFrames hf, *]
    rw [List.flatMap_cons, List.filter_append, hF, ih]
    by_cases hk : F.indent < k <;> simp [hk]

/-- The function frames of a list of heads are those of its function heads. -/
theorem any_function_flatMap_headFrames (heads : List Line) :
    (heads.flatMap headFrames).any (·.kind == .function) =
      heads.any (fun F => isFunctionHead F.stripped) := by
  rw [List.any_flatMap]
  congr 1
  funext F
  unfold headFrames
  split_ifs <;> simp_all

/-- The loop frames of a list of heads are those of its loop heads. -/
theorem any_loop_flatMap_headFrames (heads : List Line) :
    (heads.flatMap headFrames).any (·.kind == .loop) = heads.any (fun F => isLoopHead F.stripped) := by
  rw [List.any_flatMap]
  congr 1
  funext F
  unfold headFrames
  split_ifs <;> simp_all

/-- Each open head started a statement. -/
theorem mem_openHeads {hs : List (Line × Snapshot)} {F : Line} (h : F ∈ openHeads hs) :
    ∃ sc, (F, sc) ∈ hs ∧ sc.continuation = false := by
  induction hs with
  | nil => simp [openHeads] at h
  | cons p hs ih =>
    obtain ⟨l, sc⟩ := p
    unfold openHeads at h
    split at h
    · rename_i hkeep
      rcases List.mem_cons.1 h with rfl | h
      · simp only [Bool.and_eq_true, Bool.not_eq_true'] at hkeep
        exact ⟨sc, List.mem_cons_self .., hkeep.1⟩
      · obtain ⟨sc', hmem, hc⟩ := ih h
        exact ⟨sc', List.mem_cons_of_mem _ hmem, hc⟩
    · obtain ⟨sc', hmem, hc⟩ := ih h
      exact ⟨sc', List.mem_cons_of_mem _ hmem, hc⟩

/-- The open heads are strictly deeper one after the other. -/
theorem openHeads_pairwise (hs : List (Line × Snapshot)) :
    (openHeads hs).Pairwise (fun a b => a.indent < b.indent) := by
  induction hs with
  | nil => exact List.Pairwise.nil
  | cons p hs ih =>
    obtain ⟨l, sc⟩ := p
    unfold openHeads
    split
    · rename_i hkeep
      simp only [Bool.and_eq_true, List.all_eq_true, Bool.or_eq_true, decide_eq_true_eq]
        at hkeep
      refine List.Pairwise.cons (fun G hG => ?_) ih
      obtain ⟨scG, hmem, hc⟩ := mem_openHeads hG
      simpa [hc] using hkeep.2 _ hmem
    · exact ih

/-- Adding a line to a run: a continuation line changes no open head; a line that starts a
statement closes the heads indented as deep or deeper and is itself open. -/
theorem openHeads_concat (hs : List (Line × Snapshot)) (l : Line) (sc : Snapshot) :
    openHeads (hs ++ [(l, sc)]) =
      if sc.continuation then openHeads hs
      else (openHeads hs).filter (fun F => decide (F.indent < l.indent)) ++ [l] := by
  induction hs with
  | nil => cases hc : sc.continuation <;> simp [openHeads, hc]
  | cons p hs ih =>
    obtain ⟨F, scF⟩ := p
    cases hc : sc.continuation
    · -- `F` stays open only if the new statement start is deeper
      simp only [hc, Bool.false_eq_true, if_false] at ih ⊢
      simp only [List.cons_append, openHeads, List.all_append, List.all_cons, List.all_nil, hc,
        Bool.false_or, Bool.and_true, ih]
      split_ifs <;> simp_all
    · simp only [hc, if_true] at ih ⊢
      simp only [List.cons_append, openHeads, List.all_append, List.all_cons, List.all_nil, hc,
        Bool.true_or, Bool.and_true, ih]

/-! ## The stack, one step at a time -/

/-- On a stack whose indents grow towards the top, popping the frames indented at least `k`
from the top removes exactly the frames indented at least `k`. -/
theorem dropWhile_deeper_eq_filter {fs : List Frame}
    (h : fs.Pairwise (fun a b => b.indent ≤ a.indent)) (k : Nat) :
    fs.dropWhile (fun f => decide (f.indent ≥ k)) = fs.filter (fun f => decide (f.indent < k)) := by
  induction fs with
  | nil => rfl
  | cons f fs ih =>
    rw [List.pairwise_cons] at h
    by_cases hf : k ≤ f.indent
    · have hdrop : ¬ f.indent < k := by omega
      rw [List.dropWhile_cons_of_pos (by simpa using hf), ih h.2]
      simp [hdrop]
    · -- `f` stays, and so does every frame below it, being no deeper
      have hbelow : ∀ g ∈ fs, g.indent < k := fun g hg => by have := h.1 g hg; omega
      have hkeep : fs.filter (fun f => decide (f.indent < k)) = fs :=
        List.filter_eq_self.2 fun g hg => by simp [hbelow g hg]
      rw [List.dropWhile_cons_of_neg (by simpa using hf)]
      simp [show f.indent < k by omega, hkeep]

namespace Tracker

/-- The frames of a tracker, read from the bottom of the stack, have growing indents. -/
def StackSorted (t : Tracker) : Prop := t.frameStack.Pairwise (fun a b => a.indent ≤ b.indent)

/-- Read from the top, the frames of a sorted stack have shrinking indents. -/
theorem StackSorted.frames {t : Tracker} (h : t.StackSorted) :
    t.frames.Pairwise (fun a b => b.indent ≤ a.indent) := by
  simpa [StackSorted, frameStack, List.pairwise_reverse] using h

/-- One line on a sorted stack: a continuation line leaves it, a statement start keeps the
frames shallower than the line and pushes the line's own. -/
theorem frameStack_advance {t : Tracker} (h : t.StackSorted) (l : Line) :
    (t.advance l).2.2.frameStack =
      if t.continues l then t.frameStack
      else t.frameStack.filter (fun f => decide (f.indent < l.indent)) ++ headFrames l := by
  simp only [frameStack, advance_frames]
  split
  · rfl
  · unfold openFrames
    rw [dropWhile_deeper_eq_filter h.frames]
    simp only [headFrames, List.filter_reverse]
    split_ifs <;> simp

/-- The nested-loop finding of one line on a sorted stack: a statement start that is a loop
head while a loop frame shallower than it is open. -/
theorem found_advance {t : Tracker} (h : t.StackSorted) (l : Line) :
    (t.advance l).2.1 =
      if !t.continues l && isLoopHead l.stripped &&
          (t.frameStack.filter (fun f => decide (f.indent < l.indent))).any (·.kind == .loop) then
        [Diagnostic.make .nestedLoop "Nested loops detected; consider simplifying." l.number
          (l.indent + 1)]
      else [] := by
  cases hc : t.continues l
  · rw [advance_found, hc, if_neg Bool.false_ne_true, openFrames_snd,
      dropWhile_deeper_eq_filter h.frames]
    simp [frameStack, List.filter_reverse, List.any_reverse]
  · simp [advance_found, hc]

end Tracker

/-! ## Whole runs -/

/-- The frames of a list of heads, in order, have growing indents. -/
theorem flatMap_headFrames_sorted {heads : List Line}
    (h : heads.Pairwise (fun a b => a.indent < b.indent)) :
    (heads.flatMap headFrames).Pairwise (fun a b => a.indent ≤ b.indent) := by
  rw [List.pairwise_flatMap]
  refine ⟨fun F _ => ?_, h.imp fun hlt x hx y hy => ?_⟩
  · unfold headFrames
    split_ifs <;> simp
  · rw [indent_of_mem_headFrames hx, indent_of_mem_headFrames hy]
    exact Nat.le_of_lt hlt

/-- **The frame stack after any run from the start is the open heads' frames.** -/
theorem frameStack_feed (w : Nat) (ls : List Line) :
    ((Tracker.start w).feed ls).frameStack =
      (openHeads ((Tracker.start w).history ls)).flatMap headFrames := by
  induction ls using List.reverseRecOn with
  | nil => rfl
  | append_singleton ls l ih =>
    have hsorted : ((Tracker.start w).feed ls).StackSorted := by
      rw [Tracker.StackSorted, ih]
      exact flatMap_headFrames_sorted (openHeads_pairwise _)
    rw [Tracker.feed_concat, Tracker.history_concat, Tracker.frameStack_advance hsorted,
      openHeads_concat, Tracker.advance_continuation]
    split
    · exact ih
    · rw [ih, filter_flatMap_headFrames, List.flatMap_append, List.flatMap_singleton]

/-- **Every run from the start keeps its stack sorted.** -/
theorem stackSorted_feed (w : Nat) (ls : List Line) : ((Tracker.start w).feed ls).StackSorted := by
  rw [Tracker.StackSorted, frameStack_feed]
  exact flatMap_headFrames_sorted (openHeads_pairwise _)

/-! ## The frames after each step -/

/-- **The frames after each line of a run are those of the heads still open.** Feed the
lines `fed` and then `L` to a fresh tracker. After `L`:

* the stack, from the bottom, holds the frames of the open heads of the run, in order;
* its indents grow towards the top, so popping from the top while the top frame is indented
  at least `k` removes exactly the frames indented at least `k`;
* the snapshot of `L` is in a function exactly when an open head, `L` included, is a
  function head;
* `L` is reported as a nested loop exactly when it starts a statement, is a loop head, and a
  loop head read before it is still open. -/
theorem frameStack_eq_openHeads (w : Nat) (fed : List Line) (L : Line) :
    let r := ((Tracker.start w).feed fed).advance L
    let heads := openHeads ((Tracker.start w).history (fed ++ [L]))
    r.2.2.frameStack = heads.flatMap headFrames ∧
    r.2.2.frameStack.Pairwise (fun a b => a.indent ≤ b.indent) ∧
    (∀ k, r.2.2.frames.dropWhile (fun f => decide (f.indent ≥ k)) =
      r.2.2.frames.filter (fun f => decide (f.indent < k))) ∧
    (r.1.inFunction = true ↔ ∃ F ∈ heads, isFunctionHead F.stripped = true) ∧
    r.2.1 =
      if !r.1.continuation && isLoopHead L.stripped &&
          heads.dropLast.any (fun F => isLoopHead F.stripped) then
        [Diagnostic.make .nestedLoop "Nested loops detected; consider simplifying." L.number
          (L.indent + 1)]
      else [] := by
  intro r heads
  have hstack : r.2.2.frameStack = heads.flatMap headFrames := by
    have h := frameStack_feed w (fed ++ [L])
    rwa [Tracker.feed_concat] at h
  have hsorted : r.2.2.StackSorted := by
    have h := stackSorted_feed w (fed ++ [L])
    rwa [Tracker.feed_concat] at h
  refine ⟨hstack, hsorted, fun k => dropWhile_deeper_eq_filter hsorted.frames k, ?_, ?_⟩
  · -- the snapshot reads the function frames of the stack the line leaves
    have hin : r.1.inFunction = r.2.2.frameStack.any (·.kind == .function) := by
      simp [r, Tracker.frameStack]
    rw [hin, hstack, any_function_flatMap_headFrames]
    simp
  · -- before `L` the stack held the frames of the heads open before it
    have hfed := frameStack_feed w fed
    rw [show r.2.1 = _ from Tracker.found_advance (stackSorted_feed w fed) L]
    simp only [r, Tracker.advance_continuation]
    cases hc : ((Tracker.start w).feed fed).continues L
    · have hheads : heads.dropLast =
          (openHeads ((Tracker.start w).history fed)).filter
            (fun F => decide (F.indent < L.indent)) := by
        simp [heads, openHeads_concat, hc]
      rw [hheads, hfed, filter_flatMap_headFrames, any_loop_flatMap_headFrames]
    · simp

end PineCheck
