import Mathlib.Tactic.SplitIfs
import PineCheck.Scope.Tracker
/-!
# Runs of the scope tracker

The tracker reads the code lines of a file one at a time (`Tracker.advance`). A run of it
leaves two things that the laws of the later modules talk about: the state after a list of
lines (`Tracker.feed`), and the lines read, each paired with the snapshot the rules saw at
it (`Tracker.history`, read off `Tracker.trace`). Both split at any point of the list
(`feed_append`, `history_append`), so a law of a whole run is proved by one step at the end
of the list.

`advance` gets one lemma per field it writes, all of them `@[simp]`. Later proofs read a
step through these lemmas and never unfold `advance`: a line that continues a statement
leaves the frames, the pending block and the statement indent alone and reports nothing;
a line that starts a statement pops and pushes frames with `openFrames`. What decides
between the two is `continues`, which reads only the open brackets, the last line and the
statement indent.
-/

namespace PineCheck

open Script

namespace Tracker

/-! ## Runs -/

/-- The state after reading lines one by one. -/
def feed (t : Tracker) (ls : List Line) : Tracker := ls.foldl (fun t l => (t.advance l).2.2) t

/-- The lines read, each with what the rules saw of the scope at it. -/
def history (t : Tracker) (ls : List Line) : List (Line × Snapshot) :=
  ls.zip ((trace t ls).map (·.1))

/-- Feeding no line leaves the tracker as it is. -/
@[simp] theorem feed_nil (t : Tracker) : t.feed [] = t := rfl

/-- Feeding lines is a step on the first, then feeding the rest. -/
@[simp] theorem feed_cons (t : Tracker) (l : Line) (ls : List Line) :
    t.feed (l :: ls) = (t.advance l).2.2.feed ls := rfl

/-- Feeding two runs of lines is feeding the first, then the second. -/
theorem feed_append (t : Tracker) (ls ms : List Line) :
    t.feed (ls ++ ms) = (t.feed ls).feed ms := List.foldl_append

/-- Feeding one more line is one more step. -/
@[simp] theorem feed_concat (t : Tracker) (ls : List Line) (l : Line) :
    t.feed (ls ++ [l]) = ((t.feed ls).advance l).2.2 := by
  rw [feed_append]; rfl

/-- No line has no history. -/
@[simp] theorem history_nil (t : Tracker) : t.history [] = [] := rfl

/-- The history of lines is the first line with the scope it saw, then the history of the rest. -/
@[simp] theorem history_cons (t : Tracker) (l : Line) (ls : List Line) :
    t.history (l :: ls) = (l, (t.advance l).1) :: (t.advance l).2.2.history ls := rfl

/-- The history of two runs of lines is the first's, then the second's from where it ended. -/
theorem history_append (t : Tracker) (ls ms : List Line) :
    t.history (ls ++ ms) = t.history ls ++ (t.feed ls).history ms := by
  induction ls generalizing t with
  | nil => rfl
  | cons l ls ih => simp [ih]

/-- One more line adds it with the scope it saw. -/
@[simp] theorem history_concat (t : Tracker) (ls : List Line) (l : Line) :
    t.history (ls ++ [l]) = t.history ls ++ [(l, ((t.feed ls).advance l).1)] := by
  rw [history_append]; rfl

/-- The lines of a history are the lines fed. -/
@[simp] theorem map_fst_history (t : Tracker) (ls : List Line) : (t.history ls).map Prod.fst = ls := by
  induction ls generalizing t with
  | nil => rfl
  | cons l ls ih => simp [ih]

/-- A history has one entry per line. -/
@[simp] theorem length_history (t : Tracker) (ls : List Line) : (t.history ls).length = ls.length := by
  rw [← List.length_map (f := Prod.fst), map_fst_history]

/-! ## One step, field by field -/

section Step

variable (t : Tracker) (l : Line)

/-- The snapshot of a step shows the line's indent. -/
@[simp] theorem advance_indent : (t.advance l).1.indent = l.indent := by
  unfold advance; cases t.continues l <;> rfl

/-- The snapshot of a step shows whether the line continues the statement. -/
@[simp] theorem advance_continuation : (t.advance l).1.continuation = t.continues l := by
  unfold advance; cases t.continues l <;> rfl

/-- The snapshot of a step shows the line in a block when it is indented. -/
@[simp] theorem advance_inBlock : (t.advance l).1.inBlock = decide (0 < l.indent) := by
  unfold advance; cases t.continues l <;> rfl

/-- The snapshot of a step shows the dangling line before it. -/
@[simp] theorem advance_dangling : (t.advance l).1.dangling = t.danglingLine := by
  unfold advance; cases t.continues l <;> rfl

/-- The snapshot of a step hands a statement head the block pending before it. -/
@[simp] theorem advance_blockOpener :
    (t.advance l).1.blockOpener = if t.continues l then none else t.pendingBlock := by
  unfold advance; cases t.continues l <;> rfl

/-- The snapshot of a step shows the recent lines before it. -/
@[simp] theorem advance_snapshot_recent : (t.advance l).1.recent = t.recent := by
  unfold advance; cases t.continues l <;> rfl

/-- The snapshot sees the frames and the persistent names as the line leaves them. -/
@[simp] theorem advance_inFunction :
    (t.advance l).1.inFunction = (t.advance l).2.2.frames.any (·.kind == .function) := by
  unfold advance; cases t.continues l <;> rfl

/-- The snapshot of a step shows the persistent names after it. -/
@[simp] theorem advance_snapshot_globals : (t.advance l).1.globals = (t.advance l).2.2.globals := by
  unfold advance; cases t.continues l <;> rfl

/-- A step reports only when the line starts a statement: what opening and closing frames at it
reports. -/
theorem advance_found :
    (t.advance l).2.1 = if t.continues l then [] else (openFrames t.frames l l.stripped).2 := by
  unfold advance; cases t.continues l <;> rfl

/-- A step opens and closes frames at a statement head, and keeps them on a continued line. -/
@[simp] theorem advance_frames :
    (t.advance l).2.2.frames =
      if t.continues l then t.frames else (openFrames t.frames l l.stripped).1 := by
  unfold advance; cases t.continues l <;> rfl

/-- A statement head that opens a block leaves it pending; a continued line keeps the pending block.
-/
@[simp] theorem advance_pendingBlock :
    (t.advance l).2.2.pendingBlock =
      if t.continues l then t.pendingBlock else if opensBlock l.stripped then some l else none := by
  unfold advance; cases t.continues l <;> rfl

/-- A statement head sets the statement's indent. -/
@[simp] theorem advance_statementIndent :
    (t.advance l).2.2.statementIndent = if t.continues l then t.statementIndent else l.indent := by
  unfold advance; cases t.continues l <;> rfl

/-- A step remembers its line as the last code line. -/
@[simp] theorem advance_lastCode : (t.advance l).2.2.lastCode = some l := by
  unfold advance; cases t.continues l <;> rfl

/-- A step counts the brackets carried over and those of the line. -/
@[simp] theorem advance_openBrackets :
    (t.advance l).2.2.openBrackets = ((t.carriedBrackets l : Int) + netBrackets l.code).toNat := by
  unfold advance; cases t.continues l <;> rfl

/-- A step adds its line to the recent lines and keeps as many as the window. -/
@[simp] theorem advance_recent :
    (t.advance l).2.2.recent = lastItems t.window (t.recent ++ [l.stripped]) := by
  unfold advance; cases t.continues l <;> rfl

/-- A step keeps the window. -/
@[simp] theorem advance_window : (t.advance l).2.2.window = t.window := by
  unfold advance; cases t.continues l <;> rfl

end Step

/-- The finding of `openFrames`: a loop head while a loop frame survives the pop. The
function frame pushed before the loop frame is no loop. -/
theorem openFrames_snd (fs : List Frame) (l : Line) (code : List Char) :
    (openFrames fs l code).2 =
      if isLoopHead code &&
          (fs.dropWhile (fun f => decide (f.indent ≥ l.indent))).any (·.kind == .loop) then
        [Diagnostic.make .nestedLoop "Nested loops detected; consider simplifying." l.number
          (l.indent + 1)]
      else [] := by
  unfold openFrames
  split_ifs <;> simp_all

/-- The tracker reports nothing but nested loops. -/
theorem code_of_mem_advance_found {t : Tracker} {l : Line} {d : Diagnostic}
    (h : d ∈ (t.advance l).2.1) : d.code = .nestedLoop := by
  rw [advance_found] at h
  split at h
  · simp at h
  · rw [openFrames_snd] at h
    split at h
    · simp only [List.mem_singleton] at h
      rw [h]; rfl
    · simp at h

/-! ## Continuation -/

/-- A line that starts a statement carries no open bracket over. -/
theorem carriedBrackets_eq_zero_of_continues_false {t : Tracker} {l : Line}
    (h : t.continues l = false) : t.carriedBrackets l = 0 := by
  unfold continues at h
  simp only [Bool.or_eq_false_iff, decide_eq_false_iff_not, Nat.not_lt] at h
  omega

/-- Open brackets are dropped only at a line no deeper than the statement's first line,
after a line that does not dangle. -/
theorem carriedBrackets_eq_of_keeps {t : Tracker} {l : Line}
    (h : 0 < t.openBrackets → t.danglingLine.isSome ∨ t.statementIndent < l.indent) :
    t.carriedBrackets l = t.openBrackets := by
  unfold carriedBrackets
  split
  · rename_i hdrop
    simp only [Bool.and_eq_true, decide_eq_true_eq, Option.isNone_iff_eq_none] at hdrop
    obtain ⟨⟨hpos, hnone⟩, hle⟩ := hdrop
    rcases h hpos with hs | hlt
    · simp [hnone] at hs
    · omega
  · rfl

/-- Before any line nothing dangles and nothing is open, so the first line starts a
statement. -/
@[simp] theorem start_continues (w : Nat) (l : Line) : (start w).continues l = false := rfl

end Tracker

end PineCheck
