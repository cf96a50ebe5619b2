import PineCheck.Proofs.RenumberedPass
import PineCheck.Proofs.LineEndings
import PineCheck.Proofs.CallTally
import PineCheck.Proofs.BracketDepth
/-!
# A line inserted into a text

Insert one line into a text, after some whole lines: a blank line anywhere, or a comment line
after a line that is not blank, on which no text rule finds anything (`QuietComment`). The
lines from the inserted one on are numbered one more (`shiftLine`), and the report moves with
them: every finding at or after the inserted line points one line further, and so do the
lines that a mismatched bracket or a block indent finding quotes; the findings before it stay.
Only the findings that always point at line 1 stay where they are (`Diagnostic.Moved`).

The proof follows the report through its parts. The inserted line leaves the pass as it is
(`Pass.step_classify_nil`, `Pass.step_of_quietComment`), so the pass over the new lines is
the pass over the old ones renumbered (`runPass_insert`). The bracket check reads nothing on
it (`checkBrackets_insert`), and the end-of-file check finds the last line one further
(`preconditionFindings_insert`). Sorting keeps the carriage-return finding in front and the
other line findings in step; none of those stays on line 1 (`Pass.OffFirstLine`). The file
rules move with the tally (`fileFindings_moved`).
-/

namespace PineCheck

open Script Text
open Diagnostic (Renumbered Moved)

/-! ## Line numbers after an inserted line -/

/-- Where line `m` goes when a line is inserted as line `k`: the lines from `k` on move one
line down. -/
def shiftLine (k m : Nat) : Nat := if k ≤ m then m + 1 else m

/-- A line before the inserted one keeps its number. -/
theorem shiftLine_of_lt {k m : Nat} (h : m < k) : shiftLine k m = m :=
  if_neg (Nat.not_le.2 h)

/-- A line from the inserted one on moves one line down. -/
theorem shiftLine_of_le {k m : Nat} (h : k ≤ m) : shiftLine k m = m + 1 :=
  if_pos h

/-- Inserting a line keeps the other lines in order. -/
theorem shiftLine_strictMono (k : Nat) : StrictMono (shiftLine k) := by
  intro a b hab
  unfold shiftLine
  split_ifs <;> omega

/-- Two renumberings that agree on a line's number give the same line. -/
theorem Line.renumber_congr {f g : Nat → Nat} {l : Line} (h : f l.number = g l.number) :
    l.renumber f = l.renumber g := by
  unfold Line.renumber
  rw [h]

/-- Renumbering twice is renumbering by the composite. -/
theorem Line.renumber_renumber (f g : Nat → Nat) (l : Line) :
    (l.renumber f).renumber g = l.renumber (g ∘ f) := rfl

/-- The lines before the inserted one keep their numbers. -/
theorem map_renumber_shiftLine_of_lt {k : Nat} {ls : List Line} (h : ∀ l ∈ ls, l.number < k) :
    ls.map (Line.renumber (shiftLine k)) = ls := by
  conv_rhs => rw [← List.map_id ls]
  exact List.map_congr_left fun l hl => Line.renumber_congr (g := id) (shiftLine_of_lt (h l hl))

/-- The lines from the inserted one on move one line down. -/
theorem map_renumber_shiftLine_of_le {k : Nat} {ls : List Line} (h : ∀ l ∈ ls, k ≤ l.number) :
    ls.map (Line.renumber (· + 1)) = ls.map (Line.renumber (shiftLine k)) :=
  List.map_congr_left fun l hl => Line.renumber_congr (shiftLine_of_le (h l hl)).symm

/-! ## The lines of the text -/

/-- The texts of a text's classified lines are its physical lines. -/
theorem map_text_classifyLines (content : List Char) :
    (classifyLines content).map Line.text = physicalLines content := by
  unfold classifyLines
  rw [List.map_map]
  exact List.zipIdx_map_fst 0 _

/-- A text has as many classified lines as physical lines. -/
theorem length_classifyLines (content : List Char) :
    (classifyLines content).length = (physicalLines content).length := by
  rw [← map_text_classifyLines, List.length_map]

/-- Every text has a physical line, an empty one if it is empty. -/
theorem physicalLines_ne_nil (content : List Char) : physicalLines content ≠ [] := by
  unfold physicalLines
  dsimp only
  rw [Ne, List.map_eq_nil_iff]
  split
  · -- a text that ends in a line feed is cut into two pieces at least
    rename_i hlast
    have hmem : '\n' ∈ content := List.mem_of_getLast? (by simpa using hlast)
    have hcount : 0 < content.count '\n' := List.count_pos_iff.2 hmem
    rw [← Ne, ← List.length_pos_iff, List.length_dropLast, length_splitAt]
    omega
  · exact splitAt_ne_nil '\n' content

/-- Every text has a classified line. -/
theorem classifyLines_ne_nil (content : List Char) : classifyLines content ≠ [] := by
  rw [← List.length_pos_iff, length_classifyLines, List.length_pos_iff]
  exact physicalLines_ne_nil content

/-- Every classified line is numbered within the text's lines. -/
theorem number_le_of_mem_classifyLines {content : List Char} {l : Line}
    (h : l ∈ classifyLines content) : l.number ≤ (physicalLines content).length := by
  obtain ⟨⟨text, i⟩, hi, rfl⟩ := List.mem_map.1 h
  have hlt := List.snd_lt_add_of_mem_zipIdx hi
  rw [Nat.zero_add] at hlt
  exact hlt

/-- **The lines of a text with a line inserted.** Cut the text `p ++ q` after the whole lines
of `p`: inserting the line `e` there puts it between the lines of `p` and those of `q`, as
line `p.count '\n' + 1`, and numbers each line of `q` one more. -/
theorem classifyLines_insert {p q e : List Char} (hp : p = [] ∨ p.getLast? = some '\n')
    (hq : q ≠ []) (hn : '\n' ∉ e) (hr : '\r' ∉ e) :
    ∃ before after : List Line, before.length = p.count '\n' ∧ after ≠ [] ∧
      (p ≠ [] → before = classifyLines p) ∧
      (∀ l ∈ before, l.number ≤ p.count '\n') ∧ (∀ l ∈ after, p.count '\n' < l.number) ∧
      classifyLines (p ++ q) = before ++ after ∧
      classifyLines (p ++ e ++ '\n' :: q) =
        before ++ Line.classify (p.count '\n' + 1) e :: after.map (Line.renumber (· + 1)) := by
  rcases hp with rfl | hp
  · -- nothing before: the inserted line is line 1
    refine ⟨[], classifyLines q, rfl, classifyLines_ne_nil q, fun h => absurd rfl h,
      fun l hl => absurd hl List.not_mem_nil, fun l hl => one_le_number_of_mem_classifyLines hl,
      rfl, ?_⟩
    rw [List.nil_append, classifyLines_line_append hn hq, dropCarriageReturn_of_not_mem hr]
    rfl
  · refine ⟨classifyLines p, (classifyLines q).map (Line.renumber (· + p.count '\n')), ?_, ?_,
      fun _ => rfl, ?_, ?_, classifyLines_append hp hq, ?_⟩
    · rw [length_classifyLines, length_physicalLines hp]
    · simpa using classifyLines_ne_nil q
    · intro l hl
      rw [← length_physicalLines hp]
      exact number_le_of_mem_classifyLines hl
    · intro l hl
      obtain ⟨l', hl', rfl⟩ := List.mem_map.1 hl
      have hone := one_le_number_of_mem_classifyLines hl'
      rw [Line.renumber_number]
      omega
    · have hrest : e ++ '\n' :: q ≠ [] := by simp
      have hcomp : Line.renumber (· + p.count '\n') ∘ Line.renumber (· + 1) =
          Line.renumber (· + 1) ∘ Line.renumber (· + p.count '\n') := by
        funext l
        rw [Function.comp_apply, Function.comp_apply, Line.renumber_renumber,
          Line.renumber_renumber]
        exact Line.renumber_congr (by simp only [Function.comp]; omega)
      rw [List.append_assoc, classifyLines_append hp hrest, classifyLines_line_append hn hq,
        dropCarriageReturn_of_not_mem hr, List.map_cons, List.map_map, List.map_map, hcomp,
        Line.classify_renumber, Nat.add_comm 1]

/-! ## The inserted line -/

/-- A comment line on which the text rules find nothing and that is not a version line: no
line feed, carriage return or tab in it and no blank character at its end. -/
structure QuietComment (e : List Char) : Prop where
  noNewline : '\n' ∉ e
  noReturn : '\r' ∉ e
  noTab : '\t' ∉ e
  comment : (Line.classify 1 e).kind = .comment
  lastNotBlank : e.getLast?.any isBlank = false
  notVersion : isVersionLine (trimBlank e) = false

/-- A line with no tab has no tab finding. -/
theorem Line.tabFinding_of_not_mem {l : Line} (h : '\t' ∉ l.text) : l.tabFinding = [] := by
  unfold Line.tabFinding
  rw [List.idxOf?_eq_none_iff.2 h]

/-- A line that does not end in a blank has no trailing-blanks finding. -/
theorem Line.trailingSpaceFinding_of_getLast? {l : Line} (h : l.text.getLast?.any isBlank = false) :
    l.trailingSpaceFinding = [] := by
  -- the run of blanks at the end is empty: the last character is not blank
  have hrun : (l.text.reverse.takeWhile isBlank).length = 0 := by
    cases hrev : l.text.reverse with
    | nil => rfl
    | cons c rest =>
      have hlast : l.text.getLast? = some c := by rw [← List.head?_reverse, hrev]; rfl
      have hc : isBlank c = false := by rw [hlast] at h; exact h
      rw [List.takeWhile_cons, hc]
      rfl
  unfold Line.trailingSpaceFinding
  dsimp only
  rw [hrun]
  split_ifs <;> simp_all

/-- A blank line with nothing on it leaves the pass as it is. -/
theorem Pass.step_classify_nil (s : Settings) (p : Pass) (n : Nat) :
    p.step s (Line.classify n []) = p := by
  rw [Pass.step_of_not_code s p _ rfl]
  have htally : p.tally.observe (Line.classify n []) = p.tally := rfl
  have hfirst : (p.tally.firstNonblank.isNone && (Line.classify n []).kind != .blank) = false :=
    Bool.and_false _
  have htext : textFindings s (Line.classify n []) false = [] := by
    unfold textFindings
    split <;> rfl
  rw [htally, hfirst, htext, List.append_nil]

/-- A quiet comment line after a line that is not blank leaves the pass as it is. -/
theorem Pass.step_of_quietComment (s : Settings) {p : Pass}
    (hfirst : p.tally.firstNonblank.isNone = false) {e : List Char} (he : QuietComment e)
    (n : Nat) : p.step s (Line.classify n e) = p := by
  have hkind : (Line.classify n e).kind = .comment := he.comment
  rw [Pass.step_of_not_code s p _ (by simp [Line.isCode, hkind])]
  have htally : p.tally.observe (Line.classify n e) = p.tally := by
    obtain ⟨m, hm⟩ : ∃ m, p.tally.firstNonblank = some m := by
      cases h : p.tally.firstNonblank with
      | none =>
        rw [h] at hfirst
        cases hfirst
      | some m => exact ⟨m, rfl⟩
    have hversion : isVersionLine (trimBlank (Line.classify n e).text) = false := he.notVersion
    unfold Tally.observe
    simp only [hkind, hversion]
    apply Tally.ext <;> simp [hm]
  have htext : textFindings s (Line.classify n e) false = [] := by
    unfold textFindings
    rw [Line.trailingSpaceFinding_of_getLast? he.lastNotBlank]
    split
    · rw [Line.tabFinding_of_not_mem he.noTab]
      rfl
    · rfl
  rw [htally, hfirst, Bool.false_and, htext, List.append_nil]

/-! ## Findings that stay on line 1 -/

namespace Diagnostic

variable {d : Diagnostic} {b : Bool}

/-- A finding that moves in a file with some line that is not blank moves once more lines are known
not to be blank. -/
theorem staysOnFirstLine_mono {b' : Bool} (hb : b' = true → b = true)
    (h : d.staysOnFirstLine b = false) : d.staysOnFirstLine b' = false := by
  unfold staysOnFirstLine at h ⊢
  generalize d.code = c at h ⊢
  cases c <;> simp_all

/-- The line rules report nothing that stays on line 1. -/
theorem staysOnFirstLine_of_fromLineRule (h : d.code.fromLineRule = true) :
    d.staysOnFirstLine b = false := by
  unfold staysOnFirstLine
  revert h
  generalize d.code = c
  cases c <;> simp [Code.fromLineRule]

/-- The statement rules report nothing that stays on line 1. -/
theorem staysOnFirstLine_of_fromStatementRule (h : d.code.fromStatementRule = true) :
    d.staysOnFirstLine b = false := by
  unfold staysOnFirstLine
  revert h
  generalize d.code = c
  cases c <;> simp [Code.fromStatementRule]

/-- A missing version found by the text rules stays on its line once the file has a line
that is not blank, which it has when the check runs. -/
theorem staysOnFirstLine_of_mem_textFindings {s : Settings} {l : Line} {first : Bool}
    (h : d ∈ textFindings s l first) (hfirst : first = true → b = false) :
    d.staysOnFirstLine b = false := by
  simp only [textFindings, List.mem_append] at h
  unfold staysOnFirstLine
  rcases h with (h | h) | h
  · split at h
    · rw [code_of_mem_tabFinding h]
    · simp at h
  · rw [code_of_mem_trailingSpaceFinding h]
  · split at h
    · rename_i hf
      rw [code_of_mem_versionFinding h]
      exact hfirst hf
    · simp at h

/-- The bracket check reports nothing that stays on line 1. -/
theorem staysOnFirstLine_of_mem_checkBrackets {codes : List (List Char)}
    (h : d ∈ checkBrackets codes) : d.staysOnFirstLine b = false := by
  obtain ⟨f, -, rfl⟩ := List.mem_map.1 h
  cases f <;> rfl

end Diagnostic

/-- The findings of a flushed statement come from the statement rules. -/
theorem fromStatementRule_of_mem_flushStatement {s : Settings} {ls : List Line}
    {sc : Option Snapshot} {d : Diagnostic} (h : d ∈ flushStatement s ls sc) :
    d.code.fromStatementRule = true := by
  unfold flushStatement at h
  split at h
  · simp at h
  · simp at h
  · exact fromStatementRule_of_mem_statementFindings h

/-- The tally has a first line that is not blank once it has read one. -/
theorem Tally.isNone_observe_firstNonblank (t : Tally) (l : Line) :
    (t.observe l).firstNonblank.isNone = (t.firstNonblank.isNone && l.kind == .blank) := by
  unfold Tally.observe
  cases hl : l.kind == .blank
  · rw [if_neg Bool.false_ne_true, Bool.and_false]
    dsimp only
    split_ifs <;> cases t.firstNonblank <;> rfl
  · rw [if_pos rfl, Bool.and_true]

/-- The tally has seen no line that is not blank exactly when it had seen none before and every line
since is blank. -/
theorem Tally.isNone_firstNonblank_foldl (t : Tally) (ls : List Line) :
    (ls.foldl Tally.observe t).firstNonblank.isNone =
      (t.firstNonblank.isNone && ls.all (·.kind == .blank)) := by
  induction ls generalizing t with
  | nil => rw [List.foldl_nil, List.all_nil, Bool.and_true]
  | cons l ls ih =>
    rw [List.foldl_cons, ih, Tally.isNone_observe_firstNonblank, List.all_cons, Bool.and_assoc]

/-- The pass has seen no line that is not blank exactly when all its lines are blank. -/
theorem runPass_isNone_firstNonblank (s : Settings) (ls : List Line) :
    (runPass s ls).tally.firstNonblank.isNone = ls.all (·.kind == .blank) := by
  rw [runPass_tally, Tally.isNone_firstNonblank_foldl]
  rfl

/-- No finding of the pass so far stays on line 1: the pass reports no code of the
preconditions or the ceilings, and a missing version only once it has read a line that is
not blank. -/
def Pass.OffFirstLine (p : Pass) : Prop :=
  ∀ d ∈ p.found, d.staysOnFirstLine p.tally.firstNonblank.isNone = false

namespace Pass.OffFirstLine

variable {s : Settings} {p : Pass}

/-- A step keeps the pass off line 1: the version check runs only once a line that is not blank is
seen. -/
theorem step (h : p.OffFirstLine) (l : Line) : (p.step s l).OffFirstLine := by
  have htally := Tally.isNone_observe_firstNonblank p.tally l
  -- the flag only turns from true to false, and turns when the version check runs
  have hkeep : ∀ d ∈ p.found,
      d.staysOnFirstLine (p.tally.observe l).firstNonblank.isNone = false := fun d hd =>
    Diagnostic.staysOnFirstLine_mono (fun hb => by
      rw [htally, Bool.and_eq_true] at hb
      exact hb.1) (h d hd)
  have htext : ∀ d ∈ textFindings s l (p.tally.firstNonblank.isNone && l.kind != .blank),
      d.staysOnFirstLine (p.tally.observe l).firstNonblank.isNone = false := fun d hd =>
    Diagnostic.staysOnFirstLine_of_mem_textFindings hd fun hfirst => by
      rw [htally]
      rw [Bool.and_eq_true, bne_iff_ne, ne_eq] at hfirst
      simp [hfirst.2]
  cases hc : l.isCode
  · rw [Pass.step_of_not_code s p l hc]
    intro d hd
    rcases List.mem_append.1 hd with hd | hd
    · exact hkeep d hd
    · exact htext d hd
  · rw [Pass.step_of_code s p l hc]
    intro d hd
    simp only [List.mem_append] at hd
    rcases hd with (((hd | hd) | hd) | hd) | hd
    · exact hkeep d hd
    · exact htext d hd
    · unfold Diagnostic.staysOnFirstLine
      rw [Tracker.code_of_mem_advance_found hd]
    · split at hd
      · simp at hd
      · exact Diagnostic.staysOnFirstLine_of_fromStatementRule
          (fromStatementRule_of_mem_flushStatement hd)
    · exact Diagnostic.staysOnFirstLine_of_fromLineRule (fromLineRule_of_mem_lineFindings hd)

/-- The findings after the last line do not stay on line 1. -/
theorem finish (h : p.OffFirstLine) :
    ∀ d ∈ p.finish s, d.staysOnFirstLine p.tally.firstNonblank.isNone = false := by
  intro d hd
  simp only [Pass.finish, List.mem_append] at hd
  rcases hd with (hd | hd) | hd
  · exact h d hd
  · exact Diagnostic.staysOnFirstLine_of_fromStatementRule
      (fromStatementRule_of_mem_flushStatement hd)
  · split at hd
    · rw [List.mem_singleton.1 hd]
      rfl
    · simp at hd

end Pass.OffFirstLine

/-- No finding of a whole pass stays on line 1 but the missing version of a blank file. -/
theorem offFirstLine_runPass (s : Settings) (ls : List Line) : (runPass s ls).OffFirstLine := by
  unfold runPass
  suffices hrun : ∀ p : Pass, p.OffFirstLine → (ls.foldl (Pass.step s) p).OffFirstLine from
    hrun _ fun d hd => by simp [Pass.start] at hd
  induction ls with
  | nil => exact fun _ h => h
  | cons l ls ih => exact fun p h => ih _ (h.step l)

/-! ## The parts of the report -/

/-- **The pass over the lines with one inserted** is the pass over the old lines renumbered,
when the inserted line leaves the pass as it is. -/
theorem runPass_insert (s : Settings) {before after : List Line} {E : Line} {k : Nat}
    (hlow : ∀ l ∈ before, l.number < k) (hstep : (runPass s before).step s E = runPass s before) :
    Pass.Renumbered (shiftLine k) (runPass s (before ++ after))
      (runPass s (before ++ E :: after.map (Line.renumber (shiftLine k)))) := by
  have hbefore : Pass.Renumbered (shiftLine k) (runPass s before) (runPass s before) := by
    have h := (Pass.Renumbered.start (f := shiftLine k) s).foldl s before
    rwa [map_renumber_shiftLine_of_lt hlow] at h
  unfold runPass at hbefore hstep ⊢
  rw [List.foldl_append, List.foldl_append, List.foldl_cons, hstep]
  exact hbefore.foldl s after

/-- The bracket check reads blanks without changing anything. -/
theorem BracketScan.readLine_of_blank (line : Nat) (s : BracketScan) (column : Nat)
    {cs : List Char} (h : ∀ c ∈ cs, isBlank c = true) : s.readLine line column cs = s := by
  induction cs generalizing s column with
  | nil => rfl
  | cons c rest ih =>
    obtain ⟨ho, hc⟩ := noBracket_of_isBlank (h c List.mem_cons_self)
    have hstep : s.step line column c = s := by
      unfold BracketScan.step
      rw [ho, hc]
    rw [BracketScan.readLine, hstep]
    exact ih s (column + 1) fun x hx => h x (List.mem_cons_of_mem _ hx)

/-- **The bracket check with a line inserted** that holds no bracket: the faults after it move
one line down. -/
theorem checkBrackets_insert {before after : List (List Char)} {code : List Char}
    (hcode : ∀ c ∈ code, isBlank c = true) :
    List.Forall₂ (Renumbered (shiftLine (before.length + 1)))
      (checkBrackets (before ++ after)) (checkBrackets (before ++ code :: after)) := by
  set k := before.length + 1 with hk
  -- the scan of the lines before the inserted one is renumbered to itself
  have hbefore : (BracketScan.empty.readLines 1 before).renumber (shiftLine k) =
      BracketScan.empty.readLines 1 before :=
    (BracketScan.readLines_renumber (shiftLine k) (n := 1) (m := 1) BracketScan.empty before
      fun i hi => shiftLine_of_lt (by omega)).symm
  have hafter : (BracketScan.empty.readLines 1 before).readLines (1 + before.length + 1) after =
      ((BracketScan.empty.readLines 1 before).readLines (1 + before.length) after).renumber
        (shiftLine k) := by
    conv_lhs => rw [← hbefore]
    exact BracketScan.readLines_renumber _ _ _ fun i _ => by
      rw [shiftLine_of_le (by omega)]
      omega
  unfold checkBrackets bracketFaults
  rw [BracketScan.readLines_append, BracketScan.readLines_append, BracketScan.readLines,
    BracketScan.readLine_of_blank _ _ _ hcode, hafter, BracketScan.allFaults_renumber,
    List.map_map]
  exact List.forall₂_map_left_iff.2 (List.forall₂_map_right_iff.2
    (List.forall₂_same.2 fun b _ => .bracket b))

/-- **The preconditions with a line inserted**, before the last line: the carriage-return
finding, if any, stays in front, and the missing line feed at the end moves with the last
line. -/
theorem preconditionFindings_insert {c c' e : List Char} {xs ys : List (List Char)}
    (hcr : c'.contains '\r' = c.contains '\r') (hlast : c'.getLast? = c.getLast?)
    (hlines : physicalLines c = xs ++ ys) (hlines' : physicalLines c' = xs ++ e :: ys)
    (hys : ys ≠ []) :
    ∃ front rest rest', preconditionFindings c = front ++ rest ∧
      preconditionFindings c' = front ++ rest' ∧ (∀ d ∈ front, d.code = .newline ∧ d.line = 1) ∧
      (∀ d ∈ rest, d.code = .noFinalNewline) ∧
      List.Forall₂ (Renumbered (shiftLine (xs.length + 1))) rest rest' := by
  unfold preconditionFindings
  dsimp only
  rw [hcr, hlast, hlines, hlines']
  refine ⟨_, _, _, rfl, rfl, ?front, ?code, ?rest⟩
  case front =>
    intro d hd
    split at hd
    · rw [List.mem_singleton.1 hd]
      exact ⟨rfl, rfl⟩
    · simp at hd
  case code =>
    intro d hd
    split at hd
    · simp at hd
    · rw [List.mem_singleton.1 hd]
      rfl
  case rest =>
    by_cases hend : (c.getLast? == some '\n') = true
    · rw [if_pos hend, if_pos hend]
      exact .nil
    · rw [if_neg hend, if_neg hend]
      have hpos : 0 < ys.length := List.length_pos_iff.2 hys
      have hlastLine : (xs ++ e :: ys).getLast? = (xs ++ ys).getLast? := by
        obtain ⟨y, ys', rfl⟩ := List.exists_cons_of_ne_nil hys
        simp [List.getLast?_append]
      have hline : max (xs ++ e :: ys).length 1 =
          shiftLine (xs.length + 1) (max (xs ++ ys).length 1) := by
        rw [List.length_append, List.length_append, List.length_cons,
          Nat.max_eq_left (by omega), Nat.max_eq_left (by omega), shiftLine_of_le (by omega)]
        omega
      rw [hlastLine, hline, ← Diagnostic.make_renumber]
      exact .cons (.moved rfl) .nil

/-- Findings on line 1 in front of the others stay in front when sorting by line. -/
theorem sortByLine_append_of_first_line {front rest : List Diagnostic}
    (hfront : ∀ d ∈ front, d.line = 1) (hrest : ∀ d ∈ rest, 1 ≤ d.line) :
    sortByLine (front ++ rest) = front ++ sortByLine rest := by
  induction front with
  | nil => rfl
  | cons d front ih =>
    have hd : d.line = 1 := hfront d List.mem_cons_self
    rw [List.cons_append, sortByLine_cons_of_le,
      ih fun x hx => hfront x (List.mem_cons_of_mem _ hx), List.cons_append]
    intro x hx
    rw [hd]
    rcases List.mem_append.1 hx with hx | hx
    · exact Nat.le_of_eq (hfront x (List.mem_cons_of_mem _ hx)).symm
    · exact hrest x hx

/-- The report with the findings on line 1 that the preconditions put in front. -/
theorem lintContent_eq_front (s : Settings) {c : List Char} {front rest : List Diagnostic}
    (hpre : preconditionFindings c = front ++ rest) (hfront : ∀ d ∈ front, d.line = 1) :
    lintContent s c = front ++ (sortByLine (rest ++ checkBrackets ((classifyLines c).map (·.code)) ++
      (runPass s (classifyLines c)).finish s) ++ fileFindings s (runPass s (classifyLines c)).tally) := by
  have hrest : ∀ d ∈ rest ++ checkBrackets ((classifyLines c).map (·.code)) ++
      (runPass s (classifyLines c)).finish s, 1 ≤ d.line := fun d hd =>
    one_le_line_of_mem_lineLevel s c (by
      rw [hpre]
      simp only [List.mem_append] at hd ⊢
      tauto)
  unfold lintContent
  dsimp only
  rw [hpre, List.append_assoc front rest, List.append_assoc front,
    sortByLine_append_of_first_line hfront hrest, List.append_assoc]

/-- Renumbered findings none of which stays on line 1 are moved findings. -/
theorem forall₂_moved_of_renumbered {f : Nat → Nat} {b : Bool} {xs ys : List Diagnostic}
    (h : List.Forall₂ (Renumbered f) xs ys) (hxs : ∀ d ∈ xs, d.staysOnFirstLine b = false) :
    List.Forall₂ (Moved f b) xs ys := by
  induction h with
  | nil => exact .nil
  | cons hxy _ ih =>
    exact .cons (.of_renumbered (hxs _ List.mem_cons_self) hxy)
      (ih fun d hd => hxs d (List.mem_cons_of_mem _ hd))

/-- A moved finding keeps its code. -/
theorem Diagnostic.Moved.code_eq {f : Nat → Nat} {b : Bool} {d d' : Diagnostic}
    (h : Moved f b d d') : d'.code = d.code := by
  unfold Moved at h
  split at h
  · rw [h]
  · exact h.code_eq

/-- Moved findings keep their codes, in order. -/
theorem map_code_eq_of_forall₂_moved {f : Nat → Nat} {b : Bool} {xs ys : List Diagnostic}
    (h : List.Forall₂ (Moved f b) xs ys) : ys.map (·.code) = xs.map (·.code) := by
  induction h with
  | nil => rfl
  | cons hxy _ ih => rw [List.map_cons, List.map_cons, hxy.code_eq, ih]

/-- **The report with a line inserted.** The lines `before` keep their numbers, the inserted
line `E` leaves the pass as it is and holds no bracket, and the lines `after` move one line
down: the report moves with them. -/
theorem lintContent_insert (s : Settings) {c c' : List Char} {before after : List Line}
    {E : Line} (hlow : ∀ l ∈ before, l.number < before.length + 1)
    (hhigh : ∀ l ∈ after, before.length + 1 ≤ l.number) (hafter : after ≠ [])
    (hlines : classifyLines c = before ++ after)
    (hlines' : classifyLines c' = before ++ E :: after.map (Line.renumber (· + 1)))
    (hstep : (runPass s before).step s E = runPass s before)
    (hcode : ∀ x ∈ E.code, isBlank x = true)
    (hcr : c'.contains '\r' = c.contains '\r') (hlast : c'.getLast? = c.getLast?) :
    List.Forall₂ (Moved (shiftLine (before.length + 1)) ((classifyLines c).all (·.kind == .blank)))
      (lintContent s c) (lintContent s c') := by
  set k := before.length + 1 with hk
  have hpass : Pass.Renumbered (shiftLine k) (runPass s (classifyLines c))
      (runPass s (classifyLines c')) := by
    rw [hlines, hlines', map_renumber_shiftLine_of_le hhigh]
    exact runPass_insert s hlow hstep
  -- the preconditions read the physical lines
  have hphys : physicalLines c = before.map Line.text ++ after.map Line.text := by
    rw [← map_text_classifyLines, hlines, List.map_append]
  have hphys' : physicalLines c' = before.map Line.text ++ E.text :: after.map Line.text := by
    rw [← map_text_classifyLines, hlines', List.map_append, List.map_cons, List.map_map]
    rfl
  obtain ⟨front, rest, rest', hpre, hpre', hfront, hrestCode, hrest⟩ :=
    preconditionFindings_insert hcr hlast hphys hphys' (by simpa using hafter)
  rw [List.length_map] at hrest
  -- the bracket check reads the code of the lines
  have hcodes : (classifyLines c).map (·.code) = before.map (·.code) ++ after.map (·.code) := by
    rw [hlines, List.map_append]
  have hcodes' : (classifyLines c').map (·.code) =
      before.map (·.code) ++ E.code :: after.map (·.code) := by
    rw [hlines', List.map_append, List.map_cons, List.map_map]
    rfl
  have hbrackets : List.Forall₂ (Renumbered (shiftLine ((before.map (·.code)).length + 1)))
      (checkBrackets (before.map (·.code) ++ after.map (·.code)))
      (checkBrackets (before.map (·.code) ++ E.code :: after.map (·.code))) :=
    checkBrackets_insert hcode
  rw [List.length_map, ← hcodes, ← hcodes'] at hbrackets
  -- the flag of the file rules
  have hblank : (runPass s (classifyLines c)).tally.firstNonblank.isNone =
      (classifyLines c).all (·.kind == .blank) := runPass_isNone_firstNonblank s _
  have hoff := (offFirstLine_runPass s (classifyLines c)).finish (s := s)
  rw [hblank] at hoff
  have hfront1 : ∀ d ∈ front, d.line = 1 := fun d hd => (hfront d hd).2
  rw [lintContent_eq_front s hpre hfront1, lintContent_eq_front s hpre' hfront1]
  refine List.rel_append (forall₂_moved_of_stays _ fun d hd => ?front)
    (List.rel_append (forall₂_moved_of_renumbered (forall₂_sortByLine (shiftLine_strictMono k)
      (List.rel_append (List.rel_append hrest hbrackets) (hpass.finish s))) fun d hd => ?sorted) ?file)
  case front =>
    unfold Diagnostic.staysOnFirstLine
    rw [(hfront d hd).1]
  case sorted =>
    simp only [sortByLine, List.mem_mergeSort, List.mem_append] at hd
    rcases hd with (hd | hd) | hd
    · unfold Diagnostic.staysOnFirstLine
      rw [hrestCode d hd]
    · exact Diagnostic.staysOnFirstLine_of_mem_checkBrackets hd
    · exact hoff d hd
  case file =>
    rw [hpass.tally, ← hblank]
    exact fileFindings_moved (shiftLine k) s _ (shiftLine_strictMono k)

/-! ## Linting a text with a line inserted -/

/-- Two outcomes agree: the same failure, or results related by `R`. -/
def ResultRel {α β ε : Type} (R : α → β → Prop) : Except ε α → Except ε β → Prop
  | .ok a, .ok b => R a b
  | .error e, .error e' => e = e'
  | _, _ => False

/-- Linting two texts whose reports are related, and fail the digit limit alike, fails alike or
gives the related reports. -/
theorem lintText_rel {R : List Diagnostic → List Diagnostic → Prop} (s : Settings)
    {c c' : List Char} (hR : R (lintContent s c) (lintContent s c'))
    (hfail : (lintContent s c').any (fun d => (writtenSetting s d.code).any tooLongToWrite) =
      (lintContent s c).any fun d => (writtenSetting s d.code).any tooLongToWrite) :
    ResultRel R (lintText s c) (lintText s c') := by
  rw [lintText_eq, lintText_eq, hfail]
  split_ifs
  · exact rfl
  · exact rfl
  · exact rfl
  · exact hR

/-- Whether a report fails the digit limit reads the codes of its findings only. -/
theorem any_written_eq_of_codes (s : Settings) {ds ds' : List Diagnostic}
    (h : ds'.map (·.code) = ds.map (·.code)) :
    ds'.any (fun d => (writtenSetting s d.code).any tooLongToWrite) =
      ds.any fun d => (writtenSetting s d.code).any tooLongToWrite := by
  have hwritten : ∀ xs : List Diagnostic,
      xs.any (fun d => (writtenSetting s d.code).any tooLongToWrite) =
        (xs.map (·.code)).any fun x => (writtenSetting s x).any tooLongToWrite := fun xs => by
    rw [List.any_map]
    rfl
  rw [hwritten, hwritten ds, h]

/-- **A line inserted into a text moves the report with it.** Cut a text after some whole
lines, into `p` (empty, or ending in a line feed) and a rest `q` that is not empty, and insert
a line `e` there: a blank line, or, after a line that is not blank, a quiet comment line. The
inserted line is line `k = p.count '\n' + 1`. Linting the new text fails as linting the old one
does, or gives its report with every line number from `k` on one more: the line of each
finding and the lines a finding quotes. Only the findings that always point at line 1 stay. -/
theorem insertedLine_moves_report (s : Settings) {p q e : List Char}
    (hp : p = [] ∨ p.getLast? = some '\n') (hq : q ≠ [])
    (he : e = [] ∨ (∃ l ∈ classifyLines p, l.kind ≠ .blank) ∧ QuietComment e) :
    ResultRel (List.Forall₂ (Moved (shiftLine (p.count '\n' + 1))
        ((classifyLines (p ++ q)).all (·.kind == .blank))))
      (lintText s (p ++ q)) (lintText s (p ++ e ++ '\n' :: q)) := by
  have hn : '\n' ∉ e := by
    rcases he with rfl | ⟨-, hquiet⟩
    · exact List.not_mem_nil
    · exact hquiet.noNewline
  have hr : '\r' ∉ e := by
    rcases he with rfl | ⟨-, hquiet⟩
    · exact List.not_mem_nil
    · exact hquiet.noReturn
  obtain ⟨before, after, hlen, hafter, hlinesOfP, hlow, hhigh, hold, hnew⟩ :=
    classifyLines_insert hp hq hn hr
  -- the inserted line leaves the pass over the lines before it as it is
  have hstep : (runPass s before).step s (Line.classify (p.count '\n' + 1) e) =
      runPass s before := by
    rcases he with rfl | ⟨⟨l, hl, hnonblank⟩, hquiet⟩
    · exact Pass.step_classify_nil s _ _
    · have hp' : p ≠ [] := by
        rintro rfl
        have hnil : classifyLines [] = [Line.classify 1 []] := rfl
        rw [hnil, List.mem_singleton] at hl
        rw [hl] at hnonblank
        exact hnonblank rfl
      refine Pass.step_of_quietComment s ?_ hquiet _
      rw [hlinesOfP hp', runPass_isNone_firstNonblank, List.all_eq_false]
      exact ⟨l, hl, by simpa using hnonblank⟩
  have hcode : ∀ x ∈ (Line.classify (p.count '\n' + 1) e).code, isBlank x = true := by
    refine isBlank_of_classify ?_
    rcases he with rfl | ⟨-, hquiet⟩
    · rfl
    · have hkind : (Line.classify (p.count '\n' + 1) e).kind = .comment := hquiet.comment
      simp [Line.isCode, hkind]
  have hcr : (p ++ e ++ '\n' :: q).contains '\r' = (p ++ q).contains '\r' := by
    simp [hr]
  have hlast : (p ++ e ++ '\n' :: q).getLast? = (p ++ q).getLast? := by
    -- both end as `q` does
    have hcons : ('\n' :: q).getLast? = q.getLast? := by
      obtain ⟨y, ys, rfl⟩ := List.exists_cons_of_ne_nil hq
      exact List.getLast?_cons_cons
    cases hql : q.getLast? with
    | none => exact absurd (List.getLast?_eq_none_iff.1 hql) hq
    | some a => simp only [List.getLast?_append, hcons, hql, Option.some_or]
  have hreport := lintContent_insert s (fun l hl => by have := hlow l hl; omega)
    (fun l hl => by have := hhigh l hl; omega) hafter hold hnew hstep hcode hcr hlast
  rw [hlen] at hreport
  exact lintText_rel s hreport (any_written_eq_of_codes s (map_code_eq_of_forall₂_moved hreport))

/-- A comment line inserted after the version line of a two-line script. -/
theorem insertedLine_moves_report_after_version :
    ("//@version=6\n".toList = [] ∨ "//@version=6\n".toList.getLast? = some '\n') ∧
    "x\n".toList ≠ [] ∧
    ("//".toList = [] ∨
      (∃ l ∈ classifyLines "//@version=6\n".toList, l.kind ≠ .blank) ∧ QuietComment "//".toList) ∧
    ResultRel (List.Forall₂ (Moved (shiftLine ("//@version=6\n".toList.count '\n' + 1))
        ((classifyLines ("//@version=6\n".toList ++ "x\n".toList)).all (·.kind == .blank))))
      (lintText Settings.default ("//@version=6\n".toList ++ "x\n".toList))
      (lintText Settings.default ("//@version=6\n".toList ++ "//".toList ++ '\n' :: "x\n".toList)) :=
  have hp : "//@version=6\n".toList = [] ∨ "//@version=6\n".toList.getLast? = some '\n' :=
    Or.inr (by decide)
  have hq : "x\n".toList ≠ [] := by decide
  have he : "//".toList = [] ∨
      (∃ l ∈ classifyLines "//@version=6\n".toList, l.kind ≠ .blank) ∧ QuietComment "//".toList :=
    Or.inr ⟨by decide, ⟨by decide, by decide, by decide, by decide, by decide, by decide⟩⟩
  ⟨hp, hq, he, insertedLine_moves_report Settings.default hp hq he⟩

end PineCheck
