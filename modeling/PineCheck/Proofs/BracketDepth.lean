import PineCheck.Proofs.CallArguments
import PineCheck.Proofs.Statements
/-!
# The tracker's bracket count and the bracket check

Two readers count the brackets of a file. The bracket check reads every character with a
stack of the open brackets and their kinds. The tracker counts per line, openers less
closers of any kind, never below zero, and drops the count at a line no deeper than the
first line of its statement after a line that does not dangle (`Tracker.carriedBrackets`).

On a file the check passes, the two agree at every line boundary as long as the tracker
never drops an open bracket (`Tracker.KeepsBrackets`): the count is the height of the
check's stack. The check's reading is well nested, so its stack is never asked to go below
zero, and the count follows it line by line (`openBrackets_advance`).

A statement starts only at a line that carries no bracket over, so under the same
condition it starts and ends with nothing open: its text is well nested on its own, and each
call the statement rules read has its own closer inside the statement.

Main statement: `bracketCount_agrees_with_check`.
-/

namespace PineCheck

open Script Text PineCheck.Bracket

/-! ## Net counts along a well-nested reading -/

/-- The net count of a text put together is the sum of its parts' counts. -/
theorem netBrackets_append (u v : List Char) :
    netBrackets (u ++ v) = netBrackets u + netBrackets v := by
  unfold netBrackets
  rw [List.countP_append, List.countP_append]
  push_cast
  omega

/-- An opener counts one. -/
theorem netBrackets_opener (k : Bracket) : netBrackets [k.opener] = 1 := by
  cases k <;> decide

/-- A closer counts minus one. -/
theorem netBrackets_closer (k : Bracket) : netBrackets [k.closer] = -1 := by
  cases k <;> decide

/-- A character that is no bracket counts nothing. -/
theorem netBrackets_of_not_bracket {c : Char} (ho : ofOpener? c = none)
    (hc : ofCloser? c = none) : netBrackets [c] = 0 := by
  simp [netBrackets, isOpenerChar_iff, isCloserChar_iff, ho, hc]

/-- One character read: the stack grows by the character's net count. -/
theorem length_nestStep {stk X : List Bracket} {c : Char} (h : nestStep stk c = some X) :
    (X.length : Int) = stk.length + netBrackets [c] := by
  rcases nestStep_cases h with ⟨k, rfl, rfl⟩ | ⟨k, rfl, rfl⟩ | ⟨ho, hc, rfl⟩
  · rw [netBrackets_opener, List.length_cons]
    omega
  · rw [netBrackets_closer, List.length_cons]
    omega
  · rw [netBrackets_of_not_bracket ho hc]
    omega

/-- A reading that succeeds leaves the stack taller by the text's net count. -/
theorem length_nestAfter {stk r : List Bracket} {cs : List Char} (h : nestAfter stk cs = some r) :
    (r.length : Int) = stk.length + netBrackets cs := by
  induction cs generalizing stk with
  | nil =>
    simp only [nestAfter_nil, Option.some.injEq] at h
    subst h
    simp [netBrackets]
  | cons c cs ih =>
    rw [nestAfter_cons, Option.bind_eq_some_iff] at h
    obtain ⟨X, hstep, hrest⟩ := h
    have hX := length_nestStep hstep
    have hr := ih hrest
    rw [show c :: cs = [c] ++ cs from rfl, netBrackets_append]
    omega

/-- The line breaks that join a statement's lines are no brackets. -/
theorem nestAfter_intercalate (stk : List Bracket) (xs : List (List Char)) :
    nestAfter stk (List.intercalate ['\n'] xs) = nestAfter stk xs.flatten := by
  induction xs generalizing stk with
  | nil => rfl
  | cons x xs ih =>
    cases xs with
    | nil => simp
    | cons y ys =>
      rw [List.intercalate_cons_cons, List.flatten_cons, nestAfter_append, nestAfter_append,
        nestAfter_append]
      cases nestAfter stk x with
      | none => rfl
      | some S => exact ih S

/-- Reading the code of a run of lines: the first line's code, then the rest. -/
theorem nestAfter_codes_cons {stk r : List Bracket} {l : Line} {ls : List Line}
    (h : nestAfter stk ((l :: ls).map (·.code)).flatten = some r) :
    ∃ X, nestAfter stk l.code = some X ∧ nestAfter X (ls.map (·.code)).flatten = some r := by
  rw [List.map_cons, List.flatten_cons, nestAfter_append, Option.bind_eq_some_iff] at h
  exact h

/-! ## Lines that are not code -/

/-- Blank characters are no brackets. -/
theorem noBracket_of_isBlank {c : Char} (h : isBlank c = true) :
    ofOpener? c = none ∧ ofCloser? c = none := by
  constructor
  · cases ho : ofOpener? c with
    | none => rfl
    | some k =>
      have hk : isBlank k.opener = false := by cases k <;> decide
      rw [← ofOpener?_eq_some.1 ho, h] at hk
      cases hk
  · cases hc : ofCloser? c with
    | none => rfl
    | some k =>
      have hk : isBlank k.closer = false := by cases k <;> decide
      rw [← ofCloser?_eq_some.1 hc, h] at hk
      cases hk

/-- The lines that are not code hold no bracket in their code. -/
def BracketsInCode (ls : List Line) : Prop :=
  ∀ l ∈ ls, l.isCode = false → ∀ c ∈ l.code, ofOpener? c = none ∧ ofCloser? c = none

/-- The code of a line is a prefix of its text: the comment is cut off at its end. -/
theorem isPrefix_stripComment (cs : List Char) : stripComment cs <+: cs := by
  fun_induction stripComment cs with
  | case1 rest => exact List.nil_prefix
  | case2 c rest hne ih => exact List.cons_prefix_cons.2 ⟨rfl, ih⟩
  | case3 => exact List.nil_prefix

/-- A blank or comment line has only blanks in its code: a blank line has only blanks, and
its code is a prefix of it. -/
theorem isBlank_of_classify {n : Nat} {text : List Char}
    (h : (Line.classify n text).isCode = false) :
    ∀ c ∈ (Line.classify n text).code, isBlank c = true := by
  intro c hc
  simp only [Line.isCode, Line.classify, beq_eq_false_iff_ne, ne_eq] at h hc
  by_cases htext : allBlank text = true
  · exact List.all_eq_true.1 htext c ((isPrefix_stripComment text).subset hc)
  · have hcode : allBlank (stripComment text) = true := by
      cases hcb : allBlank (stripComment text)
      · simp [htext, hcb] at h
      · rfl
    exact List.all_eq_true.1 hcode c hc

/-- The lines of a text that are not code hold no bracket in their code. -/
theorem bracketsInCode_classifyLines (content : List Char) :
    BracketsInCode (classifyLines content) := by
  intro l hl hcode c hc
  obtain ⟨⟨text, i⟩, -, rfl⟩ := List.mem_map.1 hl
  exact noBracket_of_isBlank (isBlank_of_classify hcode c hc)

/-- Reading the code of all lines is reading the code of the code lines. -/
theorem nestAfter_filter_isCode {ls : List Line} (h : BracketsInCode ls) (stk : List Bracket) :
    nestAfter stk (ls.map (·.code)).flatten =
      nestAfter stk ((ls.filter (·.isCode)).map (·.code)).flatten := by
  induction ls generalizing stk with
  | nil => rfl
  | cons l ls ih =>
    have hls : BracketsInCode ls := fun l' hl' => h l' (List.mem_cons_of_mem _ hl')
    cases hcode : l.isCode
    · have hskip := nestAfter_of_no_bracket (h l List.mem_cons_self hcode) stk
      simp only [List.map_cons, List.flatten_cons, List.filter_cons, hcode,
        Bool.false_eq_true, if_false, nestAfter_append, hskip, Option.bind_some]
      exact ih hls stk
    · simp only [List.map_cons, List.flatten_cons, List.filter_cons, hcode, if_true,
        nestAfter_append]
      cases nestAfter stk l.code with
      | none => rfl
      | some S => exact ih hls S

/-! ## Runs that keep their open brackets -/

namespace Tracker

/-- The tracker keeps its open brackets at line `l`: while brackets are open, the line follows
a dangling line or lies deeper than the first line of its statement. -/
def KeepsOpen (t : Tracker) (l : Line) : Prop :=
  0 < t.openBrackets → t.danglingLine.isSome ∨ t.statementIndent < l.indent

/-- Whether the tracker keeps its open brackets at a line is a check on numbers and an option. -/
instance (t : Tracker) (l : Line) : Decidable (t.KeepsOpen l) :=
  inferInstanceAs (Decidable (_ → _))

/-- The tracker never drops an open bracket while it reads the lines `ls`. -/
def KeepsBrackets : Tracker → List Line → Prop
  | _, [] => True
  | t, l :: ls => t.KeepsOpen l ∧ KeepsBrackets (t.advance l).2.2 ls

/-- Whether the tracker keeps its open brackets along a run is decided line by line. -/
instance decKeepsBrackets : (t : Tracker) → (ls : List Line) → Decidable (t.KeepsBrackets ls)
  | _, [] => isTrue trivial
  | t, l :: ls =>
    haveI := decKeepsBrackets (t.advance l).2.2 ls
    inferInstanceAs (Decidable (_ ∧ _))

/-- A run that keeps its open brackets keeps them on every first part of its lines. -/
theorem KeepsBrackets.of_isPrefix {t : Tracker} {xs ys : List Line} (h : t.KeepsBrackets ys)
    (hp : xs <+: ys) : t.KeepsBrackets xs := by
  obtain ⟨zs, rfl⟩ := hp
  induction xs generalizing t with
  | nil => trivial
  | cons l xs ih => exact ⟨h.1, ih h.2⟩

/-- **One line keeps the count on the stack.** A line read with the count at the height of a
well-nested reading's stack leaves it at the height after the line's code. -/
theorem openBrackets_advance {t : Tracker} {l : Line} {stk stk' : List Bracket}
    (hkeep : t.KeepsOpen l) (hcount : t.openBrackets = stk.length)
    (hread : nestAfter stk l.code = some stk') :
    (t.advance l).2.2.openBrackets = stk'.length := by
  have hnet := length_nestAfter hread
  rw [advance_openBrackets, carriedBrackets_eq_of_keeps hkeep, hcount]
  omega

/-- A line that starts a statement is read with nothing open. -/
theorem openBrackets_eq_zero_of_keepsOpen {t : Tracker} {l : Line} (hkeep : t.KeepsOpen l)
    (hc : t.continues l = false) : t.openBrackets = 0 := by
  rw [← carriedBrackets_eq_of_keeps hkeep, carriedBrackets_eq_zero_of_continues_false hc]

/-- **A run keeps the count on the stack.** -/
theorem openBrackets_feed {ls : List Line} :
    ∀ {t : Tracker} {stk r : List Bracket}, t.KeepsBrackets ls → t.openBrackets = stk.length →
      nestAfter stk (ls.map (·.code)).flatten = some r → (t.feed ls).openBrackets = r.length := by
  induction ls with
  | nil =>
    intro t stk r _ hcount hread
    simp only [List.map_nil, List.flatten_nil, nestAfter_nil, Option.some.injEq] at hread
    rw [feed_nil, hcount, hread]
  | cons l ls ih =>
    intro t stk r hkeep hcount hread
    obtain ⟨X, hline, hrest⟩ := nestAfter_codes_cons hread
    exact ih hkeep.2 (openBrackets_advance hkeep.1 hcount hline) hrest

/-- **Statements of a run that keeps its brackets.** From the middle of a statement `st`
whose lines so far read to the stack `stk`, where the count stands, every statement of the
rest of the run, `st` completed included, reads well nested, provided the whole rest reads
from `stk` to nothing open. A statement ends only where the next one starts, and that is
where the count, hence the stack, is empty. -/
theorem wellNested_continueStatement {ls : List Line} :
    ∀ {t : Tracker} {st : Statement} {stk : List Bracket}, t.KeepsBrackets ls →
      t.openBrackets = stk.length →
      nestAfter [] (st.lines.map (·.code)).flatten = some stk →
      nestAfter stk (ls.map (·.code)).flatten = some [] →
      ∀ s ∈ continueStatement st (t.history ls), WellNested (s.lines.map (·.code)).flatten := by
  induction ls with
  | nil =>
    intro t st stk _ _ hst hrest s hs
    simp only [List.map_nil, List.flatten_nil, nestAfter_nil, Option.some.injEq] at hrest
    subst hrest
    rw [history_nil, continueStatement_nil, List.mem_singleton] at hs
    subst hs
    exact hst
  | cons l ls ih =>
    intro t ⟨stLines, stScope⟩ stk hkeep hcount hst hread s hs
    obtain ⟨X, hline, hrest⟩ := nestAfter_codes_cons hread
    have hcount' := openBrackets_advance hkeep.1 hcount hline
    rw [history_cons, continueStatement_cons, advance_continuation] at hs
    cases hc : t.continues l
    · -- `l` starts the next statement: the one under way ends with nothing open
      have hempty : stk = [] :=
        List.eq_nil_of_length_eq_zero (hcount ▸ openBrackets_eq_zero_of_keepsOpen hkeep.1 hc)
      subst hempty
      simp only [hc, Bool.false_eq_true, if_false, List.mem_cons, groupStatements_cons] at hs
      rcases hs with rfl | hs
      · exact hst
      · refine ih hkeep.2 hcount' ?_ hrest s hs
        simpa using hline
    · -- `l` continues the statement under way
      simp only [hc, if_true] at hs
      refine ih hkeep.2 hcount' ?_ hrest s hs
      rw [List.map_append, List.flatten_append, nestAfter_append, hst, Option.bind_some]
      simpa using hline

/-- Every statement of a run from a state with nothing open reads well nested, when the
whole run does and keeps its brackets. -/
theorem wellNested_groupStatements {t : Tracker} {ls : List Line} (hkeep : t.KeepsBrackets ls)
    (hcount : t.openBrackets = 0) (hread : WellNested (ls.map (·.code)).flatten) :
    ∀ s ∈ groupStatements (t.history ls), WellNested (s.lines.map (·.code)).flatten := by
  cases ls with
  | nil => simp [groupStatements]
  | cons l ls =>
    unfold WellNested at hread
    obtain ⟨X, hline, hrest⟩ := nestAfter_codes_cons hread
    rw [history_cons, groupStatements_cons]
    have hcount' := openBrackets_advance hkeep.1 (hcount.trans List.length_nil.symm) hline
    exact wellNested_continueStatement hkeep.2 hcount' (by simpa using hline) hrest

end Tracker

/-! ## The file as a whole -/

/-- **The tracker's bracket count agrees with the bracket check.** Take a source text on
which the bracket check reports nothing and on which the tracker never drops an open
bracket. After any number of its lines, the tracker's count of open brackets is the number
of brackets the check has left open. Every statement the statement rules read is then well
nested on its own, and each call they find in it has its own closer in the statement, with
the call's arguments the text between the two brackets. -/
theorem bracketCount_agrees_with_check (w : Nat) (content : List Char)
    (hbal : checkBrackets ((classifyLines content).map (·.code)) = [])
    (hkeep : (Tracker.start w).KeepsBrackets ((classifyLines content).filter (·.isCode))) :
    (∀ k, ((Tracker.start w).feed (((classifyLines content).take k).filter (·.isCode))).openBrackets =
        (BracketScan.empty.readLines 1 (((classifyLines content).take k).map (·.code))).stack.length) ∧
    ∀ st ∈ groupStatements ((Tracker.start w).history ((classifyLines content).filter (·.isCode))),
      WellNested st.text ∧
      ∀ call ∈ callSites securityCall st.text ++ callSites entryCall st.text,
        ∃ m, ClosesAt st.text (call.argsStart - 1) m ∧
          call.args = (st.text.drop call.argsStart).take (m - call.argsStart) := by
  have hfaults : bracketFaults ((classifyLines content).map (·.code)) = [] :=
    List.map_eq_nil_iff.1 hbal
  have hquiet := bracketsInCode_classifyLines content
  have hscan := nestAfter_of_bracketFaults_nil hfaults
  refine ⟨fun k => ?_, fun st hst => ?_⟩
  · -- the prefix of `k` lines: the check's stack is what the reading leaves open
    have hprefix := (hscan k).1
    rw [← List.map_take,
      nestAfter_filter_isCode (fun l hl => hquiet l (List.mem_of_mem_take hl))] at hprefix
    have hkeep' := hkeep.of_isPrefix ((List.take_prefix k (classifyLines content)).filter Line.isCode)
    rw [Tracker.openBrackets_feed hkeep' rfl hprefix, BracketScan.kinds, List.length_map]
  · have hwhole : WellNested (((classifyLines content).filter (·.isCode)).map (·.code)).flatten := by
      have h := (hscan 0).2
      unfold WellNested at h ⊢
      rwa [nestAfter_filter_isCode hquiet] at h
    have hnest : WellNested st.text := by
      unfold WellNested Statement.text
      rw [nestAfter_intercalate]
      exact Tracker.wellNested_groupStatements hkeep rfl hwhole st hst
    refine ⟨hnest, fun call hcall => ?_⟩
    rcases List.mem_append.1 hcall with h | h
    · exact args_eq_of_wellNested securityCall_endsAtParen hnest h
    · exact args_eq_of_wellNested entryCall_endsAtParen hnest h

/-- A call whose arguments run over two lines, in a file that keeps its brackets. -/
theorem bracketCount_agrees_with_check_spanning_call :
    checkBrackets ((classifyLines "v = request.security(s,\n    t)\n".toList).map (·.code)) = [] ∧
    (Tracker.start 0).KeepsBrackets
      ((classifyLines "v = request.security(s,\n    t)\n".toList).filter (·.isCode)) ∧
    ((∀ k, ((Tracker.start 0).feed
        (((classifyLines "v = request.security(s,\n    t)\n".toList).take k).filter (·.isCode))).openBrackets =
      (BracketScan.empty.readLines 1
        (((classifyLines "v = request.security(s,\n    t)\n".toList).take k).map (·.code))).stack.length) ∧
    ∀ st ∈ groupStatements ((Tracker.start 0).history
        ((classifyLines "v = request.security(s,\n    t)\n".toList).filter (·.isCode))),
      WellNested st.text ∧
      ∀ call ∈ callSites securityCall st.text ++ callSites entryCall st.text,
        ∃ m, ClosesAt st.text (call.argsStart - 1) m ∧
          call.args = (st.text.drop call.argsStart).take (m - call.argsStart)) :=
  have hbal : checkBrackets
      ((classifyLines "v = request.security(s,\n    t)\n".toList).map (·.code)) = [] := by
    decide
  have hkeep : (Tracker.start 0).KeepsBrackets
      ((classifyLines "v = request.security(s,\n    t)\n".toList).filter (·.isCode)) := by
    decide
  ⟨hbal, hkeep, bracketCount_agrees_with_check 0 _ hbal hkeep⟩

end PineCheck
