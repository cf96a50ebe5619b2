import Mathlib.Data.List.Flatten
import PineCheck.Proofs.CallArguments
import PineCheck.Proofs.Statements
/-!
# The calls the tally counts

Two parts of the linter look for order entries and external-data calls. The statement
rules search each statement's text, its code lines joined by line feeds, and place each
call on a line and column with `Statement.locate`. The tally searches each code line on its
own and records where each order entry starts and how many external-data calls there are;
the missing-cancel and call-ceiling rules read it.

Every call the tally sees is a call the statement rules see, at the same place and in the
same order (`tally_calls_sublist_statement_calls`). The probes read no further than the
`(` that ends a call (`KeepsMatch`), and they read a line feed before a name as the start
of the text, so a match on a line is still a match in the joined statement
(`matchesFrom_append_sublist`), shifted by the lines before it. The converse fails: blanks
before the `(` may include the line feed that joins two lines, and a call written as
`strategy.entry` on one line and `(...)` on the next is seen by the statement rules only.
-/

namespace PineCheck

open Script Text

/-! ## Probes that read no further than their match -/

/-- A probe whose answer, once it recognises a stretch, stays the same whatever text follows
the stretch. -/
def KeepsMatch (p : Probe) : Prop :=
  ∀ prev cs more n, p prev cs = some n → p prev (cs ++ more) = some n

/-- A prefix matched at the start of a text is matched there whatever follows. -/
theorem afterPrefix_append {pre cs rest : List Char} (h : afterPrefix pre cs = some rest)
    (more : List Char) : afterPrefix pre (cs ++ more) = some (rest ++ more) := by
  rw [eq_append_of_afterPrefix h, List.append_assoc]
  unfold afterPrefix
  rw [if_pos (List.isPrefixOf_iff_prefix.2 (List.prefix_append _ _)), List.drop_left]

/-- Blanks, then `(`: the stretch an open bracket after blanks recognises. -/
theorem openParenLength_blanks_paren {blanks : List Char}
    (hb : ∀ c ∈ blanks, isBlank c = true) (rest : List Char) :
    openParenLength (blanks ++ '(' :: rest) = some (blanks.length + 1) := by
  have hparen : isBlank '(' = false := by decide
  unfold openParenLength dropBlank blankRun
  rw [List.dropWhile_append_of_pos hb, List.dropWhile_cons_of_neg (by simp [hparen]),
    List.takeWhile_append_of_pos hb, List.takeWhile_cons_of_neg (by simp [hparen]),
    List.append_nil]
  rfl

/-- What the opening-bracket matcher takes is blanks and a `(`. -/
theorem eq_blanks_paren_of_openParenLength {cs : List Char} {n : Nat}
    (h : openParenLength cs = some n) :
    ∃ blanks rest, (∀ c ∈ blanks, isBlank c = true) ∧ cs = blanks ++ '(' :: rest ∧
      n = blanks.length + 1 := by
  unfold openParenLength at h
  split at h
  · rename_i rest hdrop
    refine ⟨cs.takeWhile isBlank, rest, fun c hc => List.all_eq_true.1 List.all_takeWhile c hc,
      ?_, ?_⟩
    · unfold dropBlank at hdrop
      rw [← hdrop, List.takeWhile_append_dropWhile]
    · simp only [Option.some.injEq] at h
      rw [← h]
      rfl
  · simp at h

/-- The blanks and `(` after a name are matched whatever follows them. -/
theorem openParenLength_append {cs : List Char} {n : Nat} (h : openParenLength cs = some n)
    (more : List Char) : openParenLength (cs ++ more) = some n := by
  obtain ⟨blanks, rest, hb, rfl, rfl⟩ := eq_blanks_paren_of_openParenLength h
  rw [List.append_assoc, List.cons_append]
  exact openParenLength_blanks_paren hb _

/-- A call of a name, matched to its `(`, is matched whatever follows it. -/
theorem callOf_append {name cs : List Char} {n : Nat} (h : callOf name cs = some n)
    (more : List Char) : callOf name (cs ++ more) = some n := by
  unfold callOf at h ⊢
  split at h
  · rename_i rest hrest
    obtain ⟨m, hm, rfl⟩ := Option.map_eq_some_iff.1 h
    rw [afterPrefix_append hrest more]
    simp only [openParenLength_append hm more, Option.map_some]
  · simp at h

/-- A call matched where no name character stands before it keeps its match when its matcher does.
-/
theorem keepsMatch_freeCall {recognise : List Char → Option Nat}
    (h : ∀ cs more n, recognise cs = some n → recognise (cs ++ more) = some n) :
    KeepsMatch (freeCall recognise) := by
  intro prev cs more n hn
  unfold freeCall at hn ⊢
  split_ifs at hn with hfree
  rw [if_pos hfree]
  exact h cs more n hn

/-- An order entry is `strategy.entry(` or `strategy.order(`: the two names differ in their
first letter, so text after an `order` call cannot make an `entry` call. -/
theorem entryCall_keepsMatch : KeepsMatch entryCall := by
  refine keepsMatch_freeCall fun cs more n h => ?_
  split at h
  · rename_i rest hrest
    obtain ⟨k, hk, rfl⟩ := Option.map_eq_some_iff.1 h
    rw [afterPrefix_append hrest more]
    dsimp only
    unfold callOfAny at hk ⊢
    split at hk
    · rename_i k' hentry
      simp only [Option.some.injEq] at hk
      subst hk
      rw [callOf_append hentry more]
      rfl
    · rename_i hentry
      unfold callOfAny at hk
      split at hk
      · rename_i k' horder
        simp only [Option.some.injEq] at hk
        subst hk
        -- `rest` starts with `order`, which no `entry` call starts with
        have hnot : callOf "entry".toList (rest ++ more) = none := by
          unfold callOf at horder ⊢
          split at horder
          · rename_i r hr
            rw [eq_append_of_afterPrefix hr]
            rfl
          · simp at horder
        rw [hnot]
        unfold callOfAny
        rw [callOf_append horder more]
        rfl
      · simp [callOfAny] at hk
  · simp at h

/-- Blanks and `(` start with no `_`, so no `_lower_tf` follows a call's name. -/
theorem afterPrefix_lower_of_openParenLength {cs : List Char} {n : Nat}
    (h : openParenLength cs = some n) (more : List Char) :
    afterPrefix "_lower_tf".toList (cs ++ more) = none := by
  obtain ⟨blanks, rest, hb, rfl, -⟩ := eq_blanks_paren_of_openParenLength h
  cases blanks with
  | nil => rfl
  | cons b bs =>
    have hb' : b ≠ '_' := by
      rintro rfl
      exact absurd (hb '_' List.mem_cons_self) (by decide)
    show afterPrefix ('_' :: "lower_tf".toList) (b :: (bs ++ '(' :: rest ++ more)) = none
    simp [afterPrefix, List.isPrefixOf, Ne.symm hb']

/-- A match of the external-data call stays a match whatever text follows it. -/
theorem securityCall_keepsMatch : KeepsMatch securityCall := by
  refine keepsMatch_freeCall fun cs more n h => ?_
  split at h
  · rename_i rest hrest
    rw [afterPrefix_append hrest more]
    dsimp only at h ⊢
    split at h
    · -- `request.security_lower_tf(`
      rename_i k hk
      simp only [Option.some.injEq] at h
      subst h
      split at hk
      · rename_i r hr
        obtain ⟨m, hm, rfl⟩ := Option.map_eq_some_iff.1 hk
        rw [afterPrefix_append hr more]
        simp only [openParenLength_append hm more, Option.map_some]
      · simp at hk
    · -- `request.security(`
      obtain ⟨m, hm, rfl⟩ := Option.map_eq_some_iff.1 h
      rw [afterPrefix_lower_of_openParenLength hm more]
      simp only [openParenLength_append hm more, Option.map_some]
  · simp at h

/-- A probe whose stretches end with `(` recognises nothing in the empty text. -/
theorem EndsAtParen.eq_none_nil {p : Probe} (hp : EndsAtParen p) (prev : Option Char) :
    p prev [] = none := by
  cases h : p prev [] with
  | none => rfl
  | some n =>
    obtain ⟨-, hget⟩ := hp prev [] n h
    simp at hget

/-! ## Matches in a longer text -/

section Matches

variable {p : Probe}

/-- At the end of the text, a probe can only accept there. -/
theorem matchesFrom_nil (prev : Option Char) (i : Nat) :
    matchesFrom p prev [] i = (p prev []).toList.map fun n => (i, n) := by
  rw [matchesFrom]
  cases p prev [] <;> rfl

/-- A match at the first position, then the matches from the next one. -/
theorem matchesFrom_cons (prev : Option Char) (c : Char) (cs : List Char) (i : Nat) :
    matchesFrom p prev (c :: cs) i =
      (p prev (c :: cs)).toList.map (fun n => (i, n)) ++ matchesFrom p (some c) cs (i + 1) := by
  rw [matchesFrom]
  cases p prev (c :: cs) <;> rfl

/-- Searching from a later index finds the same matches, shifted. -/
theorem matchesFrom_shift (prev : Option Char) (cs : List Char) (i d : Nat) :
    matchesFrom p prev cs (i + d) = (matchesFrom p prev cs i).map fun m => (m.1 + d, m.2) := by
  induction cs generalizing prev i with
  | nil =>
    rw [matchesFrom_nil, matchesFrom_nil, List.map_map]
    rfl
  | cons c cs ih =>
    rw [matchesFrom_cons, matchesFrom_cons, List.map_append, List.map_map, Nat.add_right_comm,
      ih]
    rfl

/-- A probe that reads a line feed before a position as the start of the text finds the same
matches after a line feed as at the start. -/
theorem matchesFrom_after_newline (hp : ∀ cs, p (some '\n') cs = p none cs) (cs : List Char)
    (i : Nat) : matchesFrom p (some '\n') cs i = matchesFrom p none cs i := by
  cases cs with
  | nil => rw [matchesFrom_nil, matchesFrom_nil, hp]
  | cons c cs => rw [matchesFrom_cons, matchesFrom_cons, hp]

/-- Every match found from index `i` on starts inside the text searched. -/
theorem lt_of_mem_matchesFrom (hp : EndsAtParen p) {cs : List Char} {prev : Option Char}
    {i pos len : Nat} (h : (pos, len) ∈ matchesFrom p prev cs i) :
    i ≤ pos ∧ pos < i + cs.length := by
  obtain ⟨hi, hlen, hget⟩ := endsWithParen_of_mem_matchesFrom hp cs prev i h
  have hbound := (List.getElem?_eq_some_iff.1 hget).1
  rw [List.length_drop] at hbound
  omega

/-- **A match stays a match when text follows.** The matches in `a`, and those in `b` after
a character `c`, are matches in `a ++ c :: b`, in order; the longer text may have more, where
a match in `a` reaches into `b`. -/
theorem matchesFrom_append_sublist (hk : KeepsMatch p) (hnil : ∀ prev, p prev [] = none)
    (prev : Option Char) (a : List Char) (c : Char) (b : List Char) (i : Nat) :
    List.Sublist (matchesFrom p prev a i ++ matchesFrom p (some c) b (i + a.length + 1))
      (matchesFrom p prev (a ++ c :: b) i) := by
  induction a generalizing prev i with
  | nil =>
    rw [matchesFrom_nil, hnil, Option.toList_none, List.map_nil, List.nil_append, List.nil_append,
      List.length_nil, Nat.add_zero, matchesFrom_cons]
    exact List.sublist_append_right _ _
  | cons x a ih =>
    -- the match at the first position is kept, and the rest follows from the shorter text
    have hhere : List.Sublist ((p prev (x :: a)).toList.map fun n => (i, n))
        ((p prev (x :: a ++ c :: b)).toList.map fun n => (i, n)) := by
      cases h : p prev (x :: a) with
      | none => exact List.nil_sublist _
      | some n => simp only [hk prev (x :: a) (c :: b) n h, List.Sublist.refl]
    have hrest := ih (some x) (i + 1)
    rw [show i + 1 + a.length + 1 = i + (a.length + 1) + 1 by omega] at hrest
    rw [List.cons_append, matchesFrom_cons, matchesFrom_cons, List.append_assoc,
      List.length_cons]
    exact hhere.append hrest

end Matches

/-! ## From the lines to the statement -/

/-- Where a probe finds calls on a code line: the line, and the column where each starts. -/
def Line.callPositions (p : Probe) (l : Line) : List (Nat × Nat) :=
  (allMatches p l.code).map fun (pos, _) => (l.number, pos + 1)

/-- Where a probe finds calls in a statement, each placed on a line of the statement. -/
def Statement.callPositions (p : Probe) (st : Statement) : List (Nat × Nat) :=
  (callSites p st.text).map fun call => st.locate call.offset

/-- The places of a statement's calls are its matches, each located on the statement's lines. -/
theorem Statement.callPositions_eq (p : Probe) (st : Statement) :
    st.callPositions p = (allMatches p st.text).map fun m => Statement.locateIn st.lines m.1 := by
  simp only [Statement.callPositions, callSites, List.map_map]
  rfl

/-- An offset within the first line's code is on that line, at the column after it. -/
theorem Statement.locateIn_of_le {l : Line} (rest : List Line) {offset : Nat}
    (h : offset ≤ l.code.length) :
    Statement.locateIn (l :: rest) offset = (l.number, offset + 1) := by
  cases rest <;> simp [Statement.locateIn, h]

/-- A position past the first line of a statement is a position on the lines after it. -/
@[simp] theorem Statement.locateIn_add_succ (l l' : Line) (rest : List Line) (offset : Nat) :
    Statement.locateIn (l :: l' :: rest) (offset + (l.code.length + 1)) =
      Statement.locateIn (l' :: rest) offset := by
  have hpast : ¬ offset + (l.code.length + 1) ≤ l.code.length := by omega
  simp only [Statement.locateIn, hpast, if_false, Nat.add_sub_cancel]

section Positions

open scoped List

variable {p : Probe} (hk : KeepsMatch p) (hparen : EndsAtParen p)
  (hnl : ∀ cs, p (some '\n') cs = p none cs)

include hparen in
/-- The calls on the first line of a statement are placed on that line, where they stand. -/
theorem map_locateIn_allMatches (l : Line) (rest : List Line) :
    (allMatches p l.code).map (fun m => Statement.locateIn (l :: rest) m.1) =
      l.callPositions p := by
  unfold Line.callPositions
  refine List.map_congr_left ?_
  rintro ⟨pos, len⟩ hm
  have hlt := (lt_of_mem_matchesFrom hparen hm).2
  exact Statement.locateIn_of_le rest (by omega)

include hk hparen hnl in
/-- The calls on the lines of a statement are calls in the statement, at the same places and
in the same order. -/
theorem flatMap_callPositions_sublist (l : Line) (rest : List Line) :
    (l :: rest).flatMap (Line.callPositions p) <+
      (allMatches p (List.intercalate ['\n'] ((l :: rest).map (·.code)))).map
        fun m => Statement.locateIn (l :: rest) m.1 := by
  induction rest generalizing l with
  | nil =>
    simp only [List.flatMap_singleton, List.map_singleton, List.intercalate_singleton,
      map_locateIn_allMatches hparen, List.Sublist.refl]
  | cons l' rest ih =>
    -- the statement's text is the first line, a line feed, and the text of the other lines
    have htext : List.intercalate ['\n'] ((l :: l' :: rest).map (·.code)) =
        l.code ++ '\n' :: List.intercalate ['\n'] ((l' :: rest).map (·.code)) := by
      rw [List.map_cons, List.map_cons, List.intercalate_cons_cons, List.append_assoc,
        List.singleton_append]
    have hjoin := matchesFrom_append_sublist hk hparen.eq_none_nil none l.code '\n'
      (List.intercalate ['\n'] ((l' :: rest).map (·.code))) 0
    rw [matchesFrom_after_newline hnl, Nat.add_assoc, matchesFrom_shift] at hjoin
    have hshift : ((allMatches p (List.intercalate ['\n'] ((l' :: rest).map (·.code)))).map
          fun m => (m.1 + (l.code.length + 1), m.2)).map
          (fun m => Statement.locateIn (l :: l' :: rest) m.1) =
        (allMatches p (List.intercalate ['\n'] ((l' :: rest).map (·.code)))).map
          fun m => Statement.locateIn (l' :: rest) m.1 := by
      simp only [List.map_map, Function.comp_def, Statement.locateIn_add_succ]
    calc (l :: l' :: rest).flatMap (Line.callPositions p)
        = l.callPositions p ++ (l' :: rest).flatMap (Line.callPositions p) := List.flatMap_cons
      _ <+ l.callPositions p ++ (allMatches p (List.intercalate ['\n']
            ((l' :: rest).map (·.code)))).map fun m => Statement.locateIn (l' :: rest) m.1 :=
          (ih l').append_left _
      _ = (allMatches p l.code ++ (allMatches p (List.intercalate ['\n']
            ((l' :: rest).map (·.code)))).map fun m => (m.1 + (l.code.length + 1), m.2)).map
            (fun m => Statement.locateIn (l :: l' :: rest) m.1) := by
          rw [List.map_append, hshift, map_locateIn_allMatches hparen]
      _ <+ _ := by
          rw [htext]
          exact hjoin.map _

include hk hparen hnl in
/-- **The calls a probe finds on a statement's lines are calls it finds in the statement.** -/
theorem callPositions_sublist (st : Statement) :
    st.lines.flatMap (Line.callPositions p) <+ st.callPositions p := by
  obtain ⟨ls, sc⟩ := st
  cases ls with
  | nil => exact List.nil_sublist _
  | cons l rest =>
    rw [Statement.callPositions_eq]
    exact flatMap_callPositions_sublist hk hparen hnl l rest

include hk hparen hnl in
/-- The calls on the lines of a run are calls in its statements, in order. -/
theorem callPositions_sublist_groupStatements (hs : List (Line × Snapshot)) :
    (hs.map (·.1)).flatMap (Line.callPositions p) <+
      (groupStatements hs).flatMap (Statement.callPositions p) := by
  rw [← flatMap_lines_groupStatements, List.flatMap_assoc]
  exact List.Sublist.flatMap_right _ fun st _ => callPositions_sublist hk hparen hnl st

end Positions

/-! ## The tally of a pass -/

/-- The tally records the order entries of each code line, after those before. -/
theorem Tally.observe_entries (t : Tally) (l : Line) :
    (t.observe l).entries =
      if l.isCode then t.entries ++ l.callPositions entryCall else t.entries := by
  cases hk : l.kind <;> simp [Tally.observe, Line.isCode, Line.callPositions, hk]

/-- The tally counts the external-data calls of each code line. -/
theorem Tally.observe_securityCount (t : Tally) (l : Line) :
    (t.observe l).securityCount =
      if l.isCode then t.securityCount + (l.callPositions securityCall).length
      else t.securityCount := by
  cases hk : l.kind <;> simp [Tally.observe, Line.isCode, Line.callPositions, hk]

/-- The tally records, in order, where each code line has an order entry. -/
theorem Tally.foldl_observe_entries (lines : List Line) (t : Tally) :
    (lines.foldl Tally.observe t).entries =
      t.entries ++ (lines.filter (·.isCode)).flatMap (Line.callPositions entryCall) := by
  induction lines generalizing t with
  | nil => simp
  | cons l ls ih =>
    rw [List.foldl_cons, ih, Tally.observe_entries]
    cases h : l.isCode <;> simp [h]

/-- The tally counts the external-data calls of the code lines. -/
theorem Tally.foldl_observe_securityCount (lines : List Line) (t : Tally) :
    (lines.foldl Tally.observe t).securityCount =
      t.securityCount +
        ((lines.filter (·.isCode)).flatMap (Line.callPositions securityCall)).length := by
  induction lines generalizing t with
  | nil => simp
  | cons l ls ih =>
    rw [List.foldl_cons, ih, Tally.observe_securityCount]
    cases h : l.isCode <;> simp [h, Nat.add_assoc]

/-- A step of the pass observes its line in the tally. -/
theorem Pass.step_tally (s : Settings) (p : Pass) (l : Line) :
    (p.step s l).tally = p.tally.observe l := by
  unfold Pass.step
  split <;> rfl

/-- The pass keeps the tally of the lines it has read. -/
theorem runPass_tally (s : Settings) (lines : List Line) :
    (runPass s lines).tally = lines.foldl Tally.observe Tally.empty := by
  suffices h : ∀ p : Pass, (lines.foldl (Pass.step s) p).tally = lines.foldl Tally.observe p.tally
    from h (Pass.start s)
  induction lines with
  | nil => intro p; rfl
  | cons l ls ih =>
    intro p
    rw [List.foldl_cons, List.foldl_cons, ih, Pass.step_tally]

/-- **Every call the tally sees, the statement rules see.** Read the code lines of a text into
statements. The tally records where each code line has an order entry, and counts its
external-data calls. Each recorded entry is an order entry that the statement rules find in a
statement, at the same line and column and in the same order, and there are at least as many
external-data calls in the statements as the tally counts. The statement rules may find more:
blanks before a call's `(` may span the line feed that joins two lines of a statement. -/
theorem tally_calls_sublist_statement_calls (s : Settings) (content : List Char) :
    let codeLines := (classifyLines content).filter (·.isCode)
    let statements := groupStatements ((Tracker.start s.entryGuardWindow).history codeLines)
    let tally := (runPass s (classifyLines content)).tally
    tally.entries = codeLines.flatMap (Line.callPositions entryCall) ∧
    tally.securityCount = (codeLines.flatMap (Line.callPositions securityCall)).length ∧
    List.Sublist tally.entries (statements.flatMap (Statement.callPositions entryCall)) ∧
    tally.securityCount ≤ (statements.flatMap (Statement.callPositions securityCall)).length := by
  intro codeLines statements tally
  have hlines : codeLines = ((Tracker.start s.entryGuardWindow).history codeLines).map (·.1) :=
    (Tracker.map_fst_history _ _).symm
  have hentries : tally.entries = codeLines.flatMap (Line.callPositions entryCall) := by
    simp only [tally, runPass_tally, Tally.foldl_observe_entries, codeLines]
    rfl
  have hsecurity : tally.securityCount =
      (codeLines.flatMap (Line.callPositions securityCall)).length := by
    simp only [tally, runPass_tally, Tally.foldl_observe_securityCount, codeLines]
    exact Nat.zero_add _
  refine ⟨hentries, hsecurity, ?_, ?_⟩
  · rw [hentries, hlines]
    exact callPositions_sublist_groupStatements entryCall_keepsMatch entryCall_endsAtParen
      (fun _ => rfl) _
  · rw [hsecurity, hlines]
    exact (callPositions_sublist_groupStatements securityCall_keepsMatch
      securityCall_endsAtParen (fun _ => rfl) _).length_le

end PineCheck
