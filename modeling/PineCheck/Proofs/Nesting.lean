import Mathlib.Tactic.SplitIfs
import PineCheck.Source.Brackets
import PineCheck.Script.Call
/-!
# Well-nested brackets

A text's brackets are well nested when, read in order, each closer closes the innermost
bracket still open and is of its kind, and no bracket stays open. `Bracket.nestAfter` reads
a text that way with a stack of the kinds still open, and gives up (`none`) at the first
closer that breaks the rule; `WellNested` asks that it end with nothing open.

The reading is compositional (`nestAfter_append`), one character at a time
(`nestStep_cases`). Two consequences are what the checks of this library rely on:

* the file's bracket check finds no fault exactly along a reading of this kind: while it
  reports nothing, its stack holds the kinds `nestAfter` holds (`nestAfter_readLines`);
* in a well-nested text every opener has its own closer, of its kind, with a well-nested text
  between them (`exists_closesAt`), and `argumentsFrom`, which counts brackets of every kind
  from the opener, stops exactly there (`argumentsFrom_eq_of_closesAt`).
-/

namespace PineCheck

namespace Bracket

/-! ## Kinds of bracket characters -/

/-- A character opens a bracket of a kind exactly when it is that kind's opener. -/
theorem ofOpener?_eq_some {c : Char} {k : Bracket} : ofOpener? c = some k ↔ c = k.opener := by
  unfold ofOpener?
  cases k <;> split <;> simp_all [opener]

/-- A character closes a bracket of a kind exactly when it is that kind's closer. -/
theorem ofCloser?_eq_some {c : Char} {k : Bracket} : ofCloser? c = some k ↔ c = k.closer := by
  unfold ofCloser?
  cases k <;> split <;> simp_all [closer]

/-- An opener opens its kind. -/
@[simp] theorem ofOpener?_opener (k : Bracket) : ofOpener? k.opener = some k :=
  ofOpener?_eq_some.2 rfl

/-- A closer closes its kind. -/
@[simp] theorem ofCloser?_closer (k : Bracket) : ofCloser? k.closer = some k :=
  ofCloser?_eq_some.2 rfl

/-- An opener closes nothing. -/
@[simp] theorem ofCloser?_opener (k : Bracket) : ofCloser? k.opener = none := by
  cases k <;> rfl

/-- A closer opens nothing. -/
@[simp] theorem ofOpener?_closer (k : Bracket) : ofOpener? k.closer = none := by
  cases k <;> rfl

/-- The characters `argumentsFrom` counts as openers are the openers. -/
theorem isOpenerChar_iff (c : Char) :
    (c == '(' || c == '[' || c == '{') = (ofOpener? c).isSome := by
  unfold ofOpener?
  split <;> simp_all

/-- The characters `argumentsFrom` counts as closers are the closers. -/
theorem isCloserChar_iff (c : Char) :
    (c == ')' || c == ']' || c == '}') = (ofCloser? c).isSome := by
  unfold ofCloser?
  split <;> simp_all

/-! ## Reading well-nested brackets -/

/-- One character of a well-nested reading: an opener is pushed, a closer pops the innermost
open bracket if it is of its kind, any other character is skipped. -/
def nestStep (stk : List Bracket) (c : Char) : Option (List Bracket) :=
  match ofOpener? c with
  | some k => some (k :: stk)
  | none =>
    match ofCloser? c with
    | none => some stk
    | some k =>
      match stk with
      | top :: below => if top = k then some below else none
      | [] => none

/-- Read a text from the open kinds `stk`: the kinds left open, or `none` at the first
closer that does not close the innermost open bracket. -/
def nestAfter : List Bracket → List Char → Option (List Bracket)
  | stk, [] => some stk
  | stk, c :: rest => (nestStep stk c).bind (nestAfter · rest)

/-- Reading no character leaves the open kinds as they are. -/
@[simp] theorem nestAfter_nil (stk : List Bracket) : nestAfter stk [] = some stk := rfl

/-- Reading a text is a step on its first character, then reading the rest. -/
theorem nestAfter_cons (stk : List Bracket) (c : Char) (rest : List Char) :
    nestAfter stk (c :: rest) = (nestStep stk c).bind (nestAfter · rest) := rfl

/-- Reading two texts one after the other is reading the first, then the second from where it ended.
-/
theorem nestAfter_append (stk : List Bracket) (u v : List Char) :
    nestAfter stk (u ++ v) = (nestAfter stk u).bind (nestAfter · v) := by
  induction u generalizing stk with
  | nil => rfl
  | cons c u ih =>
    simp only [List.cons_append, nestAfter_cons, ih]
    cases nestStep stk c <;> rfl

/-- An opener puts its kind on top of the open kinds. -/
@[simp] theorem nestStep_opener (stk : List Bracket) (k : Bracket) :
    nestStep stk k.opener = some (k :: stk) := by
  simp [nestStep]

/-- A closer of the innermost open kind closes it. -/
@[simp] theorem nestStep_closer (stk : List Bracket) (k : Bracket) :
    nestStep (k :: stk) k.closer = some stk := by
  simp [nestStep]

/-- A character that is no bracket is skipped. -/
theorem nestStep_of_not_bracket {c : Char} (ho : ofOpener? c = none) (hc : ofCloser? c = none)
    (stk : List Bracket) : nestStep stk c = some stk := by
  simp [nestStep, ho, hc]

/-- What a step that succeeds did: it pushed an opener, popped the innermost open bracket at
its own closer, or skipped a character that is no bracket. -/
theorem nestStep_cases {stk X : List Bracket} {c : Char} (h : nestStep stk c = some X) :
    (∃ k, c = k.opener ∧ X = k :: stk) ∨ (∃ k, c = k.closer ∧ stk = k :: X) ∨
      (ofOpener? c = none ∧ ofCloser? c = none ∧ X = stk) := by
  unfold nestStep at h
  cases ho : ofOpener? c with
  | some k =>
    simp only [ho, Option.some.injEq] at h
    exact Or.inl ⟨k, ofOpener?_eq_some.1 ho, h.symm⟩
  | none =>
    cases hc : ofCloser? c with
    | none =>
      simp only [ho, hc, Option.some.injEq] at h
      exact Or.inr (Or.inr ⟨rfl, rfl, h.symm⟩)
    | some k =>
      simp only [ho, hc] at h
      cases stk with
      | nil => simp at h
      | cons top below =>
        by_cases htop : top = k
        · simp only [htop, if_true, Option.some.injEq] at h
          exact Or.inr (Or.inl ⟨k, ofCloser?_eq_some.1 hc, by rw [htop, h]⟩)
        · -- a closer of another kind than the innermost open bracket
          simp [htop] at h

/-- A text with no bracket in it is skipped. -/
theorem nestAfter_of_no_bracket {cs : List Char}
    (h : ∀ c ∈ cs, ofOpener? c = none ∧ ofCloser? c = none) (stk : List Bracket) :
    nestAfter stk cs = some stk := by
  induction cs with
  | nil => rfl
  | cons c cs ih =>
    have hc := h c List.mem_cons_self
    rw [nestAfter_cons, nestStep_of_not_bracket hc.1 hc.2]
    exact ih fun d hd => h d (List.mem_cons_of_mem _ hd)

end Bracket

open PineCheck.Bracket Script

/-- A text whose brackets are well nested: read in order, each closer closes the innermost
bracket still open, of its own kind, and no bracket stays open. -/
def WellNested (cs : List Char) : Prop := nestAfter [] cs = some []

/-! ## The bracket check reads the same way while it finds no fault -/

namespace BracketScan

/-- The kinds of the open brackets of a scan, innermost first. -/
def kinds (s : BracketScan) : List Bracket := s.stack.map (·.kind)

/-- A character adds at most one fault, in front of those found before. -/
theorem faults_step (s : BracketScan) (line column : Nat) (c : Char) :
    ∃ fs, (s.step line column c).faults = fs ++ s.faults := by
  unfold step
  split
  · exact ⟨[], rfl⟩
  · split
    · exact ⟨[], rfl⟩
    · split
      · exact ⟨[_], rfl⟩
      · split
        · exact ⟨[], rfl⟩
        · exact ⟨[_], rfl⟩

/-- A character that adds no fault is read as a well-nested reading reads it. -/
theorem nestStep_kinds {s : BracketScan} {line column : Nat} {c : Char}
    (h : (s.step line column c).faults = s.faults) :
    nestStep s.kinds c = some (s.step line column c).kinds := by
  unfold step at h ⊢
  unfold nestStep
  cases ho : ofOpener? c with
  | some k => simp [kinds]
  | none =>
    cases hc : ofCloser? c with
    | none => simp
    | some k =>
      simp only [ho, hc] at h ⊢
      unfold kinds
      cases hs : s.stack with
      | nil => simp [hs] at h
      | cons top rest =>
        simp only [hs] at h ⊢
        by_cases htop : top.kind = k
        · simp [htop]
        · -- a closer of another kind is a fault
          simp [htop] at h

/-- Reading a line only adds faults in front of those found before. -/
theorem faults_readLine (line : Nat) (s : BracketScan) (column : Nat) (cs : List Char) :
    ∃ fs, (s.readLine line column cs).faults = fs ++ s.faults := by
  induction cs generalizing s column with
  | nil => exact ⟨[], rfl⟩
  | cons c cs ih =>
    obtain ⟨fs, hfs⟩ := ih (s.step line column c) (column + 1)
    obtain ⟨gs, hgs⟩ := faults_step s line column c
    exact ⟨fs ++ gs, by simp [readLine, hfs, hgs]⟩

/-- Reading lines only adds faults in front of those found before. -/
theorem faults_readLines (s : BracketScan) (line : Nat) (ls : List (List Char)) :
    ∃ fs, (s.readLines line ls).faults = fs ++ s.faults := by
  induction ls generalizing s line with
  | nil => exact ⟨[], rfl⟩
  | cons l ls ih =>
    obtain ⟨fs, hfs⟩ := ih (s.readLine line 1 l) (line + 1)
    obtain ⟨gs, hgs⟩ := faults_readLine line s 1 l
    exact ⟨fs ++ gs, by simp [readLines, hfs, hgs]⟩

/-- Reading two runs of lines is reading the first, then the second numbered after it. -/
theorem readLines_append (s : BracketScan) (line : Nat) (xs ys : List (List Char)) :
    s.readLines line (xs ++ ys) = (s.readLines line xs).readLines (line + xs.length) ys := by
  induction xs generalizing s line with
  | nil => rfl
  | cons x xs ih =>
    simp only [List.cons_append, readLines, ih, List.length_cons]
    congr 1
    omega

/-- Faults only grow: a reading that adds none over two stretches adds none over the
first. -/
theorem faults_eq_of_grows {a b c fs gs : List BracketFault} (hc : c = fs ++ b)
    (hb : b = gs ++ a) (h : c = a) : b = a := by
  rw [hc, hb, ← List.append_assoc] at h
  have hnil := List.append_eq_nil_iff.1 (List.append_left_eq_self.1 h)
  rw [hb, hnil.2, List.nil_append]

/-- Reading a line with no new fault is a well-nested reading of it. -/
theorem nestAfter_readLine {line : Nat} {s : BracketScan} {column : Nat} {cs : List Char}
    (h : (s.readLine line column cs).faults = s.faults) :
    nestAfter s.kinds cs = some (s.readLine line column cs).kinds := by
  induction cs generalizing s column with
  | nil => rfl
  | cons c cs ih =>
    have hline : ((s.step line column c).readLine line (column + 1) cs).faults = s.faults := h
    obtain ⟨fs, hfs⟩ := faults_readLine line (s.step line column c) (column + 1) cs
    obtain ⟨gs, hgs⟩ := faults_step s line column c
    have hstep := faults_eq_of_grows hfs hgs hline
    rw [nestAfter_cons, nestStep_kinds hstep, Option.bind_some]
    exact ih (hline.trans hstep.symm)

/-- Reading lines with no new fault is a well-nested reading of their concatenation. -/
theorem nestAfter_readLines {s : BracketScan} {line : Nat} {ls : List (List Char)}
    (h : (s.readLines line ls).faults = s.faults) :
    nestAfter s.kinds ls.flatten = some (s.readLines line ls).kinds := by
  induction ls generalizing s line with
  | nil => rfl
  | cons l ls ih =>
    have hlines : ((s.readLine line 1 l).readLines (line + 1) ls).faults = s.faults := h
    obtain ⟨fs, hfs⟩ := faults_readLines (s.readLine line 1 l) (line + 1) ls
    obtain ⟨gs, hgs⟩ := faults_readLine line s 1 l
    have hline := faults_eq_of_grows hfs hgs hlines
    rw [List.flatten_cons, nestAfter_append, nestAfter_readLine hline, Option.bind_some]
    exact ih (hlines.trans hline.symm)

end BracketScan

/-- **No fault means well nested, line by line.** When the bracket check finds no fault in
a file, the brackets of every leading run of its lines read well nested, with the check's
stack of open brackets as what is left open, and the whole file is well nested. -/
theorem nestAfter_of_bracketFaults_nil {codes : List (List Char)} (h : bracketFaults codes = [])
    (k : Nat) :
    nestAfter [] (codes.take k).flatten = some (BracketScan.empty.readLines 1 (codes.take k)).kinds ∧
      WellNested codes.flatten := by
  have hall : (BracketScan.empty.readLines 1 codes).faults = [] ∧
      (BracketScan.empty.readLines 1 codes).stack = [] := by
    unfold bracketFaults BracketScan.allFaults at h
    split at h <;> simp_all
  have hprefix : (BracketScan.empty.readLines 1 (codes.take k)).faults = [] := by
    obtain ⟨fs, hfs⟩ := BracketScan.faults_readLines
      (BracketScan.empty.readLines 1 (codes.take k)) (1 + (codes.take k).length) (codes.drop k)
    have hsplit := BracketScan.readLines_append BracketScan.empty 1 (codes.take k) (codes.drop k)
    rw [List.take_append_drop] at hsplit
    rw [hsplit, hfs] at hall
    exact List.append_eq_nil_iff.1 hall.1 |>.2
  refine ⟨BracketScan.nestAfter_readLines hprefix, ?_⟩
  have h := @BracketScan.nestAfter_readLines BracketScan.empty 1 codes hall.1
  unfold BracketScan.kinds at h
  rw [hall.2] at h
  exact h

/-! ## Each opener's own closer -/

/-- The closer at `m` closes the opener at `j`: it is of the opener's kind and the text
between them is well nested. -/
def ClosesAt (text : List Char) (j m : Nat) : Prop :=
  j < m ∧ ∃ k : Bracket, text[j]? = some k.opener ∧ text[m]? = some k.closer ∧
    WellNested ((text.drop (j + 1)).take (m - (j + 1)))

/-- A reading that starts with `T` open above `k` and ends with `k` no longer open meets
`k`'s closer, after a text that reads `T` away. -/
theorem exists_closer_of_pop {k : Bracket} {S R : List Bracket} :
    ∀ (post : List Char) (T : List Bracket), nestAfter (T ++ k :: S) post = some R →
      R.length ≤ S.length →
      ∃ inner more, post = inner ++ k.closer :: more ∧ nestAfter T inner = some [] := by
  intro post
  induction post with
  | nil =>
    intro T h hlen
    simp only [nestAfter_nil, Option.some.injEq] at h
    subst h
    simp at hlen
    omega
  | cons c post ih =>
    intro T h hlen
    rw [nestAfter_cons, Option.bind_eq_some_iff] at h
    obtain ⟨X, hstep, hrest⟩ := h
    rcases nestStep_cases hstep with ⟨k', rfl, rfl⟩ | ⟨k', rfl, hpop⟩ | ⟨ho, hc, rfl⟩
    · -- an opener: `k` lies one bracket deeper
      obtain ⟨inner, more, hpost, hin⟩ := ih (k' :: T) hrest hlen
      refine ⟨k'.opener :: inner, more, by simp [hpost], ?_⟩
      rw [nestAfter_cons, nestStep_opener, Option.bind_some]
      exact hin
    · cases T with
      | nil =>
        -- the closer of `k` itself
        simp only [List.nil_append, List.cons.injEq] at hpop
        obtain ⟨rfl, -⟩ := hpop
        exact ⟨[], post, rfl, rfl⟩
      | cons t T =>
        -- the closer of the innermost bracket of `T`
        simp only [List.cons_append, List.cons.injEq] at hpop
        obtain ⟨rfl, rfl⟩ := hpop
        obtain ⟨inner, more, hpost, hin⟩ := ih T hrest hlen
        refine ⟨t.closer :: inner, more, by simp [hpost], ?_⟩
        rw [nestAfter_cons, nestStep_closer, Option.bind_some]
        exact hin
    · obtain ⟨inner, more, hpost, hin⟩ := ih T hrest hlen
      refine ⟨c :: inner, more, by simp [hpost], ?_⟩
      rw [nestAfter_cons, nestStep_of_not_bracket ho hc, Option.bind_some]
      exact hin

/-- **Every opener of a well-nested text has its own closer.** -/
theorem exists_closesAt {text : List Char} (h : WellNested text) {j : Nat} {k : Bracket}
    (hj : text[j]? = some k.opener) : ∃ m, ClosesAt text j m := by
  obtain ⟨hlt, hget⟩ := List.getElem?_eq_some_iff.1 hj
  have hsplit : text = text.take j ++ k.opener :: text.drop (j + 1) := by
    rw [← hget, ← List.drop_eq_getElem_cons hlt, List.take_append_drop]
  have hw : nestAfter [] (text.take j ++ k.opener :: text.drop (j + 1)) = some [] := by
    rw [← hsplit]; exact h
  rw [nestAfter_append, Option.bind_eq_some_iff] at hw
  obtain ⟨S, -, hrest⟩ := hw
  simp only [nestAfter_cons, nestStep, ofOpener?_opener, Option.bind_some] at hrest
  obtain ⟨inner, more, hpost, hin⟩ :=
    exists_closer_of_pop (S := S) (text.drop (j + 1)) [] hrest (Nat.zero_le _)
  refine ⟨j + 1 + inner.length, by omega, k, hj, ?_, ?_⟩
  · rw [← List.getElem?_drop, hpost]
    simp
  · rw [show j + 1 + inner.length - (j + 1) = inner.length by omega, hpost, List.take_left]
    exact hin

section Go

variable (text : List Char) (start : Nat) (d : Int) (i : Nat) (rest : List Char)

/-- An opener one level deeper is passed over. -/
theorem argumentsFrom_go_opener (k : Bracket) :
    argumentsFrom.go text start d i (k.opener :: rest) =
      argumentsFrom.go text start (d + 1) (i + 1) rest := by
  rw [argumentsFrom.go, isOpenerChar_iff, ofOpener?_opener]
  rfl

/-- A closer ends the arguments if it closes the call's own bracket, and is passed over one level up
otherwise. -/
theorem argumentsFrom_go_closer (k : Bracket) :
    argumentsFrom.go text start d i (k.closer :: rest) =
      if d - 1 == 0 then (text.drop (start + 1)).take (i - (start + 1))
      else argumentsFrom.go text start (d - 1) (i + 1) rest := by
  rw [argumentsFrom.go, isOpenerChar_iff, isCloserChar_iff, ofOpener?_closer, ofCloser?_closer]
  rfl

/-- A character that is no bracket is passed over. -/
theorem argumentsFrom_go_of_not_bracket {c : Char} (ho : ofOpener? c = none)
    (hc : ofCloser? c = none) :
    argumentsFrom.go text start d i (c :: rest) = argumentsFrom.go text start d (i + 1) rest := by
  rw [argumentsFrom.go, isOpenerChar_iff, isCloserChar_iff, ho, hc]
  rfl

end Go

/-- `argumentsFrom`'s loop crosses a text that reads well nested above the call's own
bracket without stopping: its depth is the height of the reading's stack, plus the call's
own bracket. -/
theorem argumentsFrom_go_append (text : List Char) (start : Nat) :
    ∀ (u : List Char) (stk r : List Bracket) (i : Nat) (v : List Char),
      nestAfter stk u = some r →
      argumentsFrom.go text start ((stk.length : Int) + 1) i (u ++ v) =
        argumentsFrom.go text start ((r.length : Int) + 1) (i + u.length) v := by
  intro u
  induction u with
  | nil =>
    intro stk r i v h
    simp only [nestAfter_nil, Option.some.injEq] at h
    subst h
    rfl
  | cons c u ih =>
    intro stk r i v h
    rw [nestAfter_cons, Option.bind_eq_some_iff] at h
    obtain ⟨X, hstep, hrest⟩ := h
    rw [List.cons_append, show i + (c :: u).length = (i + 1) + u.length by simp; omega]
    rcases nestStep_cases hstep with ⟨k, rfl, rfl⟩ | ⟨k, rfl, rfl⟩ | ⟨ho, hc, rfl⟩
    · rw [argumentsFrom_go_opener, ← ih (k :: stk) r (i + 1) v hrest]
      simp
    · -- the closer pops a bracket opened inside the arguments: the depth stays positive
      have hne : ¬ ((((k :: X).length : Int) + 1 - 1) == 0) = true := by
        simp only [List.length_cons, beq_iff_eq]
        omega
      rw [argumentsFrom_go_closer, if_neg hne, ← ih X r (i + 1) v hrest]
      congr 1
      simp only [List.length_cons]
      omega
    · rw [argumentsFrom_go_of_not_bracket text start _ i _ ho hc]
      exact ih _ r (i + 1) v hrest

/-- **`argumentsFrom` stops at the opener's own closer.** -/
theorem argumentsFrom_eq_of_closesAt {text : List Char} {j m : Nat} (h : ClosesAt text j m) :
    argumentsFrom text j = (text.drop (j + 1)).take (m - (j + 1)) := by
  obtain ⟨hjm, k, hj, hm, hin⟩ := h
  obtain ⟨hjlt, hjget⟩ := List.getElem?_eq_some_iff.1 hj
  obtain ⟨hmlt, hmget⟩ := List.getElem?_eq_some_iff.1 hm
  have hinner : ((text.drop (j + 1)).take (m - (j + 1))).length = m - (j + 1) := by
    simp; omega
  have hdrop : text.drop j = k.opener ::
      ((text.drop (j + 1)).take (m - (j + 1)) ++ k.closer :: text.drop (m + 1)) := by
    have hmid : text.drop (j + 1) = (text.drop (j + 1)).take (m - (j + 1)) ++ text.drop m := by
      have h := List.take_append_drop (m - (j + 1)) (text.drop (j + 1))
      rw [List.drop_drop, show j + 1 + (m - (j + 1)) = m by omega] at h
      exact h.symm
    rw [List.drop_eq_getElem_cons hjlt, hjget]
    congr 1
    rw [← hmget, ← List.drop_eq_getElem_cons hmlt]
    exact hmid
  unfold argumentsFrom
  rw [hdrop, argumentsFrom_go_opener]
  have hgo := argumentsFrom_go_append text j _ [] [] (j + 1) (k.closer :: text.drop (m + 1)) hin
  simp only [List.length_nil] at hgo
  rw [show (0 : Int) + 1 = ((0 : Nat) : Int) + 1 from rfl, hgo, argumentsFrom_go_closer,
    if_pos (by decide), hinner]
  congr 1
  omega

end PineCheck
