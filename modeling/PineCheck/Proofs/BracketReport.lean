import PineCheck.Proofs.Nesting
import PineCheck.Proofs.Places
/-!
# What the bracket check reports

The bracket check reads the brackets of a file's code lines with a stack of open brackets.
It reports nothing exactly when the brackets are well nested (`bracketFaults_eq_nil_iff`):
while it finds no fault it reads as `Bracket.nestAfter` does (`PineCheck.Proofs.Nesting`),
and the other way round a well-nested reading never meets a fault (`readLines_of_nestAfter`).

Otherwise its findings have a fixed shape. After a crossed pair the check takes a bracket out
of the middle of its stack, so the stack is no longer the open brackets of any simple
grammar; what does survive every step is `BracketScan.Sound`: each open bracket stands at an
opener of its kind, and each fault is reported at a closer, at a place after the fault before
it. So the faults met on the way name each closer at most once, and at the end at most one
more finding follows, at the opener of the innermost bracket still open.

Main statement: `bracketCheck_reports_nesting`.
-/

namespace PineCheck

open PineCheck.Bracket

/-! ## Places in a file -/

/-- The character at a line and a column of a file's code lines, both counted from 1. -/
def charAt (codes : List (List Char)) : Nat → Nat → Option Char
  | line + 1, column + 1 => codes[line]?.bind (·[column]?)
  | _, _ => none

/-- The character at a place is the first of what stands on its line from its column on. -/
theorem charAt_of_drop {codes : List (List Char)} {line column : Nat} {l rest : List Char}
    {c : Char} (hline : 1 ≤ line) (hl : codes[line - 1]? = some l) (hcol : 1 ≤ column)
    (hc : l.drop (column - 1) = c :: rest) : charAt codes line column = some c := by
  obtain ⟨n, rfl⟩ := Nat.exists_eq_add_of_le' hline
  obtain ⟨m, rfl⟩ := Nat.exists_eq_add_of_le' hcol
  simp only [Nat.add_sub_cancel] at hl hc
  have hm : (l.drop m)[0]? = l[m + 0]? := List.getElem?_drop
  rw [hc] at hm
  have hchar : l[m]? = some c := by simpa using hm.symm
  simp [charAt, hl, hchar]

/-- A place that holds a character has a column of at least 1. -/
theorem one_le_column_of_charAt {codes : List (List Char)} {line column : Nat} {c : Char}
    (h : charAt codes line column = some c) : 1 ≤ column := by
  cases line <;> cases column <;> simp_all [charAt]

/-- A place that holds a character has a line of at least 1. -/
theorem one_le_line_of_charAt {codes : List (List Char)} {line column : Nat} {c : Char}
    (h : charAt codes line column = some c) : 1 ≤ line := by
  cases line <;> cases column <;> simp_all [charAt]

/-- Place `p` comes before place `q` in reading order: on an earlier line, or on the same line
at an earlier column. -/
def PlaceBefore (p q : Nat × Nat) : Prop := p.1 < q.1 ∨ p.1 = q.1 ∧ p.2 < q.2

/-- A place before a column is before the next column. -/
theorem PlaceBefore.next_column {p : Nat × Nat} {line column : Nat}
    (h : PlaceBefore p (line, column)) : PlaceBefore p (line, column + 1) := by
  unfold PlaceBefore at *
  omega

/-- A place before a column of a line is before every column of the next line. -/
theorem PlaceBefore.next_line {p : Nat × Nat} {line column column' : Nat}
    (h : PlaceBefore p (line, column)) : PlaceBefore p (line + 1, column') := by
  unfold PlaceBefore at *
  omega

/-- A place before another is not that place. -/
theorem PlaceBefore.ne {p q : Nat × Nat} (h : PlaceBefore p q) : q ≠ p := by
  rintro rfl
  unfold PlaceBefore at h
  omega

/-- Where a finding points: its line and column. -/
def Diagnostic.place (d : Diagnostic) : Nat × Nat := (d.line, d.column)

/-- A finding made at a line and a column is at that line and the column, at least 1. -/
@[simp] theorem Diagnostic.place_make (c : Code) (m : String) (line column : Nat) :
    (Diagnostic.make c m line column).place = (line, max column 1) := rfl

/-- The kind of closer a fault reports; none for a bracket left open. -/
def BracketFault.closer? : BracketFault → Option Bracket
  | .unmatched k _ _ => some k
  | .mismatched _ k _ _ => some k
  | .unclosed _ => none

/-- Every bracket fault is reported as a delimiter finding. -/
@[simp] theorem BracketFault.toDiagnostic_code (f : BracketFault) :
    f.toDiagnostic.code = .delimiter := by
  cases f <;> rfl

namespace BracketScan

/-! ## One character -/

/-- **What reading one character does.** An opener is pushed with its place. Any other
character keeps some of the open brackets, in order, and adds no fault, or one fault at its
own place that reports it as a closer. -/
theorem step_cases (s : BracketScan) (line column : Nat) (c : Char) :
    (∃ k, ofOpener? c = some k ∧
      s.step line column c = ⟨⟨k, line, column⟩ :: s.stack, s.faults⟩) ∨
      ((s.step line column c).stack.Sublist s.stack ∧
        ((s.step line column c).faults = s.faults ∨
          ∃ f k, ofCloser? c = some k ∧ f.closer? = some k ∧
            f.toDiagnostic.place = (line, max column 1) ∧
            (s.step line column c).faults = f :: s.faults)) := by
  obtain ⟨stack, faults⟩ := s
  unfold step
  cases ho : ofOpener? c with
  | some k => exact .inl ⟨k, rfl, rfl⟩
  | none =>
    refine .inr ?_
    cases hc : ofCloser? c with
    | none => exact ⟨List.Sublist.refl _, .inl rfl⟩
    | some k =>
      cases stack with
      | nil => exact ⟨List.Sublist.refl _, .inr ⟨.unmatched k line column, k, rfl, rfl, rfl, rfl⟩⟩
      | cons top rest =>
        dsimp only
        split
        · exact ⟨List.sublist_cons_self _ _, .inl rfl⟩
        · -- a crossed pair: the closer's own kind is taken from below the innermost bracket
          refine ⟨?_, .inr ⟨.mismatched top k line column, k, rfl, rfl, rfl, rfl⟩⟩
          split
          · rename_i rest' herase
            exact (eraseFirstOfKind_sublist herase).cons_cons top
          · exact List.sublist_cons_self _ _

/-- A character read as a well-nested reading reads it adds no fault. -/
theorem step_of_nestStep {s : BracketScan} {X : List Bracket} {c : Char} (line column : Nat)
    (h : nestStep s.kinds c = some X) :
    (s.step line column c).faults = s.faults ∧ (s.step line column c).kinds = X := by
  obtain ⟨stack, faults⟩ := s
  unfold kinds at h ⊢
  rcases nestStep_cases h with ⟨k, rfl, rfl⟩ | ⟨k, rfl, hpop⟩ | ⟨ho, hc, rfl⟩
  · simp [step]
  · -- the closer closes the innermost open bracket, which is of its kind
    cases stack with
    | nil => simp at hpop
    | cons top rest =>
      simp only [List.map_cons, List.cons.injEq] at hpop
      obtain ⟨htop, rfl⟩ := hpop
      simp [step, htop]
  · simp [step, ho, hc]

/-! ## Reading without a fault -/

/-- Along a line whose brackets read well nested from the scan's open kinds, the scan meets no fault
and ends with the kinds of that reading. -/
theorem readLine_of_nestAfter (line : Nat) :
    ∀ {s : BracketScan} (column : Nat) {cs : List Char} {X : List Bracket},
      nestAfter s.kinds cs = some X →
      (s.readLine line column cs).faults = s.faults ∧ (s.readLine line column cs).kinds = X
  | _, _, [], _, h => by
    simp only [nestAfter_nil, Option.some.injEq] at h
    exact ⟨rfl, h⟩
  | s, column, c :: cs, X, h => by
    rw [nestAfter_cons, Option.bind_eq_some_iff] at h
    obtain ⟨Y, hstep, hrest⟩ := h
    obtain ⟨hfaults, hkinds⟩ := step_of_nestStep line column hstep
    rw [← hkinds] at hrest
    obtain ⟨hfaults', hkinds'⟩ := readLine_of_nestAfter line (column + 1) hrest
    exact ⟨hfaults'.trans hfaults, hkinds'⟩

/-- **A well-nested reading meets no fault**: reading lines whose brackets read well nested
from the check's open kinds adds no fault and leaves open what that reading leaves open. -/
theorem readLines_of_nestAfter :
    ∀ {s : BracketScan} (line : Nat) {ls : List (List Char)} {X : List Bracket},
      nestAfter s.kinds ls.flatten = some X →
      (s.readLines line ls).faults = s.faults ∧ (s.readLines line ls).kinds = X
  | _, _, [], _, h => by
    simp only [List.flatten_nil, nestAfter_nil, Option.some.injEq] at h
    exact ⟨rfl, h⟩
  | s, line, l :: ls, X, h => by
    rw [List.flatten_cons, nestAfter_append, Option.bind_eq_some_iff] at h
    obtain ⟨Y, hline, hrest⟩ := h
    obtain ⟨hfaults, hkinds⟩ := readLine_of_nestAfter line 1 hline
    rw [← hkinds] at hrest
    obtain ⟨hfaults', hkinds'⟩ := readLines_of_nestAfter (line + 1) hrest
    exact ⟨hfaults'.trans hfaults, hkinds'⟩

/-! ## What every step keeps -/

/-- What the check's reading keeps true of the code lines it reads, up to the place `here` it
has reached: each open bracket stands at an opener of its kind; each fault so far is reported
at a closer of the kind it reports, before `here`; and the faults, last first, go back in
reading order. -/
structure Sound (codes : List (List Char)) (here : Nat × Nat) (s : BracketScan) : Prop where
  opens : ∀ o ∈ s.stack, charAt codes o.line o.column = some o.kind.opener
  closes : ∀ f ∈ s.faults, ∃ k, f.closer? = some k ∧
    charAt codes f.toDiagnostic.line f.toDiagnostic.column = some k.closer
  before : ∀ f ∈ s.faults, PlaceBefore f.toDiagnostic.place here
  ordered : s.faults.Pairwise fun f g => PlaceBefore g.toDiagnostic.place f.toDiagnostic.place

namespace Sound

variable {codes : List (List Char)}

/-- The scan before the first character keeps its invariant: nothing is open and nothing was
reported. -/
theorem empty : empty.Sound codes (1, 1) :=
  ⟨by simp [BracketScan.empty], by simp [BracketScan.empty], by simp [BracketScan.empty],
    List.Pairwise.nil⟩

/-- Moving on to the next line keeps a reading sound. -/
theorem next_line {s : BracketScan} {line column : Nat} (h : s.Sound codes (line, column)) :
    s.Sound codes (line + 1, 1) :=
  ⟨h.opens, h.closes, fun f hf => (h.before f hf).next_line, h.ordered⟩

/-- **One character keeps the reading sound.** -/
theorem step {s : BracketScan} {line column : Nat} {c : Char} (h : s.Sound codes (line, column))
    (hc : charAt codes line column = some c) (hcol : 1 ≤ column) :
    (s.step line column c).Sound codes (line, column + 1) := by
  have hmax : max column 1 = column := Nat.max_eq_left hcol
  rcases step_cases s line column c with ⟨k, hk, heq⟩ | ⟨hsub, hrest⟩
  · -- an opener, pushed at its own place
    rw [heq]
    refine ⟨fun o ho => ?_, h.closes, fun f hf => (h.before f hf).next_column, h.ordered⟩
    rcases List.mem_cons.1 ho with rfl | ho
    · rw [hc, ofOpener?_eq_some.1 hk]
    · exact h.opens o ho
  generalize s.step line column c = s' at hsub hrest ⊢
  obtain ⟨stack', faults'⟩ := s'
  have hopens : ∀ o ∈ stack', charAt codes o.line o.column = some o.kind.opener :=
    fun o ho => h.opens o (hsub.subset ho)
  rcases hrest with hfaults | ⟨f, k, hk, hf, hplace, hfaults⟩
  · dsimp only at hfaults
    subst hfaults
    exact ⟨hopens, h.closes, fun f hf => (h.before f hf).next_column, h.ordered⟩
  · -- a fault at the closer just read, after every fault before it
    dsimp only at hfaults
    subst hfaults
    rw [hmax] at hplace
    have hline : f.toDiagnostic.line = line := congrArg Prod.fst hplace
    have hcolumn : f.toDiagnostic.column = column := congrArg Prod.snd hplace
    refine ⟨hopens, fun g hg => ?_, fun g hg => ?_, ?_⟩
    · rcases List.mem_cons.1 hg with rfl | hg
      · exact ⟨k, hf, by rw [hline, hcolumn, hc, ofCloser?_eq_some.1 hk]⟩
      · exact h.closes g hg
    · rcases List.mem_cons.1 hg with rfl | hg
      · rw [hplace]
        exact .inr ⟨rfl, Nat.lt_succ_self column⟩
      · exact (h.before g hg).next_column
    · exact List.Pairwise.cons (fun g hg => hplace ▸ h.before g hg) h.ordered

/-- Reading the rest of a code line from a column keeps the invariant, up to the column after it. -/
theorem readLine {line : Nat} {l : List Char} (hline : 1 ≤ line) (hl : codes[line - 1]? = some l) :
    ∀ {s : BracketScan} {column : Nat} {cs : List Char}, l.drop (column - 1) = cs → 1 ≤ column →
      s.Sound codes (line, column) → (s.readLine line column cs).Sound codes (line, column + cs.length)
  | _, _, [], _, _, h => h
  | s, column, c :: cs, hcs, hcol, h => by
    have hc : charAt codes line column = some c := charAt_of_drop hline hl hcol hcs
    have hrest : l.drop (column + 1 - 1) = cs := by
      rw [Nat.add_sub_cancel, show column = column - 1 + 1 by omega, ← List.drop_drop, hcs]
      rfl
    have h' := readLine hline hl hrest (Nat.le_succ_of_le hcol) (h.step hc hcol)
    rw [show column + 1 + cs.length = column + (c :: cs).length by simp; omega] at h'
    exact h'

/-- Reading the code lines from a line on keeps the invariant, up to the first column after the last
of them. -/
theorem readLines : ∀ {s : BracketScan} {line : Nat} {ls : List (List Char)},
    codes.drop (line - 1) = ls → 1 ≤ line →
      s.Sound codes (line, 1) → (s.readLines line ls).Sound codes (line + ls.length, 1)
  | _, _, [], _, _, h => by
    rw [List.length_nil, Nat.add_zero]
    exact h
  | s, line, l :: ls, hls, hline, h => by
    have hl : codes[line - 1]? = some l := by
      rw [← Nat.add_zero (line - 1), ← List.getElem?_drop, hls]
      rfl
    have hrest : codes.drop (line + 1 - 1) = ls := by
      rw [Nat.add_sub_cancel, show line = line - 1 + 1 by omega, ← List.drop_drop, hls]
      rfl
    have h' := readLines hrest (Nat.le_succ_of_le hline)
      (h.readLine hline hl rfl (Nat.le_refl 1)).next_line
    rw [show line + 1 + ls.length = line + (l :: ls).length by simp; omega] at h'
    exact h'

end Sound

/-- The check's reading of a whole file is sound. -/
theorem sound_readLines (codes : List (List Char)) :
    (empty.readLines 1 codes).Sound codes (1 + codes.length, 1) :=
  Sound.readLines (List.drop_zero) (Nat.le_refl 1) Sound.empty

end BracketScan

/-! ## The findings -/

/-- **The bracket check finds no fault exactly when the brackets are well nested.** -/
theorem bracketFaults_eq_nil_iff (codes : List (List Char)) :
    bracketFaults codes = [] ↔ WellNested codes.flatten := by
  refine ⟨fun h => (nestAfter_of_bracketFaults_nil h 0).2, fun h => ?_⟩
  obtain ⟨hfaults, hkinds⟩ := BracketScan.readLines_of_nestAfter (s := BracketScan.empty) 1 h
  have hstack : (BracketScan.empty.readLines 1 codes).stack = [] :=
    List.map_eq_nil_iff.1 hkinds
  unfold bracketFaults BracketScan.allFaults
  rw [hfaults, hstack]
  rfl

/-- The faults of a file: those met on the way, in order, and then the innermost bracket left
open, if any. -/
theorem bracketFaults_eq (codes : List (List Char)) :
    bracketFaults codes = (BracketScan.empty.readLines 1 codes).faults.reverse ++
      ((BracketScan.empty.readLines 1 codes).stack.head?.map .unclosed).toList := by
  unfold bracketFaults BracketScan.allFaults
  cases (BracketScan.empty.readLines 1 codes).stack <;> rfl

/-- A crossed pair is reported once, at its first closer, and leaves nothing open. -/
example : bracketFaults ["(a, [b)]".toList] = [.mismatched ⟨.square, 1, 5⟩ .round 1 7] := by
  decide

/-- The finding on a bracket left open points at its opener: the opener stands at a column of
at least 1, so the finding keeps it. -/
theorem charAt_unclosed {codes : List (List Char)} {o : OpenBracket}
    (h : charAt codes o.line o.column = some o.kind.opener) :
    charAt codes (BracketFault.unclosed o).toDiagnostic.line
      (BracketFault.unclosed o).toDiagnostic.column = some o.kind.opener := by
  show charAt codes o.line (max o.column 1) = _
  rw [Nat.max_eq_left (one_le_column_of_charAt h)]
  exact h

/-- Every finding of the bracket check points at a character of the code lines. -/
theorem exists_charAt_of_mem_checkBrackets {codes : List (List Char)} {d : Diagnostic}
    (h : d ∈ checkBrackets codes) : ∃ c, charAt codes d.line d.column = some c := by
  have hsound := BracketScan.sound_readLines codes
  obtain ⟨f, hf, rfl⟩ := List.mem_map.1 h
  rw [bracketFaults_eq, List.mem_append] at hf
  rcases hf with hf | hf
  · obtain ⟨k, -, hk⟩ := hsound.closes f (List.mem_reverse.1 hf)
    exact ⟨_, hk⟩
  · -- the innermost bracket left open
    cases hhead : (BracketScan.empty.readLines 1 codes).stack.head? with
    | none => simp [hhead] at hf
    | some o =>
      simp only [hhead, Option.map_some, Option.toList_some, List.mem_singleton] at hf
      rw [hf]
      exact ⟨_, charAt_unclosed (hsound.opens o (List.mem_of_mem_head? hhead))⟩

/-- **The bracket check reports the nesting.** It reports nothing exactly when the brackets of
the code lines, read across all lines in order, are well nested; everything it reports is a
delimiter finding; and its findings are first those met on the way, each at a closer and no
two at the same place, then at most one more, for the innermost bracket still open, at its
opener. -/
theorem bracketCheck_reports_nesting (codes : List (List Char)) :
    (checkBrackets codes = [] ↔ WellNested codes.flatten) ∧
      (∀ d ∈ checkBrackets codes, d.code = .delimiter) ∧
      ∃ closing unclosed : List Diagnostic, checkBrackets codes = closing ++ unclosed ∧
        (∀ d ∈ closing, ∃ k : Bracket, charAt codes d.line d.column = some k.closer) ∧
        (closing.map Diagnostic.place).Nodup ∧
        unclosed = ((BracketScan.empty.readLines 1 codes).stack.head?.map
          fun o => (BracketFault.unclosed o).toDiagnostic).toList ∧
        ∀ d ∈ unclosed, ∃ k : Bracket, charAt codes d.line d.column = some k.opener := by
  have hsound := BracketScan.sound_readLines codes
  refine ⟨by rw [checkBrackets, List.map_eq_nil_iff, bracketFaults_eq_nil_iff], ?_, ?_⟩
  · intro d hd
    obtain ⟨f, -, rfl⟩ := List.mem_map.1 hd
    exact BracketFault.toDiagnostic_code f
  refine ⟨(BracketScan.empty.readLines 1 codes).faults.reverse.map BracketFault.toDiagnostic,
    _, ?_, ?_, ?_, rfl, ?_⟩
  · rw [checkBrackets, bracketFaults_eq, List.map_append]
    cases (BracketScan.empty.readLines 1 codes).stack.head? <;> rfl
  · intro d hd
    obtain ⟨f, hf, rfl⟩ := List.mem_map.1 hd
    obtain ⟨k, -, hk⟩ := hsound.closes f (List.mem_reverse.1 hf)
    exact ⟨k, hk⟩
  · -- the faults go back in reading order, so no two share a place
    rw [List.map_map, List.map_reverse]
    unfold List.Nodup
    rw [List.pairwise_reverse]
    exact List.pairwise_map.2 (hsound.ordered.imp fun h => h.ne.symm)
  · intro d hd
    cases hhead : (BracketScan.empty.readLines 1 codes).stack.head? with
    | none => simp [hhead] at hd
    | some o =>
      simp only [hhead, Option.map_some, Option.toList_some, List.mem_singleton] at hd
      rw [hd]
      exact ⟨o.kind, charAt_unclosed (hsound.opens o (List.mem_of_mem_head? hhead))⟩

end PineCheck
