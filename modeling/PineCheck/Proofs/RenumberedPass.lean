import PineCheck.Proofs.Renumbering
/-!
# The pass and the report on renumbered lines

The pass over lines moved by a map `g` (`Line.MovesBy f g`) runs as the pass over the lines
themselves, with every line it keeps moved, every line number renumbered by `f` and its
findings related by some `F` (`Pass.Mapped`). One step keeps this when the text rules and the
tally read the moved line as the line (`Pass.LineMoves`), so a run does
(`Pass.Mapped.foldl`), and the findings after the last line are related too
(`Pass.Mapped.finish`). On renumbered lines every finding is renumbered (`Pass.Renumbered`).

The bracket check numbers the lines it reads itself, from a first line on; reading from a
line `m` where it read from `n` renumbers what it finds by any `f` that moves `n + i` to
`m + i` (`BracketScan.readLines_renumber`).

The report sorts the findings by line and then adds the file rules' findings. Sorting keeps
the order of two findings if `f` keeps the order of their lines (`forall₂_sortByLine`). The
file rules point at the lines the tally keeps, or at line 1: the two ceilings always, and the
missing version and the missing declaration in a file whose lines are all blank. Those stay
where they are (`Diagnostic.Moved`, `fileFindings_moved`).
-/

namespace PineCheck

open Script Text
open Diagnostic (Renumbered)

variable (f : Nat → Nat)

/-! ## The tally -/

attribute [ext] Tally

/-- **The tally moves with the lines.** -/
theorem Tally.observe_renumber (t : Tally) (l : Line) :
    (t.renumber f).observe (l.renumber f) = (t.observe l).renumber f := by
  unfold Tally.observe
  rewrite [Line.renumber_kind, Line.renumber_text, Line.renumber_code, Line.renumber_indent,
    Line.renumber_number, Tally.renumber_versionLine, Option.isNone_map]
  split_ifs
  · rfl
  all_goals apply Tally.ext <;> simp only [Tally.renumber_firstNonblank, Tally.renumber_versionLine,
    Tally.renumber_declarations, Tally.renumber_inputCount, Tally.renumber_securityCount,
    Tally.renumber_entries, Tally.renumber_hasCancel]
  -- left: the first line that is not blank, the declarations and the order entries
  all_goals first
    | rfl
    | (cases t.firstNonblank <;> rfl)
    | (split_ifs <;> simp)
    | (rw [List.map_append, List.map_map]; rfl)

/-- Renumbering a tally by the identity leaves it as it is. -/
theorem Tally.renumber_id (t : Tally) : t.renumber id = t := by
  apply Tally.ext <;> simp [Tally.renumber]

/-! ## The pass -/

/-- The relations between the findings of two passes that a step can carry: one that holds of
renumbered findings and of the concatenations of related lists. -/
structure Pass.Carries (F : List Diagnostic → List Diagnostic → Prop) : Prop where
  renumbered : ∀ {xs ys}, List.Forall₂ (Diagnostic.Renumbered f) xs ys → F xs ys
  append : ∀ {xs ys xs' ys'}, F xs ys → F xs' ys' → F (xs ++ xs') (ys ++ ys')

/-- `Pass.Mapped f g F p p'`: the pass state `p'` is `p` on lines moved by `g`, with its line
numbers moved by `f` and its findings related to those of `p` by `F`. -/
structure Pass.Mapped (g : Line → Line) (F : List Diagnostic → List Diagnostic → Prop)
    (p p' : Pass) : Prop where
  tracker : p'.tracker = p.tracker.mapLines g
  tally : p'.tally = p.tally.renumber f
  statement : p'.statement = p.statement.map g
  scope : p'.scope = p.scope.map (Snapshot.mapLines g)
  found : F p.found p'.found

/-- What a step needs of a line besides `g` keeping its code: the text rules find on its moved
copy what they find on it, up to `F`, and the tally counts the moved copy as it counts it. -/
structure Pass.LineMoves (g : Line → Line) (F : List Diagnostic → List Diagnostic → Prop)
    (s : Settings) (l : Line) : Prop where
  text : ∀ b, F (textFindings s l b) (textFindings s (g l) b)
  observe : ∀ t : Tally, (t.renumber f).observe (g l) = (t.observe l).renumber f

namespace Pass.Mapped

variable {f} {g : Line → Line} {F : List Diagnostic → List Diagnostic → Prop} {p p' : Pass}

/-- The passes before any line correspond: they have found nothing and hold no line. -/
theorem start (hF : Pass.Carries f F) (s : Settings) :
    Pass.Mapped f g F (Pass.start s) (Pass.start s) :=
  ⟨rfl, rfl, rfl, rfl, hF.renumbered .nil⟩

/-- **One step of the pass moves with its line.** -/
theorem step (hF : Pass.Carries f F) (hg : Line.MovesBy f g) (h : Pass.Mapped f g F p p')
    (s : Settings) {l : Line} (hl : Pass.LineMoves f g F s l) :
    Pass.Mapped f g F (p.step s l) (p'.step s (g l)) := by
  have hfirst : (p'.tally.firstNonblank.isNone && (g l).kind != .blank) =
      (p.tally.firstNonblank.isNone && l.kind != .blank) := by
    rw [h.tally, Tally.renumber_firstNonblank, Option.isNone_map, hg.kind]
  have hcode : (g l).isCode = l.isCode := by
    unfold Line.isCode
    rw [hg.kind]
  cases hc : l.isCode
  · rw [Pass.step_of_not_code s p l hc, Pass.step_of_not_code s p' (g l) (hcode.trans hc), hfirst]
    exact ⟨h.tracker, by rw [h.tally, hl.observe], h.statement, h.scope,
      hF.append h.found (hl.text _)⟩
  · rw [Pass.step_of_code s p l hc, Pass.step_of_code s p' (g l) (hcode.trans hc), hfirst,
      h.tracker, Tracker.advance_mapLines hg]
    dsimp only
    rw [h.statement, h.scope]
    simp only [Snapshot.mapLines_continuation, List.isEmpty_map]
    have hloop : F (p.tracker.advance l).2.1 ((p.tracker.advance l).2.1.map (Diagnostic.renumber f)) :=
      hF.renumbered (forall₂_renumbered_map_of_code f rfl fun _ => Tracker.code_of_mem_advance_found)
    have hline := hF.renumbered (lineFindings_mapLines hg s l (p.tracker.advance l).1)
    cases ((p.tracker.advance l).1.continuation && !p.statement.isEmpty)
    · -- the line starts a statement and flushes the one before
      refine ⟨rfl, by rw [h.tally, hl.observe], rfl, rfl, ?_⟩
      exact hF.append (hF.append (hF.append (hF.append h.found (hl.text _)) hloop)
        (hF.renumbered (flushStatement_mapLines f hg s _ _))) hline
    · -- the line continues the statement under way
      refine ⟨rfl, by rw [h.tally, hl.observe], by simp, rfl, ?_⟩
      exact hF.append (hF.append (hF.append (hF.append h.found (hl.text _)) hloop)
        (hF.renumbered .nil)) hline

/-- **A run of the pass moves with its lines.** -/
theorem foldl (hF : Pass.Carries f F) (hg : Line.MovesBy f g) (h : Pass.Mapped f g F p p')
    (s : Settings) {ls : List Line} (hls : ∀ l ∈ ls, Pass.LineMoves f g F s l) :
    Pass.Mapped f g F (ls.foldl (Pass.step s) p) ((ls.map g).foldl (Pass.step s) p') := by
  induction ls generalizing p p' with
  | nil => exact h
  | cons l ls ih =>
    exact ih (h.step hF hg s (hls l List.mem_cons_self)) fun m hm =>
      hls m (List.mem_cons_of_mem _ hm)

/-- The findings after the last line move with the lines. -/
theorem finish (hF : Pass.Carries f F) (hg : Line.MovesBy f g) (h : Pass.Mapped f g F p p')
    (s : Settings) : F (p.finish s) (p'.finish s) := by
  unfold Pass.finish
  rw [h.tracker, Tracker.danglingLine_mapLines hg, h.statement, h.scope]
  refine hF.append (hF.append h.found (hF.renumbered (flushStatement_mapLines f hg s _ _)))
    (hF.renumbered ?_)
  cases p.tracker.danglingLine with
  | none => exact .nil
  | some d =>
    dsimp only [Option.map_some]
    rw [danglingFinding_mapLines hg]
    exact .cons (.moved rfl) .nil

end Pass.Mapped

/-- Renumbered findings are carried by a step. -/
theorem Pass.carries_renumbered : Pass.Carries f (List.Forall₂ (Diagnostic.Renumbered f)) :=
  ⟨id, fun h h' => List.rel_append h h'⟩

/-- Every line moves with its renumbering. -/
theorem Pass.lineMoves_renumber (s : Settings) (l : Line) :
    Pass.LineMoves f (Line.renumber f) (List.Forall₂ (Diagnostic.Renumbered f)) s l :=
  ⟨textFindings_renumbered f s l, fun t => Tally.observe_renumber f t l⟩

/-- `Pass.Renumbered f p p'`: the pass state `p'` is `p` on lines renumbered by `f`. -/
abbrev Pass.Renumbered (p p' : Pass) : Prop :=
  Pass.Mapped f (Line.renumber f) (List.Forall₂ (Diagnostic.Renumbered f)) p p'

namespace Pass.Renumbered

variable {f} {p p' : Pass}

/-- The passes before any line correspond under every renumbering. -/
theorem start (s : Settings) : Pass.Renumbered f (Pass.start s) (Pass.start s) :=
  Pass.Mapped.start (Pass.carries_renumbered f) s

/-- The pass over renumbered lines is the renumbered pass. -/
theorem foldl (h : Pass.Renumbered f p p') (s : Settings) (ls : List Line) :
    Pass.Renumbered f (ls.foldl (Pass.step s) p) ((ls.map (Line.renumber f)).foldl (Pass.step s) p') :=
  Pass.Mapped.foldl (Pass.carries_renumbered f) (Line.movesBy_renumber f) h s fun l _ =>
    Pass.lineMoves_renumber f s l

/-- Finishing renumbered passes gives renumbered findings. -/
theorem finish (h : Pass.Renumbered f p p') (s : Settings) :
    List.Forall₂ (Diagnostic.Renumbered f) (p.finish s) (p'.finish s) :=
  Pass.Mapped.finish (Pass.carries_renumbered f) (Line.movesBy_renumber f) h s

end Pass.Renumbered

/-! ## The bracket check -/

/-- Erasing an open bracket commutes with renumbering the open brackets. -/
theorem eraseFirstOfKind_renumber (k : Bracket) (stack : List OpenBracket) :
    eraseFirstOfKind k (stack.map (OpenBracket.renumber f)) =
      (eraseFirstOfKind k stack).map (List.map (OpenBracket.renumber f)) := by
  induction stack with
  | nil => rfl
  | cons o rest ih =>
    rw [List.map_cons, eraseFirstOfKind, eraseFirstOfKind, OpenBracket.renumber_kind]
    by_cases hk : (o.kind == k) = true
    · rw [if_pos hk, if_pos hk]
      rfl
    · rw [if_neg hk, if_neg hk, ih, Option.map_map, Option.map_map]
      rfl

namespace BracketScan

/-- A step of the bracket check on a renumbered line is the renumbered step. -/
theorem step_renumber (s : BracketScan) (line column : Nat) (c : Char) :
    (s.renumber f).step (f line) column c = (s.step line column c).renumber f := by
  obtain ⟨stack, faults⟩ := s
  unfold step
  cases Bracket.ofOpener? c with
  | some k => rfl
  | none =>
    cases Bracket.ofCloser? c with
    | none => rfl
    | some k =>
      cases stack with
      | nil => rfl
      | cons top rest =>
        simp only [renumber_stack, renumber_faults, List.map_cons]
        rewrite [OpenBracket.renumber_kind]
        by_cases hk : (top.kind == k) = true
        · rw [if_pos hk, if_pos hk]
          rfl
        · rw [if_neg hk, if_neg hk, eraseFirstOfKind_renumber]
          cases eraseFirstOfKind k rest <;> rfl

/-- Reading a renumbered line is the renumbered reading. -/
theorem readLine_renumber (line : Nat) (s : BracketScan) (column : Nat) (cs : List Char) :
    (s.renumber f).readLine (f line) column cs = (s.readLine line column cs).renumber f := by
  induction cs generalizing s column with
  | nil => rfl
  | cons c rest ih => rw [readLine, readLine, step_renumber, ih]

/-- **Reading lines from another first line** renumbers what the scan finds by any `f` that
moves the old numbers of the lines read onto the new ones. -/
theorem readLines_renumber {n m : Nat} (s : BracketScan) (codes : List (List Char))
    (hf : ∀ i < codes.length, f (n + i) = m + i) :
    (s.renumber f).readLines m codes = (s.readLines n codes).renumber f := by
  induction codes generalizing s n m with
  | nil => rfl
  | cons c rest ih =>
    have hn : f n = m := hf 0 (Nat.zero_lt_succ _)
    have hnext : ∀ i < rest.length, f (n + 1 + i) = m + 1 + i := fun i hi => by
      rw [Nat.add_assoc, Nat.add_comm 1 i, hf (i + 1) (Nat.succ_lt_succ hi)]
      omega
    rw [readLines, readLines, ← hn, readLine_renumber, hn]
    exact ih _ hnext

/-- The faults of a renumbered scan are the renumbered faults. -/
theorem allFaults_renumber (s : BracketScan) :
    (s.renumber f).allFaults = s.allFaults.map (BracketFault.renumber f) := by
  obtain ⟨stack, faults⟩ := s
  cases stack <;> simp [allFaults, renumber, List.map_reverse, BracketFault.renumber]

end BracketScan

/-! ## Sorting by line -/

section Sorting

variable {f} (hf : StrictMono f)
include hf

/-- Inserting renumbered findings by line keeps them renumbered, when renumbering keeps lines in
order. -/
theorem forall₂_orderedInsert {x y : Diagnostic} (hxy : Renumbered f x y) {xs ys : List Diagnostic}
    (h : List.Forall₂ (Renumbered f) xs ys) :
    List.Forall₂ (Renumbered f) (xs.orderedInsert (Thinned.KeyLE Diagnostic.line) x)
      (ys.orderedInsert (Thinned.KeyLE Diagnostic.line) y) := by
  induction h with
  | nil => exact .cons hxy .nil
  | @cons x' y' xs ys hxy' h ih =>
    rw [List.orderedInsert_cons, List.orderedInsert_cons]
    -- `f` keeps the order of the two lines, so both go in at the same place
    have hle : Thinned.KeyLE Diagnostic.line y y' ↔ Thinned.KeyLE Diagnostic.line x x' := by
      unfold Thinned.KeyLE
      rw [hxy.line_eq, hxy'.line_eq]
      exact hf.le_iff_le
    by_cases hx : Thinned.KeyLE Diagnostic.line x x'
    · rw [if_pos hx, if_pos (hle.2 hx)]
      exact .cons hxy (.cons hxy' h)
    · rw [if_neg hx, if_neg (fun hy => hx (hle.1 hy))]
      exact .cons hxy' ih

/-- **Sorting by line keeps renumbered findings in step** when `f` keeps the order of lines. -/
theorem forall₂_sortByLine {xs ys : List Diagnostic} (h : List.Forall₂ (Renumbered f) xs ys) :
    List.Forall₂ (Renumbered f) (sortByLine xs) (sortByLine ys) := by
  induction h with
  | nil =>
    rw [sortByLine_nil]
    exact .nil
  | cons hxy _ ih =>
    rw [sortByLine_cons, sortByLine_cons]
    exact forall₂_orderedInsert hf hxy ih

end Sorting

/-! ## The file rules -/

namespace Diagnostic

/-- The findings that stay on line 1 whatever the lines' numbers: the carriage-return finding
and the two ceiling findings, and in a file whose lines are all blank the missing version and
the missing declaration. -/
def staysOnFirstLine (blankFile : Bool) (d : Diagnostic) : Bool :=
  match d.code with
  | .newline | .inputBloat | .securityBloat => true
  | .version | .declarationMissing => blankFile
  | _ => false

/-- `Moved f blankFile d d'`: the finding `d'` is `d` if `d` stays on line 1, and `d` with its
line numbers moved by `f` otherwise. -/
def Moved (blankFile : Bool) (d d' : Diagnostic) : Prop :=
  if d.staysOnFirstLine blankFile then d' = d else Renumbered f d d'

variable {f} {b : Bool} {d d' : Diagnostic}

/-- A finding that stays on line 1 is moved to itself. -/
theorem Moved.of_stays (h : d.staysOnFirstLine b = true) : Moved f b d d := by
  rw [Moved, if_pos h]

/-- A renumbered finding that does not stay on line 1 is moved. -/
theorem Moved.of_renumbered (h : d.staysOnFirstLine b = false) (hr : Renumbered f d d') :
    Moved f b d d' := by
  rw [Moved, if_neg (by rw [h]; exact Bool.false_ne_true)]
  exact hr

end Diagnostic

open Diagnostic (Moved)

section FileRules

variable (s : Settings) (t : Tally)

/-- The missing-version finding moves with the lines, or stays on line 1 in a blank file. -/
theorem versionPresentRule_moved :
    List.Forall₂ (Moved f t.firstNonblank.isNone) (versionPresentRule s t)
      (versionPresentRule s (t.renumber f)) := by
  unfold versionPresentRule
  rw [Tally.renumber_firstNonblank, Option.isSome_map]
  cases t.firstNonblank with
  | none => exact .cons (.of_stays rfl) .nil
  | some m => exact .nil

/-- The declaration-count findings move with the lines. -/
theorem declarationCountRule_moved :
    List.Forall₂ (Moved f t.firstNonblank.isNone) (declarationCountRule t)
      (declarationCountRule (t.renumber f)) := by
  unfold declarationCountRule
  rw [Tally.renumber_declarations, List.length_map, Tally.renumber_firstNonblank]
  cases t.declarations with
  | nil =>
    cases t.firstNonblank with
    | none => exact .cons (.of_stays rfl) .nil
    | some m => exact .cons (.of_renumbered rfl (.moved rfl)) .nil
  | cons first rest =>
    cases rest with
    | nil => exact .nil
    | cons second rest' => exact .cons (.of_renumbered rfl (.moved rfl)) .nil

/-- The declaration-order finding moves with the lines, when renumbering keeps them in order. -/
theorem declarationOrderRule_moved (hf : StrictMono f) :
    List.Forall₂ (Moved f t.firstNonblank.isNone) (declarationOrderRule t)
      (declarationOrderRule (t.renumber f)) := by
  unfold declarationOrderRule
  rw [Tally.renumber_declarations, Tally.renumber_versionLine]
  cases t.declarations with
  | nil => exact .nil
  | cons first rest =>
    cases t.versionLine with
    | none => exact .nil
    | some v =>
      rw [List.map_cons, Option.map_some]
      dsimp only
      by_cases hle : first ≤ v
      · rw [if_pos hle, if_pos (hf.monotone hle)]
        exact .cons (.of_renumbered rfl (.moved rfl)) .nil
      · rw [if_neg hle, if_neg (fun h => hle (hf.le_iff_le.1 h))]
        exact .nil

/-- The missing-cancel finding moves with the lines. -/
theorem cancelPresenceRule_moved :
    List.Forall₂ (Moved f t.firstNonblank.isNone) (cancelPresenceRule t)
      (cancelPresenceRule (t.renumber f)) := by
  unfold cancelPresenceRule
  rw [Tally.renumber_entries, Tally.renumber_hasCancel]
  cases t.entries with
  | nil => exact .nil
  | cons e rest =>
    dsimp only [List.map_cons]
    cases t.hasCancel with
    | true => exact .nil
    | false => exact .cons (.of_renumbered rfl (.moved rfl)) .nil

/-- Findings that all stay on line 1 stay as they are. -/
theorem forall₂_moved_of_stays {b : Bool} {ds : List Diagnostic}
    (h : ∀ d ∈ ds, d.staysOnFirstLine b = true) : List.Forall₂ (Moved f b) ds ds :=
  List.forall₂_same.2 fun d hd => .of_stays (h d hd)

/-- **The file rules move with the tally's lines**, but for the findings on line 1. -/
theorem fileFindings_moved (hf : StrictMono f) :
    List.Forall₂ (Moved f t.firstNonblank.isNone) (fileFindings s t) (fileFindings s (t.renumber f)) := by
  unfold fileFindings
  have hinputs : inputCeilingRule s (t.renumber f) = inputCeilingRule s t := rfl
  have hsecurity : securityCeilingRule s (t.renumber f) = securityCeilingRule s t := rfl
  rw [hinputs, hsecurity]
  refine List.rel_append (List.rel_append (List.rel_append (List.rel_append (List.rel_append
    (versionPresentRule_moved f s t) (declarationCountRule_moved f t))
    (declarationOrderRule_moved f t hf)) ?inputs) ?security) (cancelPresenceRule_moved f t)
  case inputs =>
    exact forall₂_moved_of_stays f fun d hd => by
      rw [Diagnostic.staysOnFirstLine, code_of_mem_inputCeilingRule hd]
  case security =>
    exact forall₂_moved_of_stays f fun d hd => by
      rw [Diagnostic.staysOnFirstLine, code_of_mem_securityCeilingRule hd]

end FileRules

end PineCheck
