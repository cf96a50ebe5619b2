import Mathlib.Data.List.Sort
import PineCheck.Proofs.Statements
/-!
# Two lint passes, finding by finding

Several laws of the linter compare the report on one text under two settings: a switch that
turns a rule off removes that rule's findings, a severity switch changes codes in place, and
a raised ceiling removes some findings and requotes others. Each of these says that one list
of findings is the other with some items left out and the rest changed item by item
(`Thinned`).

The report is the pass's findings sorted by line, and then the whole-file findings. Sorting
is stable and reads only the line (`sortByLine_cons`: it inserts the first finding into the
sorted rest), so a thinning that keeps lines survives it (`Thinned.sortByLine`).

The pass itself is a fold of one step over the lines. A `Coupling` of two settings says how
the trackers of the two passes correspond, that the tracker steps alike on both, and that
each kind of rule thins its findings; `Coupling.thinned_lintContent` carries this through the
whole pass, step by step (`Coupling.Passes.step`), to the report.
-/

namespace PineCheck

/-! ## Thinning a list -/

/-- `Thinned dropped R xs ys`: `ys` is `xs` with some items that satisfy `dropped` left out
and every other item `x` replaced by an item `y` with `R x y`, in the same order. -/
inductive Thinned {α : Type} (dropped : α → Prop) (R : α → α → Prop) :
    List α → List α → Prop
  | nil : Thinned dropped R [] []
  | keep {x y : α} {xs ys : List α} :
      R x y → Thinned dropped R xs ys → Thinned dropped R (x :: xs) (y :: ys)
  | skip {x : α} {xs ys : List α} :
      dropped x → Thinned dropped R xs ys → Thinned dropped R (x :: xs) ys

namespace Thinned

variable {α : Type} {dropped : α → Prop} {R : α → α → Prop}

/-- Thinnings of two parts put together thin the whole. -/
theorem append {xs ys xs' ys' : List α} (h : Thinned dropped R xs ys)
    (h' : Thinned dropped R xs' ys') : Thinned dropped R (xs ++ xs') (ys ++ ys') := by
  induction h with
  | nil => exact h'
  | keep hxy _ ih => exact keep hxy ih
  | skip hx _ ih => exact skip hx ih

/-- A list whose items are each related to themselves is a thinning of itself. -/
theorem of_forall {xs : List α} (h : ∀ x ∈ xs, R x x) : Thinned dropped R xs xs := by
  induction xs with
  | nil => exact nil
  | cons x xs ih =>
    exact keep (h x List.mem_cons_self) (ih fun y hy => h y (List.mem_cons_of_mem _ hy))

/-- A list whose items may all be left out thins to nothing. -/
theorem of_forall_dropped {xs : List α} (h : ∀ x ∈ xs, dropped x) :
    Thinned dropped R xs [] := by
  induction xs with
  | nil => exact nil
  | cons x xs ih =>
    exact skip (h x List.mem_cons_self) (ih fun y hy => h y (List.mem_cons_of_mem _ hy))

/-- A list that is either emptied or kept as it is. -/
theorem of_nil_or_eq {xs ys : List α} (hd : ∀ x ∈ xs, dropped x) (hR : ∀ x ∈ xs, R x x)
    (h : ys = [] ∨ ys = xs) : Thinned dropped R xs ys := by
  rcases h with rfl | rfl
  · exact of_forall_dropped hd
  · exact of_forall hR

/-- Two rules of at most one finding, the second silent whenever the first is: the first
finding is kept and related, or left out. -/
theorem ite_singleton {p q : Prop} [Decidable p] [Decidable q] {x y : α} (hpq : p → q)
    (hx : dropped x) (hxy : R x y) :
    Thinned dropped R (if p then [] else [x]) (if q then [] else [y]) := by
  by_cases hq : q
  · rw [if_pos hq]
    by_cases hp : p
    · rw [if_pos hp]; exact nil
    · rw [if_neg hp]; exact skip hx nil
  · rw [if_neg hq, if_neg (mt hpq hq)]
    exact keep hxy nil

/-- Every item of a thinning comes from an item of the list thinned. -/
theorem exists_of_mem {xs ys : List α} (h : Thinned dropped R xs ys) :
    ∀ y ∈ ys, ∃ x ∈ xs, R x y := by
  induction h with
  | nil => simp
  | keep hxy _ ih =>
    intro y hy
    rcases List.mem_cons.1 hy with rfl | hy
    · exact ⟨_, List.mem_cons_self, hxy⟩
    · obtain ⟨x, hx, hr⟩ := ih y hy
      exact ⟨x, List.mem_cons_of_mem _ hx, hr⟩
  | skip _ _ ih =>
    intro y hy
    obtain ⟨x, hx, hr⟩ := ih y hy
    exact ⟨x, List.mem_cons_of_mem _ hx, hr⟩

/-! ### Filters and maps are thinnings -/

/-- Leaving out the items that fail a test and keeping the others as they are. -/
theorem of_filter (p : α → Bool) (xs : List α) :
    Thinned (fun x => p x = false) (fun x y => p x = true ∧ y = x) xs (xs.filter p) := by
  induction xs with
  | nil => exact nil
  | cons x xs ih =>
    cases hp : p x
    · rw [List.filter_cons_of_neg (by simp [hp])]
      exact skip hp ih
    · rw [List.filter_cons_of_pos hp]
      exact keep ⟨hp, rfl⟩ ih

/-- A thinning that leaves out exactly the items failing a test, and keeps the others as they
are, is the filter by that test. -/
theorem eq_filter {p : α → Bool} {xs ys : List α}
    (h : Thinned (fun x => p x = false) (fun x y => p x = true ∧ y = x) xs ys) :
    ys = xs.filter p := by
  induction h with
  | nil => rfl
  | keep hxy _ ih =>
    obtain ⟨hp, rfl⟩ := hxy
    rw [List.filter_cons_of_pos hp, ih]
  | skip hx _ ih => rw [List.filter_cons_of_neg (by simp [hx]), ih]

/-- Changing every item by `f` is a thinning that leaves nothing out. -/
theorem of_map (f : α → α) (xs : List α) :
    Thinned (fun _ => False) (fun x y => y = f x) xs (xs.map f) := by
  induction xs with
  | nil => exact nil
  | cons x xs ih => exact keep rfl ih

/-- A thinning that leaves nothing out and changes each item by `f` is the map of `f`. -/
theorem eq_map {f : α → α} {xs ys : List α}
    (h : Thinned (fun _ => False) (fun x y => y = f x) xs ys) : ys = xs.map f := by
  induction h with
  | nil => rfl
  | keep hxy _ ih => rw [hxy, ih, List.map_cons]
  | skip hx => exact hx.elim

/-! ### Inserting by a key -/

section Insert

variable (key : α → Nat)

/-- The order of a sort by `key`. -/
def KeyLE (a b : α) : Prop := key a ≤ key b

/-- The order of a sort by `key` is decided on the keys. -/
instance : DecidableRel (KeyLE key) := fun a b => Nat.decLe (key a) (key b)

/-- An item whose key is at most every key of a sorted list is inserted at its front. -/
theorem orderedInsert_of_forall_le {y : α} {ys : List α} (h : ∀ z ∈ ys, key y ≤ key z) :
    ys.orderedInsert (KeyLE key) y = y :: ys := by
  cases ys with
  | nil => rfl
  | cons z zs => exact List.orderedInsert_cons_of_le _ _ (h z List.mem_cons_self)

/-- An item left out may be inserted anywhere. -/
theorem orderedInsert_skip {x : α} (hx : dropped x) {xs ys : List α}
    (h : Thinned dropped R xs ys) : Thinned dropped R (xs.orderedInsert (KeyLE key) x) ys := by
  induction h with
  | nil => exact skip hx nil
  | keep hxy h ih =>
    rw [List.orderedInsert_cons]
    split
    · exact skip hx (keep hxy h)
    · exact keep hxy ih
  | skip hx' h ih =>
    rw [List.orderedInsert_cons]
    split
    · exact skip hx (skip hx' h)
    · exact skip hx' ih

/-- Two related items with the same key go in at the same place of a sorted list and its
thinning. -/
theorem orderedInsert_keep (hkey : ∀ {x y}, R x y → key x = key y) {x y : α} (hxy : R x y)
    {xs ys : List α} (h : Thinned dropped R xs ys) (hs : xs.Pairwise (KeyLE key)) :
    Thinned dropped R (xs.orderedInsert (KeyLE key) x) (ys.orderedInsert (KeyLE key) y) := by
  induction h with
  | nil => exact keep hxy nil
  | @keep x' y' xs ys hxy' h ih =>
    rw [List.orderedInsert_cons, List.orderedInsert_cons]
    by_cases hle : KeyLE key x x'
    · have hle' : KeyLE key y y' := by
        unfold KeyLE at hle ⊢
        rw [← hkey hxy, ← hkey hxy']
        exact hle
      rw [if_pos hle, if_pos hle']
      exact keep hxy (keep hxy' h)
    · have hle' : ¬ KeyLE key y y' := by
        unfold KeyLE at hle ⊢
        rw [← hkey hxy, ← hkey hxy']
        exact hle
      rw [if_neg hle, if_neg hle']
      exact keep hxy' (ih (List.pairwise_cons.1 hs).2)
  | @skip x' xs ys hx' h ih =>
    rw [List.orderedInsert_cons]
    split
    · -- `x` goes before `x'`, so before every later item, and `y` before every kept one
      rename_i hle
      have hbelow : ∀ z ∈ ys, key y ≤ key z := by
        intro z hz
        obtain ⟨w, hw, hwz⟩ := exists_of_mem h z hz
        have hxw : key x' ≤ key w := (List.pairwise_cons.1 hs).1 w hw
        rw [← hkey hxy, ← hkey hwz]
        exact Nat.le_trans hle hxw
      rw [orderedInsert_of_forall_le key hbelow]
      exact keep hxy (skip hx' h)
    · exact skip hx' (ih (List.pairwise_cons.1 hs).2)

end Insert

end Thinned

/-! ## Sorting by line -/

/-- An item that goes after every item of a first part is inserted into the second. -/
theorem orderedInsert_append_of_forall_not {α : Type} {r : α → α → Prop} [DecidableRel r]
    {a : α} {l₁ : List α} (h : ∀ b ∈ l₁, ¬ r a b) (l₂ : List α) :
    (l₁ ++ l₂).orderedInsert r a = l₁ ++ l₂.orderedInsert r a := by
  induction l₁ with
  | nil => rfl
  | cons b l₁ ih =>
    rw [List.cons_append, List.orderedInsert_of_not_le _ _ (h b List.mem_cons_self),
      ih fun c hc => h c (List.mem_cons_of_mem _ hc), List.cons_append]

/-- Ordering findings by line is transitive. -/
theorem line_le_trans (a b c : Diagnostic) (hab : decide (a.line ≤ b.line) = true)
    (hbc : decide (b.line ≤ c.line) = true) : decide (a.line ≤ c.line) = true := by
  simp only [decide_eq_true_eq] at *
  omega

/-- Any two findings are ordered by line one way or the other. -/
theorem line_le_total (a b : Diagnostic) :
    (decide (a.line ≤ b.line) || decide (b.line ≤ a.line)) = true := by
  simp only [Bool.or_eq_true, decide_eq_true_eq]
  omega

/-- Sorting no finding gives none. -/
@[simp] theorem sortByLine_nil : sortByLine [] = [] := List.mergeSort_nil

/-- Sorted findings go by line. -/
theorem pairwise_sortByLine (ds : List Diagnostic) :
    (sortByLine ds).Pairwise (Thinned.KeyLE Diagnostic.line) := by
  have h := List.pairwise_mergeSort line_le_trans line_le_total ds
  simp only [decide_eq_true_eq] at h
  exact h

/-- **Sorting by line inserts the first finding into the sorted rest**, after every finding
of an earlier line and before the first of a later or the same line. -/
theorem sortByLine_cons (d : Diagnostic) (ds : List Diagnostic) :
    sortByLine (d :: ds) = (sortByLine ds).orderedInsert (Thinned.KeyLE Diagnostic.line) d := by
  obtain ⟨l₁, l₂, h₁, h₂, h₃⟩ := List.mergeSort_cons line_le_trans line_le_total d ds
  have hs := List.pairwise_mergeSort line_le_trans line_le_total (d :: ds)
  unfold sortByLine
  rw [h₁] at hs ⊢
  rw [h₂, orderedInsert_append_of_forall_not
    (fun b hb => by simpa [Thinned.KeyLE] using h₃ b hb)]
  -- `d` stands before every finding of `l₂`
  have hafter : ∀ z ∈ l₂, d.line ≤ z.line := by
    intro z hz
    have := (List.pairwise_cons.1 (List.pairwise_append.1 hs).2.1).1 z hz
    simpa using this
  rw [Thinned.orderedInsert_of_forall_le Diagnostic.line hafter]

/-- A thinning that keeps the line of every finding it keeps survives sorting by line. -/
theorem Thinned.sortByLine {dropped : Diagnostic → Prop} {R : Diagnostic → Diagnostic → Prop}
    (hline : ∀ {x y}, R x y → x.line = y.line) {xs ys : List Diagnostic}
    (h : Thinned dropped R xs ys) :
    Thinned dropped R (PineCheck.sortByLine xs) (PineCheck.sortByLine ys) := by
  induction h with
  | nil => rw [sortByLine_nil]; exact nil
  | keep hxy _ ih =>
    rw [sortByLine_cons, sortByLine_cons]
    exact orderedInsert_keep Diagnostic.line hline hxy ih (pairwise_sortByLine _)
  | skip hx _ ih =>
    rw [sortByLine_cons]
    exact orderedInsert_skip Diagnostic.line hx ih

/-! ## Findings that read no setting -/

/-- The codes of the findings that no setting bears on and that a coupling keeps as they are:
the preconditions, the bracket check, the tracker's nested loops and dangling lines. -/
def Code.settingFree : Code → Bool
  | .newline | .noFinalNewline | .delimiter | .nestedLoop | .eolContinuation => true
  | _ => false

/-- The preconditions read no setting. -/
theorem settingFree_of_mem_preconditionFindings {content : List Char} {d : Diagnostic}
    (h : d ∈ preconditionFindings content) : d.code.settingFree = true := by
  unfold preconditionFindings at h
  simp only [List.mem_append] at h
  rcases h with h | h <;> split at h <;> simp_all [Code.settingFree]

/-- The bracket check reads no setting. -/
theorem settingFree_of_mem_checkBrackets {codes : List (List Char)} {d : Diagnostic}
    (h : d ∈ checkBrackets codes) : d.code.settingFree = true := by
  obtain ⟨f, -, rfl⟩ := List.mem_map.1 h
  cases f <;> rfl

/-- What the tracker reports reads no setting. -/
theorem settingFree_of_mem_advance_found {t : Tracker} {l : Line} {d : Diagnostic}
    (h : d ∈ (t.advance l).2.1) : d.code.settingFree = true := by
  rw [Tracker.code_of_mem_advance_found h]
  rfl

/-! ## Coupled passes -/

/-- A coupling of the lint pass under settings `s₁` with the pass under `s₂`, such that the
findings under `s₂` are those under `s₁` thinned by `dropped` and changed by `R`: how the
two trackers, and the snapshots they give, correspond; that the tracker steps alike on both;
and that each kind of rule thins its findings. -/
structure Coupling (s₁ s₂ : Settings) (dropped : Diagnostic → Prop)
    (R : Diagnostic → Diagnostic → Prop) where
  trackers : Tracker → Tracker → Prop
  scopes : Snapshot → Snapshot → Prop
  start : trackers (Tracker.start s₁.entryGuardWindow) (Tracker.start s₂.entryGuardWindow)
  advance {t₁ t₂ : Tracker} (l : Line) : trackers t₁ t₂ →
    scopes (t₁.advance l).1 (t₂.advance l).1 ∧ (t₁.advance l).2.1 = (t₂.advance l).2.1 ∧
      trackers (t₁.advance l).2.2 (t₂.advance l).2.2
  continuation {sc₁ sc₂ : Snapshot} :
    scopes sc₁ sc₂ → sc₁.continuation = sc₂.continuation
  dangling {t₁ t₂ : Tracker} : trackers t₁ t₂ → t₁.danglingLine = t₂.danglingLine
  text (l : Line) (first : Bool) :
    Thinned dropped R (textFindings s₁ l first) (textFindings s₂ l first)
  line (l : Line) {sc₁ sc₂ : Snapshot} : scopes sc₁ sc₂ →
    Thinned dropped R (lineFindings s₁ l sc₁) (lineFindings s₂ l sc₂)
  statement (ls : List Line) {sc₁ sc₂ : Snapshot} : scopes sc₁ sc₂ →
    Thinned dropped R (statementFindings s₁ ⟨ls, sc₁⟩)
      (statementFindings s₂ ⟨ls, sc₂⟩)
  file (t : Tally) : Thinned dropped R (fileFindings s₁ t) (fileFindings s₂ t)
  fixed (d : Diagnostic) : d.code.settingFree = true → R d d
  sameLine {d d' : Diagnostic} : R d d' → d.line = d'.line

namespace Coupling

variable {s₁ s₂ : Settings} {dropped : Diagnostic → Prop}
  {R : Diagnostic → Diagnostic → Prop}
  (c : Coupling s₁ s₂ dropped R)
include c

/-- Findings that read no setting are kept as they are. -/
theorem thinned_of_settingFree {ds : List Diagnostic}
    (h : ∀ d ∈ ds, d.code.settingFree = true) : Thinned dropped R ds ds :=
  Thinned.of_forall fun d hd => c.fixed d (h d hd)

/-- The statement rules on a statement whose scope corresponds on both sides thin its findings. -/
theorem thinned_flushStatement (ls : List Line) {sc₁ sc₂ : Option Snapshot}
    (h : Option.Rel c.scopes sc₁ sc₂) :
    Thinned dropped R (flushStatement s₁ ls sc₁) (flushStatement s₂ ls sc₂) := by
  cases h with
  | none => cases ls <;> exact Thinned.nil
  | some hsc =>
    cases ls with
    | nil => exact Thinned.nil
    | cons l ls => exact c.statement (l :: ls) hsc

/-- Two states of the passes that correspond under a coupling: trackers that correspond, the
same tally and statement under way, corresponding scopes of that statement, and findings so
far of which the second is a thinning of the first. -/
structure Passes (p₁ p₂ : Pass) : Prop where
  tracker : c.trackers p₁.tracker p₂.tracker
  tally : p₁.tally = p₂.tally
  statement : p₁.statement = p₂.statement
  scope : Option.Rel c.scopes p₁.scope p₂.scope
  found : Thinned dropped R p₁.found p₂.found

/-- **One line read by both passes keeps them coupled.** -/
theorem Passes.step {p₁ p₂ : Pass} (h : c.Passes p₁ p₂) (l : Line) :
    c.Passes (p₁.step s₁ l) (p₂.step s₂ l) := by
  cases hcode : l.isCode
  · rw [Pass.step_of_not_code s₁ p₁ l hcode, Pass.step_of_not_code s₂ p₂ l hcode, h.tally]
    exact ⟨h.tracker, rfl, h.statement, h.scope, h.found.append (c.text l _)⟩
  · obtain ⟨hsc, hfound, htracker⟩ := c.advance l h.tracker
    rw [Pass.step_of_code s₁ p₁ l hcode, Pass.step_of_code s₂ p₂ l hcode]
    dsimp only
    rw [h.tally, c.continuation hsc, h.statement, hfound]
    -- whether the line joins the statement under way is the same on both sides
    cases hjoin : ((p₂.tracker.advance l).1.continuation && !p₂.statement.isEmpty)
    · refine ⟨htracker, rfl, rfl, .some hsc, ?_⟩
      simp only [Bool.false_eq_true, if_false]
      exact (((h.found.append (c.text l _)).append
        (c.thinned_of_settingFree fun _ => settingFree_of_mem_advance_found)).append
        (c.thinned_flushStatement _ h.scope)).append (c.line l hsc)
    · refine ⟨htracker, rfl, rfl, h.scope, ?_⟩
      simp only [if_true]
      exact (((h.found.append (c.text l _)).append
        (c.thinned_of_settingFree fun _ => settingFree_of_mem_advance_found)).append
        Thinned.nil).append (c.line l hsc)

/-- Finishing two corresponding passes gives thinned findings: the statement still open, and the
dangling line, reported alike. -/
theorem Passes.finish {p₁ p₂ : Pass} (h : c.Passes p₁ p₂) :
    Thinned dropped R (p₁.finish s₁) (p₂.finish s₂) := by
  unfold Pass.finish
  rw [c.dangling h.tracker, h.statement]
  refine (h.found.append (c.thinned_flushStatement _ h.scope)).append
    (c.thinned_of_settingFree fun d hd => ?_)
  split at hd
  · rw [List.mem_singleton.1 hd]
    rfl
  · simp at hd

/-- **The two passes stay coupled over any lines.** -/
theorem passes_runPass (ls : List Line) : c.Passes (runPass s₁ ls) (runPass s₂ ls) := by
  unfold runPass
  suffices hrun : ∀ p₁ p₂, c.Passes p₁ p₂ →
      c.Passes (ls.foldl (Pass.step s₁) p₁) (ls.foldl (Pass.step s₂) p₂) from
    hrun _ _ ⟨c.start, rfl, rfl, .none, Thinned.nil⟩
  induction ls with
  | nil => exact fun _ _ h => h
  | cons l ls ih => exact fun p₁ p₂ h => ih _ _ (h.step c l)

/-- **The report under `s₂` is the report under `s₁`, thinned.** -/
theorem thinned_lintContent (content : List Char) :
    Thinned dropped R (lintContent s₁ content) (lintContent s₂ content) := by
  have hrun := c.passes_runPass (classifyLines content)
  unfold lintContent
  dsimp only
  rw [hrun.tally]
  refine (Thinned.sortByLine c.sameLine ?_).append (c.file _)
  exact ((c.thinned_of_settingFree fun _ => settingFree_of_mem_preconditionFindings).append
    (c.thinned_of_settingFree fun _ => settingFree_of_mem_checkBrackets)).append (hrun.finish c)

end Coupling

/-! ## The checks around the report -/

/-- Linting fails before the report when the window or the version cannot be used, and after
it when a finding would write out a setting too long to write; otherwise it gives the report. -/
theorem lintText_eq (s : Settings) (content : List Char) :
    lintText s content =
      if s.entryGuardWindow ≥ Nat.pow 2 63 then .error Uncaught.sizeOverflow
      else if tooLongToWrite s.version then .error Uncaught.digitLimit
      else if (lintContent s content).any (fun d => (writtenSetting s d.code).any tooLongToWrite)
      then .error Uncaught.digitLimit
      else .ok (lintContent s content) := by
  unfold lintText
  dsimp only
  split_ifs <;> rfl

end PineCheck
