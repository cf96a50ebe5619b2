import PineCheck.Proofs.Coupling
import PineCheck.Proofs.Tracker
/-!
# Raising a ceiling

Three settings are ceilings: the most input calls (`maxInputs`), the most external-data calls
(`maxRequestSecurity`) and the longest line that may hold a call (`maxLineLength`). A fourth
widens a search: an order entry counts as guarded when a guard stands in its statement or in
the `entryGuardWindow` code lines before it. Raising any of them only takes findings away:
the report under the raised settings is the old report with some ceiling and unguarded-entry
findings left out, and with the limit that the other ceiling findings quote written anew
(`Requoted`).

The window changes nothing but the recent lines the tracker keeps, and a wider window keeps
a longer suffix of the same lines (`Tracker.Widens`, which each step keeps). The guard is
searched for in the recent lines and the statement joined by line feeds; it reads a line
feed before a position as the start of the text (`entryGuard_after_newline`), so every guard
found in the shorter text is found in the longer one (`occurs_intercalate_of_suffix`).

The raised report exists when the old one does, provided the window stays below the size a
deque can have and each raised ceiling can still be written out: a window of `2 ^ 63` lines
fails the whole run (`wide_window_fails_lint`).

Main statement: `raised_ceilings_thin_report`.
-/

namespace PineCheck

open Script Text

/-! ## A guard before a line feed -/

/-- Where a probe accepts does not change whether it accepts somewhere. -/
theorem isSome_searchFrom_index (p : Probe) (prev : Option Char) (cs : List Char) (i j : Nat) :
    (searchFrom p prev cs i).isSome = (searchFrom p prev cs j).isSome := by
  induction cs generalizing prev i j with
  | nil =>
    rw [searchFrom, searchFrom]
    cases p prev [] <;> rfl
  | cons c cs ih =>
    rw [searchFrom, searchFrom]
    cases p prev (c :: cs) with
    | some n => rfl
    | none => exact ih _ _ _

/-- A probe that accepts in a text after a character `c` accepts in every text that ends
with `c` and that text. -/
theorem isSome_searchFrom_append (p : Probe) (prev : Option Char) (pre : List Char) (c : Char)
    {cs : List Char} (i j : Nat) (h : (searchFrom p (some c) cs j).isSome) :
    (searchFrom p prev (pre ++ c :: cs) i).isSome := by
  induction pre generalizing prev i with
  | nil =>
    rw [List.nil_append, searchFrom]
    cases p prev (c :: cs) with
    | some n => rfl
    | none => rw [isSome_searchFrom_index p (some c) cs (i + 1) j]; exact h
  | cons a pre ih =>
    rw [List.cons_append, searchFrom]
    cases p prev (a :: (pre ++ c :: cs)) with
    | some n => rfl
    | none => exact ih _ _

/-- A probe that reads a line feed before a position as the start of the text keeps every
match when lines are put before the text. -/
theorem occurs_append_newline {p : Probe} (hp : ∀ cs, p (some '\n') cs = p none cs)
    (pre : List Char) {cs : List Char} (h : occurs p cs) : occurs p (pre ++ '\n' :: cs) := by
  have hfirst : searchFrom p (some '\n') cs 0 = searchFrom p none cs 0 := by
    rw [searchFrom.eq_def, searchFrom.eq_def, hp]
  unfold occurs search at h ⊢
  exact isSome_searchFrom_append p none pre '\n' 0 0 (hfirst ▸ h)

/-- Joining more lines before a text keeps every match of such a probe. -/
theorem occurs_intercalate_of_suffix {p : Probe} (hp : ∀ cs, p (some '\n') cs = p none cs)
    {r₁ r₂ : List (List Char)} (h : r₁ <:+ r₂) (x : List Char)
    (ho : occurs p (List.intercalate ['\n'] (r₁ ++ [x]))) :
    occurs p (List.intercalate ['\n'] (r₂ ++ [x])) := by
  obtain ⟨pre, rfl⟩ := h
  induction pre with
  | nil => exact ho
  | cons a pre ih =>
    rw [List.cons_append, List.cons_append, List.intercalate_cons_of_ne_nil (by simp),
      List.append_assoc]
    exact occurs_append_newline hp a ih

/-- The guard of an order entry reads a line feed before it as the start of the text. -/
theorem entryGuard_after_newline (cs : List Char) :
    entryGuard (some '\n') cs = entryGuard none cs :=
  rfl

/-! ## A wider window -/

/-- The last items of a list, kept by a window, end with those of a shorter list that it ends
with, kept by a narrower window. -/
theorem lastItems_suffix_lastItems {α : Type} {m n : Nat} {xs ys : List α} (hmn : m ≤ n)
    (h : xs <:+ ys) : lastItems m xs <:+ lastItems n ys := by
  have hx : lastItems m xs <:+ xs := List.drop_suffix _ _
  have hy : lastItems n ys <:+ ys := List.drop_suffix _ _
  refine List.suffix_of_suffix_length_le (hx.trans h) hy ?_
  have hlen := h.length_le
  simp only [lastItems, List.length_drop]
  omega

/-- A snapshot without its recent lines. -/
def Snapshot.dropRecent (sc : Snapshot) : Snapshot := { sc with recent := [] }

/-- A tracker without its recent lines and its window. -/
def Tracker.dropRecent (t : Tracker) : Tracker := { t with recent := [], window := 0 }

/-- `sc₂` is `sc₁` seen through a wider window: more recent lines before the same ones. -/
structure Snapshot.Widens (sc₁ sc₂ : Snapshot) : Prop where
  rest : sc₁.dropRecent = sc₂.dropRecent
  recent : sc₁.recent <:+ sc₂.recent

/-- `t₂` is `t₁` with a wider window, which has kept more recent lines before the same ones. -/
structure Tracker.Widens (t₁ t₂ : Tracker) : Prop where
  rest : t₁.dropRecent = t₂.dropRecent
  recent : t₁.recent <:+ t₂.recent
  window : t₁.window ≤ t₂.window

namespace Tracker

/-- Whether a line continues the statement reads no recent line. -/
@[simp] theorem continues_dropRecent (t : Tracker) (l : Line) :
    t.dropRecent.continues l = t.continues l := rfl

/-- A step reads no recent line and no window. -/
theorem advance_dropRecent (t : Tracker) (l : Line) :
    (t.dropRecent.advance l).1.dropRecent = (t.advance l).1.dropRecent ∧
      (t.dropRecent.advance l).2.1 = (t.advance l).2.1 ∧
      (t.dropRecent.advance l).2.2.dropRecent = (t.advance l).2.2.dropRecent := by
  unfold advance
  rw [continues_dropRecent]
  cases t.continues l <;> exact ⟨rfl, rfl, rfl⟩

/-- The tracker that starts with a wider window is wider. -/
theorem widens_start {m n : Nat} (h : m ≤ n) : (start m).Widens (start n) :=
  ⟨rfl, List.suffix_refl _, h⟩

/-- **A step keeps a wider window wider**: the two trackers show the same scope but for the
recent lines, report the same findings, and stay apart only in their recent lines. -/
theorem Widens.advance {t₁ t₂ : Tracker} (h : t₁.Widens t₂) (l : Line) :
    (t₁.advance l).1.Widens (t₂.advance l).1 ∧ (t₁.advance l).2.1 = (t₂.advance l).2.1 ∧
      (t₁.advance l).2.2.Widens (t₂.advance l).2.2 := by
  obtain ⟨hs₁, hf₁, ht₁⟩ := advance_dropRecent t₁ l
  obtain ⟨hs₂, hf₂, ht₂⟩ := advance_dropRecent t₂ l
  rw [h.rest] at hs₁ hf₁ ht₁
  have hline : t₁.recent ++ [l.stripped] <:+ t₂.recent ++ [l.stripped] := by
    obtain ⟨pre, hpre⟩ := h.recent
    exact ⟨pre, by rw [← List.append_assoc, hpre]⟩
  refine ⟨⟨hs₁.symm.trans hs₂, ?_⟩, hf₁.symm.trans hf₂,
    ⟨ht₁.symm.trans ht₂, ?_, ?_⟩⟩
  · simpa using h.recent
  · rw [advance_recent, advance_recent]
    exact lastItems_suffix_lastItems h.window hline
  · simpa using h.window

/-- A wider window keeps the same dangling line. -/
theorem Widens.danglingLine_eq {t₁ t₂ : Tracker} (h : t₁.Widens t₂) :
    t₁.danglingLine = t₂.danglingLine :=
  -- the last code line survives `dropRecent`
  (congrArg danglingLine h.rest :)

end Tracker

/-- A wider window shows the same continuation. -/
theorem Snapshot.Widens.continuation_eq {sc₁ sc₂ : Snapshot} (h : sc₁.Widens sc₂) :
    sc₁.continuation = sc₂.continuation :=
  (congrArg Snapshot.continuation h.rest :)

/-- The line rules read no recent line. -/
theorem lineFindings_widens {sc₁ sc₂ : Snapshot} (h : sc₁.Widens sc₂) (s : Settings)
    (l : Line) :
    lineFindings s l sc₂ = lineFindings s l sc₁ :=
  calc lineFindings s l sc₂
    _ = lineFindings s l sc₂.dropRecent := rfl
    _ = lineFindings s l sc₁.dropRecent := by rw [h.rest]
    _ = lineFindings s l sc₁ := rfl

/-- **A wider window silences the entry gate on a statement or changes nothing**: a guard
seen among fewer recent lines is seen among more. -/
theorem entryGatingRule_widens {ls : List Line} {sc₁ sc₂ : Snapshot}
    (h : sc₁.recent <:+ sc₂.recent) :
    entryGatingRule ⟨ls, sc₂⟩ = [] ∨
      entryGatingRule ⟨ls, sc₂⟩ = entryGatingRule ⟨ls, sc₁⟩ := by
  -- the statement's text and positions do not read its scope
  have htext : Statement.text ⟨ls, sc₂⟩ = Statement.text ⟨ls, sc₁⟩ := rfl
  have hat : Statement.findingAt ⟨ls, sc₂⟩ = Statement.findingAt ⟨ls, sc₁⟩ := rfl
  unfold entryGatingRule
  dsimp only
  rw [htext, hat]
  by_cases hguard₂ :
      occurs entryGuard (List.intercalate ['\n'] (sc₂.recent ++ [Statement.text ⟨ls, sc₁⟩]))
  · left
    simp only [hguard₂, if_true, ite_self]
  · have hguard₁ :
        ¬ occurs entryGuard
          (List.intercalate ['\n'] (sc₁.recent ++ [Statement.text ⟨ls, sc₁⟩])) :=
      fun h₁ => hguard₂ (occurs_intercalate_of_suffix entryGuard_after_newline h _ h₁)
    right
    simp only [hguard₂, hguard₁]

/-! ## Raised settings and requoted findings -/

/-- `s'` agrees with `s` but for the three ceilings and the entry guard window, which are
each at least as large. -/
structure Settings.Raises (s s' : Settings) : Prop where
  version : s'.version = s.version
  disallowLookahead : s'.disallowLookahead = s.disallowLookahead
  requireLimitOrders : s'.requireLimitOrders = s.requireLimitOrders
  oneInputPerLine : s'.oneInputPerLine = s.oneInputPerLine
  disallowTabs : s'.disallowTabs = s.disallowTabs
  strictIndent : s'.strictIndent = s.strictIndent
  disallowEveryTick : s'.disallowEveryTick = s.disallowEveryTick
  indentUnit : s'.indentUnit = s.indentUnit
  maxInputs : s.maxInputs ≤ s'.maxInputs
  maxRequestSecurity : s.maxRequestSecurity ≤ s'.maxRequestSecurity
  maxLineLength : s.maxLineLength ≤ s'.maxLineLength
  entryGuardWindow : s.entryGuardWindow ≤ s'.entryGuardWindow

/-- The settings with the three ceilings and the entry guard window replaced. -/
def Settings.withCeilings (s : Settings) (inputs security length window : Nat)
    (hlength : 0 < length) : Settings :=
  { s with maxInputs := inputs, maxRequestSecurity := security, maxLineLength := length,
           maxLineLength_pos := hlength, entryGuardWindow := window }

/-- The finding of a line longer than the limit of `s`. -/
def lineLengthFinding (s : Settings) (line : Nat) : Diagnostic :=
  Diagnostic.make .lineLength s!"Line exceeds {s.maxLineLength} characters; consider line breaks."
    line (s.maxLineLength + 1)

/-- The finding of `count` input calls, more than `s` allows. -/
def inputBloatFinding (s : Settings) (count : Nat) : Diagnostic :=
  Diagnostic.make .inputBloat s!"Too many input.* calls ({count}) > maxInputs ({s.maxInputs})." 1 1

/-- The finding of `count` external-data calls, more than `s` allows. -/
def securityBloatFinding (s : Settings) (count : Nat) : Diagnostic :=
  Diagnostic.make .securityBloat
    s!"Too many request.security calls ({count}) > limit ({s.maxRequestSecurity})." 1 1

/-- The line-length rule reports a code line longer than the ceiling that holds a call. -/
theorem lineLengthRule_eq (s : Settings) (l : Line) :
    lineLengthRule s l =
      if (dropBlankEnd l.code).length ≤ s.maxLineLength || !occurs callLike (dropBlankEnd l.code)
      then [] else [lineLengthFinding s l.number] := rfl

/-- The input ceiling rule reports more inputs than the ceiling. -/
theorem inputCeilingRule_eq (s : Settings) (t : Tally) :
    inputCeilingRule s t =
      if t.inputCount ≤ s.maxInputs then [] else [inputBloatFinding s t.inputCount] := rfl

/-- The external-data ceiling rule reports more calls than the ceiling. -/
theorem securityCeilingRule_eq (s : Settings) (t : Tally) :
    securityCeilingRule s t =
      if t.securityCount ≤ s.maxRequestSecurity then []
      else [securityBloatFinding s t.securityCount] := rfl

/-- The codes of the findings that quote a ceiling. -/
def Code.quotesCeiling : Code → Bool
  | .lineLength | .inputBloat | .securityBloat => true
  | _ => false

/-- The codes of the findings that a raised ceiling or a wider window may take away. -/
def Code.underCeiling : Code → Bool
  | .lineLength | .inputBloat | .securityBloat | .spamEntry => true
  | _ => false

/-- `d'` is `d` under raised settings: a finding that quotes no ceiling stays as it is, and
one that quotes a ceiling of `s` quotes that of `s'` instead. -/
inductive Requoted (s s' : Settings) : Diagnostic → Diagnostic → Prop
  | same {d : Diagnostic} : d.code.quotesCeiling = false → Requoted s s' d d
  | lineLength (line : Nat) : Requoted s s' (lineLengthFinding s line) (lineLengthFinding s' line)
  | inputBloat (count : Nat) :
      Requoted s s' (inputBloatFinding s count) (inputBloatFinding s' count)
  | securityBloat (count : Nat) :
      Requoted s s' (securityBloatFinding s count) (securityBloatFinding s' count)

/-- A requoted finding is on the same line. -/
theorem Requoted.line_eq {s s' : Settings} {d d' : Diagnostic} (h : Requoted s s' d d') :
    d.line = d'.line := by
  cases h <;> rfl

/-- A finding that writes out no setting quotes no ceiling. -/
theorem Code.quotesCeiling_of_settingFree {c : Code} (h : c.settingFree = true) :
    c.quotesCeiling = false := by
  cases c <;> simp [Code.settingFree] at h <;> rfl

/-- The statement rules quote no ceiling. -/
theorem Code.quotesCeiling_of_fromStatementRule {c : Code} (h : c.fromStatementRule = true) :
    c.quotesCeiling = false := by
  cases c <;> simp [Code.fromStatementRule] at h <;> rfl

/-- The text rules quote no ceiling. -/
theorem quotesCeiling_of_mem_textFindings {s : Settings} {l : Line} {b : Bool} {d : Diagnostic}
    (h : d ∈ textFindings s l b) : d.code.quotesCeiling = false := by
  rcases code_of_mem_textFindings h with hc | hc | hc <;> rw [hc] <;> rfl

namespace Settings.Raises

variable {s s' : Settings}

/-- Raised settings are the old ones with other ceilings and another window, so every rule
that reads none of these reads them as it reads the old ones. -/
theorem eq_withCeilings (h : s.Raises s') :
    s' = s.withCeilings s'.maxInputs s'.maxRequestSecurity s'.maxLineLength s'.entryGuardWindow
      s'.maxLineLength_pos := by
  cases s
  cases s'
  cases h
  simp_all [withCeilings]

/-- A finding that quotes no ceiling writes out the same setting under raised settings. -/
theorem writtenSetting_eq (h : s.Raises s') {c : Code} (hc : c.quotesCeiling = false) :
    writtenSetting s' c = writtenSetting s c := by
  cases c <;> simp [writtenSetting, Code.quotesCeiling, h.indentUnit] at hc ⊢

variable (h : s.Raises s')
include h

/-- The text rules report the same under raised settings. -/
theorem thinned_textFindings (l : Line) (first : Bool) :
    Thinned (fun d => d.code.underCeiling = true) (Requoted s s') (textFindings s l first)
      (textFindings s' l first) := by
  have heq : textFindings s' l first = textFindings s l first := by
    rw [h.eq_withCeilings]; rfl
  rw [heq]
  exact Thinned.of_forall fun d hd => .same (quotesCeiling_of_mem_textFindings hd)

/-- Raising the line-length ceiling takes the finding away or quotes the new ceiling. -/
theorem thinned_lineLengthRule (l : Line) :
    Thinned (fun d => d.code.underCeiling = true) (Requoted s s') (lineLengthRule s l)
      (lineLengthRule s' l) := by
  rw [lineLengthRule_eq, lineLengthRule_eq]
  refine Thinned.ite_singleton ?_ rfl (.lineLength l.number)
  simp only [Bool.or_eq_true, decide_eq_true_eq]
  rintro (hshort | hnocall)
  · exact Or.inl (hshort.trans h.maxLineLength)
  · exact Or.inr hnocall

/-- The line rules but the last, on the length of a line, read no ceiling and report none. -/
theorem lineFindings_split (l : Line) (sc : Snapshot) :
    ∃ rest, lineFindings s l sc = rest ++ lineLengthRule s l ∧
      lineFindings s' l sc = rest ++ lineLengthRule s' l ∧
      ∀ d ∈ rest, d.code.quotesCeiling = false := by
  refine ⟨_, rfl, by rw [h.eq_withCeilings]; rfl, ?_⟩
  intro d hd
  simp only [List.mem_append, or_assoc] at hd
  rcases hd with hd | hd | hd | hd | hd | hd | hd | hd | hd | hd
  · rw [code_of_mem_eolContinuationRule hd]; rfl
  · rcases code_of_mem_indentRule hd with hc | hc <;> rw [hc] <;> rfl
  · rw [code_of_mem_blockIndentRule hd]; rfl
  · rw [code_of_mem_reservedIdentifierRule hd]; rfl
  · rw [code_of_mem_globalMutationRule hd]; rfl
  · rw [code_of_mem_plotScopeRule hd]; rfl
  · rcases code_of_mem_everyTickRule hd with hc | hc <;> rw [hc] <;> rfl
  · rw [code_of_mem_realtimeRule hd]; rfl
  · rw [code_of_mem_inputStyleRule hd]; rfl
  · rw [code_of_mem_multiStatementRule hd]; rfl

/-- The line rules under raised settings and a wider window report the old findings, some taken away
and some requoted. -/
theorem thinned_lineFindings (l : Line) {sc₁ sc₂ : Snapshot} (hsc : sc₁.Widens sc₂) :
    Thinned (fun d => d.code.underCeiling = true) (Requoted s s') (lineFindings s l sc₁)
      (lineFindings s' l sc₂) := by
  obtain ⟨rest, h₁, h₂, hrest⟩ := h.lineFindings_split l sc₁
  rw [lineFindings_widens hsc, h₁, h₂]
  exact (Thinned.of_forall fun d hd => .same (hrest d hd)).append (h.thinned_lineLengthRule l)

/-- The statement rules under raised settings and a wider window report the old findings with some
order-entry warnings taken away. -/
theorem thinned_statementFindings (ls : List Line) {sc₁ sc₂ : Snapshot}
    (hsc : sc₁.Widens sc₂) :
    Thinned (fun d => d.code.underCeiling = true) (Requoted s s')
      (statementFindings s ⟨ls, sc₁⟩) (statementFindings s' ⟨ls, sc₂⟩) := by
  -- the lookahead and limit rules read neither the scope nor a ceiling
  have heq : statementFindings s' ⟨ls, sc₂⟩ =
      lookaheadRule s ⟨ls, sc₁⟩ ++ limitOrderRule s ⟨ls, sc₁⟩ ++
        entryGatingRule ⟨ls, sc₂⟩ := by
    rw [h.eq_withCeilings]; rfl
  have hsame : ∀ d ∈ lookaheadRule s ⟨ls, sc₁⟩ ++ limitOrderRule s ⟨ls, sc₁⟩,
      Requoted s s' d d := fun d hd =>
    .same (Code.quotesCeiling_of_fromStatementRule
      (fromStatementRule_of_mem_statementFindings (List.mem_append_left _ hd)))
  have hgate : ∀ d ∈ entryGatingRule ⟨ls, sc₁⟩, d.code = .spamEntry := fun d hd =>
    code_of_mem_entryGatingRule hd
  rw [heq]
  refine (Thinned.of_forall hsame).append
    (Thinned.of_nil_or_eq ?_ ?_ (entryGatingRule_widens hsc.recent))
  · intro d hd; rw [hgate d hd]; rfl
  · intro d hd; exact .same (by rw [hgate d hd]; rfl)

/-- The whole-file rules under raised settings report the old findings, some ceiling findings taken
away and the rest requoted. -/
theorem thinned_fileFindings (t : Tally) :
    Thinned (fun d => d.code.underCeiling = true) (Requoted s s') (fileFindings s t)
      (fileFindings s' t) := by
  have heq : fileFindings s' t = versionPresentRule s t ++ declarationCountRule t ++
      declarationOrderRule t ++ inputCeilingRule s' t ++ securityCeilingRule s' t ++
      cancelPresenceRule t := by
    rw [h.eq_withCeilings]; rfl
  have hhead : ∀ d ∈ versionPresentRule s t ++ declarationCountRule t ++ declarationOrderRule t,
      Requoted s s' d d := by
    intro d hd
    refine .same ?_
    simp only [List.mem_append] at hd
    rcases hd with (hd | hd) | hd
    · rw [code_of_mem_versionPresentRule hd]; rfl
    · rcases code_of_mem_declarationCountRule hd with hc | hc <;> rw [hc] <;> rfl
    · rw [code_of_mem_declarationOrderRule hd]; rfl
  have hcancel : ∀ d ∈ cancelPresenceRule t, Requoted s s' d d := fun d hd =>
    .same (by rw [code_of_mem_cancelPresenceRule hd]; rfl)
  have hinputs : Thinned (fun d => d.code.underCeiling = true) (Requoted s s')
      (inputCeilingRule s t) (inputCeilingRule s' t) := by
    rw [inputCeilingRule_eq, inputCeilingRule_eq]
    exact Thinned.ite_singleton (fun hle => hle.trans h.maxInputs) rfl (.inputBloat _)
  have hsecurity : Thinned (fun d => d.code.underCeiling = true) (Requoted s s')
      (securityCeilingRule s t) (securityCeilingRule s' t) := by
    rw [securityCeilingRule_eq, securityCeilingRule_eq]
    exact Thinned.ite_singleton (fun hle => hle.trans h.maxRequestSecurity) rfl (.securityBloat _)
  rw [heq]
  exact (((Thinned.of_forall hhead).append hinputs).append hsecurity).append
    (Thinned.of_forall hcancel)

end Settings.Raises

/-- Raised ceilings and a wider window couple the two passes: their trackers differ only in
the recent lines, which the wider window keeps more of. -/
def ceilingsCoupling {s s' : Settings} (h : s.Raises s') :
    Coupling s s' (fun d => d.code.underCeiling = true) (Requoted s s') where
  trackers := Tracker.Widens
  scopes := Snapshot.Widens
  start := Tracker.widens_start h.entryGuardWindow
  advance l ht := ht.advance l
  continuation hsc := hsc.continuation_eq
  dangling ht := ht.danglingLine_eq
  text l first := h.thinned_textFindings l first
  line l _ _ hsc := h.thinned_lineFindings l hsc
  statement ls _ _ hsc := h.thinned_statementFindings ls hsc
  file t := h.thinned_fileFindings t
  fixed _ hd := .same (Code.quotesCeiling_of_settingFree hd)
  sameLine hR := hR.line_eq

/-! ## The report under raised settings -/

/-- Under the default settings every text has a report: the window is small, and every
setting a message quotes is short. -/
theorem lintText_default (content : List Char) :
    lintText Settings.default content = .ok (lintContent Settings.default content) := by
  have hshort : ∀ c : Code, (writtenSetting Settings.default c).any tooLongToWrite = false := by
    intro c
    cases c <;> decide
  rw [lintText_eq, if_neg (by decide), if_neg (by decide), if_neg (by simp [hshort])]

/-- **Raising a ceiling or widening the entry guard window only takes findings away.** Take
settings `s'` that raise the three ceilings and the window of `s`, with a window below
`2 ^ 63` and ceilings that can be written out. Whenever `s` gives a report on a text, `s'`
gives one too: the report under `s` with some ceiling and unguarded-entry findings left out,
and every other finding kept in its place, as it is or, when it quotes a ceiling, quoting the
raised one. -/
theorem raised_ceilings_thin_report {s s' : Settings} (h : s.Raises s') (content : List Char)
    (hwindow : s'.entryGuardWindow < Nat.pow 2 63)
    (hinputs : tooLongToWrite s'.maxInputs = false)
    (hsecurity : tooLongToWrite s'.maxRequestSecurity = false)
    (hlength : tooLongToWrite s'.maxLineLength = false) {ds : List Diagnostic}
    (hds : lintText s content = .ok ds) :
    ∃ ds', lintText s' content = .ok ds' ∧
      Thinned (fun d => d.code.underCeiling = true) (Requoted s s') ds ds' := by
  have hthin := (ceilingsCoupling h).thinned_lintContent content
  rw [lintText_eq] at hds
  split_ifs at hds with hwide hversion hlong
  cases hds
  refine ⟨lintContent s' content, ?_, hthin⟩
  -- a setting quoted under `s'` is one quoted under `s` or a raised ceiling
  have hlong' : ¬ (lintContent s' content).any
      (fun d => (writtenSetting s' d.code).any tooLongToWrite) = true := by
    simp only [Bool.not_eq_true, List.any_eq_false] at hlong ⊢
    intro d' hd'
    obtain ⟨d, hd, hR⟩ := hthin.exists_of_mem d' hd'
    cases hR with
    | same hq => rw [h.writtenSetting_eq hq]; exact hlong _ hd
    | lineLength n => simp [lineLengthFinding, writtenSetting, hlength]
    | inputBloat n => simp [inputBloatFinding, writtenSetting, hinputs]
    | securityBloat n => simp [securityBloatFinding, writtenSetting, hsecurity]
  have hwindow' : ¬ s'.entryGuardWindow ≥ Nat.pow 2 63 := Nat.not_le.2 hwindow
  rw [lintText_eq, if_neg hwindow', if_neg (by rw [h.version]; exact hversion), if_neg hlong']

/-- `raised_ceilings_thin_report` from the default settings to raised ceilings and a window of
six lines, on a script with an unguarded order entry. -/
theorem raised_ceilings_thin_report_default :
    Settings.default.Raises (Settings.default.withCeilings 60 30 160 6 (by decide)) ∧
    (Settings.default.withCeilings 60 30 160 6 (by decide)).entryGuardWindow < Nat.pow 2 63 ∧
    tooLongToWrite 60 = false ∧ tooLongToWrite 30 = false ∧ tooLongToWrite 160 = false ∧
    lintText Settings.default "//@version=6\nstrategy(\"s\")\nstrategy.entry(\"L\", 1)\n".toList =
      .ok (lintContent Settings.default
        "//@version=6\nstrategy(\"s\")\nstrategy.entry(\"L\", 1)\n".toList) ∧
    ∃ ds', lintText (Settings.default.withCeilings 60 30 160 6 (by decide))
        "//@version=6\nstrategy(\"s\")\nstrategy.entry(\"L\", 1)\n".toList = .ok ds' ∧
      Thinned (fun d => d.code.underCeiling = true)
        (Requoted Settings.default (Settings.default.withCeilings 60 30 160 6 (by decide)))
        (lintContent Settings.default
          "//@version=6\nstrategy(\"s\")\nstrategy.entry(\"L\", 1)\n".toList) ds' := by
  have hraise : Settings.default.Raises (Settings.default.withCeilings 60 30 160 6 (by decide)) :=
    ⟨rfl, rfl, rfl, rfl, rfl, rfl, rfl, rfl, by decide, by decide, by decide, by decide⟩
  have hwindow : (Settings.default.withCeilings 60 30 160 6 (by decide)).entryGuardWindow <
      Nat.pow 2 63 := by decide
  have hinputs : tooLongToWrite 60 = false := by decide
  have hsecurity : tooLongToWrite 30 = false := by decide
  have hlength : tooLongToWrite 160 = false := by decide
  exact ⟨hraise, hwindow, hinputs, hsecurity, hlength, lintText_default _,
    raised_ceilings_thin_report hraise _ hwindow hinputs hsecurity hlength (lintText_default _)⟩

/-- A window of `2 ^ 63` lines is no wider window: the run fails where the default settings
give a report. -/
theorem wide_window_fails_lint :
    Settings.default.Raises
      (Settings.default.withCeilings 40 20 120 (Nat.pow 2 63) (by decide)) ∧
    lintText Settings.default "//@version=6\nstrategy(\"s\")\n".toList =
      .ok (lintContent Settings.default "//@version=6\nstrategy(\"s\")\n".toList) ∧
    lintText (Settings.default.withCeilings 40 20 120 (Nat.pow 2 63) (by decide))
      "//@version=6\nstrategy(\"s\")\n".toList = .error Uncaught.sizeOverflow := by
  refine ⟨⟨rfl, rfl, rfl, rfl, rfl, rfl, rfl, rfl, le_rfl, le_rfl, le_rfl, by decide⟩,
    lintText_default _, ?_⟩
  rw [lintText_eq, if_pos (by decide)]

end PineCheck
