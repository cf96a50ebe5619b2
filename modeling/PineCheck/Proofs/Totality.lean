import PineCheck.Proofs.CallArguments
import PineCheck.Proofs.Coupling
/-!
# Linting gives a report

`lintText` fails in two ways only, and both come from the size of a setting: the window of
lines kept for the entry guard must fit the size of a queue (below `2 ^ 63`), and a setting
that a finding writes out must have at most 4300 decimal digits. The version is written out
on every text, the indent unit, the line length and the two ceilings only in the findings that
quote them. Settings within those bounds give a report on every text (`lint_returns_report`);
a window of `2 ^ 63` lines gives none (`huge_window_raises_overflow`).

Everything else the rules do is total. Where the rules rely on a guard (a statement is checked
only once it has a line, the second declaration and the first entry are read only when there
are that many, the indent unit is positive by the settings' own constraint), the guard is a
pattern match here. The one lookup that relies on the patterns is where the arguments of a
call start: the rules look for the first `(` from the call's name on (`indexFrom`), and the
patterns for external data and order entries end with the call's `(` and hold no `(` before
it (`OpensFirstAt`), so that search finds the call's own bracket, right where `callSites`
starts the arguments (`indexFrom_callSite`).
-/

namespace PineCheck

open Script Text

/-! ## The first open round bracket -/

/-- Where searching `text` from `offset` on finds `c` first: the index of the first `c` at or
after `offset`, or `none` when there is none. -/
def indexFrom (text : List Char) (c : Char) (offset : Nat) : Option Nat :=
  ((text.drop offset).idxOf? c).map (offset + ·)

/-- The first `n` characters of `cs` end with `(`, and no `(` comes before it. -/
def OpensFirstAt (cs : List Char) (n : Nat) : Prop := 0 < n ∧ cs.idxOf? '(' = some (n - 1)

/-- Searching past a stretch without the character. -/
theorem idxOf?_append_of_not_mem {c : Char} {rest : List Char} :
    ∀ {pre : List Char}, c ∉ pre → (pre ++ rest).idxOf? c = (rest.idxOf? c).map (· + pre.length)
  | [], _ => by simp
  | x :: pre, h => by
    have hx : (x == c) = false := by
      simp only [beq_eq_false_iff_ne]
      rintro rfl
      exact h List.mem_cons_self
    rw [List.cons_append, List.idxOf?_cons, hx, if_neg Bool.false_ne_true,
      idxOf?_append_of_not_mem fun hc => h (List.mem_cons_of_mem x hc), Option.map_map]
    rfl

/-- A `(` after a stretch with none is the first one. -/
theorem opensFirstAt_of_eq_append {cs pre rest : List Char} (hcs : cs = pre ++ '(' :: rest)
    (hpre : '(' ∉ pre) : OpensFirstAt cs (pre.length + 1) := by
  refine ⟨Nat.succ_pos _, ?_⟩
  rw [hcs, Nat.add_sub_cancel, idxOf?_append_of_not_mem hpre]
  simp [List.idxOf?_cons]

/-- A literal before a stretch with no `(` in it moves the bracket along. -/
theorem OpensFirstAt.prepend {rest : List Char} {n : Nat} (h : OpensFirstAt rest n)
    {pre : List Char} (hpre : '(' ∉ pre) : OpensFirstAt (pre ++ rest) (pre.length + n) := by
  obtain ⟨hpos, hidx⟩ := h
  refine ⟨by omega, ?_⟩
  rw [idxOf?_append_of_not_mem hpre, hidx, Option.map_some]
  congr 1
  omega

/-- The blanks and `(` after a name end at the first `(`. -/
theorem opensFirstAt_of_openParenLength {cs : List Char} {n : Nat}
    (h : openParenLength cs = some n) : OpensFirstAt cs n := by
  unfold openParenLength at h
  split at h
  · rename_i rest hdrop
    simp only [Option.some.injEq] at h
    subst h
    -- the blank run holds no bracket, and `dropBlank` stopped at the `(`
    have hsplit : cs = cs.takeWhile isBlank ++ '(' :: rest := by
      unfold dropBlank at hdrop
      rw [← hdrop, List.takeWhile_append_dropWhile]
    have hblank : '(' ∉ cs.takeWhile isBlank := fun hmem => by
      have hall := List.all_eq_true.1 (List.all_takeWhile (l := cs)) '(' hmem
      simp [isBlank] at hall
    exact opensFirstAt_of_eq_append hsplit hblank
  · simp at h

/-- A call of a name with no `(` in it ends at the first `(`. -/
theorem opensFirstAt_of_callOf {name cs : List Char} {n : Nat} (hname : '(' ∉ name)
    (h : callOf name cs = some n) : OpensFirstAt cs n := by
  unfold callOf at h
  split at h
  · rename_i rest hrest
    obtain ⟨m, hm, rfl⟩ := Option.map_eq_some_iff.1 h
    rw [eq_append_of_afterPrefix hrest]
    exact (opensFirstAt_of_openParenLength hm).prepend hname
  · simp at h

/-- A call of one of several names with no `(` in them ends at the first `(`. -/
theorem opensFirstAt_of_callOfAny {cs : List Char} {n : Nat} :
    ∀ {names : List (List Char)}, (∀ name ∈ names, '(' ∉ name) → callOfAny names cs = some n →
      OpensFirstAt cs n
  | [], _, h => by simp [callOfAny] at h
  | name :: names, hnames, h => by
    unfold callOfAny at h
    split at h
    · rename_i k hk
      simp only [Option.some.injEq] at h
      subst h
      exact opensFirstAt_of_callOf (hnames name List.mem_cons_self) hk
    · exact opensFirstAt_of_callOfAny (fun m hm => hnames m (List.mem_cons_of_mem _ hm)) h

/-- A call matched where no name character stands before it ends at the first `(` when its matcher
does. -/
theorem opensFirstAt_freeCall {recognise : List Char → Option Nat}
    (h : ∀ cs n, recognise cs = some n → OpensFirstAt cs n) {prev : Option Char} {cs : List Char}
    {n : Nat} (hn : freeCall recognise prev cs = some n) : OpensFirstAt cs n := by
  unfold freeCall at hn
  split_ifs at hn
  exact h cs n hn

/-- A call for external data ends with its `(`, the first in the call. -/
theorem securityCall_opensFirstAt {prev : Option Char} {cs : List Char} {n : Nat}
    (h : securityCall prev cs = some n) : OpensFirstAt cs n := by
  refine opensFirstAt_freeCall (fun cs n h => ?_) h
  split at h
  · rename_i rest hrest
    rw [eq_append_of_afterPrefix hrest]
    dsimp only at h
    split at h
    · -- `request.security_lower_tf(`
      rename_i k hk
      simp only [Option.some.injEq] at h
      subst h
      split at hk
      · rename_i r hr
        obtain ⟨m, hm, rfl⟩ := Option.map_eq_some_iff.1 hk
        rw [eq_append_of_afterPrefix hr, ← List.append_assoc]
        exact (opensFirstAt_of_openParenLength hm).prepend (by decide)
      · simp at hk
    · -- `request.security(`
      obtain ⟨m, hm, rfl⟩ := Option.map_eq_some_iff.1 h
      exact (opensFirstAt_of_openParenLength hm).prepend (by decide)
  · simp at h

/-- An order entry ends with its `(`, the first in the call. -/
theorem entryCall_opensFirstAt {prev : Option Char} {cs : List Char} {n : Nat}
    (h : entryCall prev cs = some n) : OpensFirstAt cs n := by
  refine opensFirstAt_freeCall (fun cs n h => ?_) h
  split at h
  · rename_i rest hrest
    obtain ⟨m, hm, rfl⟩ := Option.map_eq_some_iff.1 h
    rw [eq_append_of_afterPrefix hrest]
    exact (opensFirstAt_of_callOfAny (by decide) hm).prepend (by decide)
  · simp at h

/-- **Searching from a call finds the call's own bracket.** For a probe whose stretches end
with their first `(`, the first `(` from where a call found in a text starts is the one just
before its arguments. -/
theorem indexFrom_callSite {p : Probe}
    (hp : ∀ prev cs n, p prev cs = some n → OpensFirstAt cs n) {text : List Char}
    {call : CallSite} (hcall : call ∈ callSites p text) :
    indexFrom text '(' call.offset = some (call.argsStart - 1) := by
  obtain ⟨⟨pos, len⟩, hmem, rfl⟩ := List.mem_map.1 hcall
  obtain ⟨-, hpos, hidx⟩ := recognised_of_mem_matchesFrom hp text none 0 hmem
  rw [Nat.sub_zero] at hidx
  unfold indexFrom
  rw [hidx]
  simp only [Option.map_some, Option.some.injEq]
  omega

/-! ## The report -/

/-- Settings whose window fits and whose written settings have few enough digits give a
report on every text. -/
theorem lintText_eq_ok {s : Settings} (hwindow : s.entryGuardWindow < Nat.pow 2 63)
    (hdigits : ∀ n ∈ [s.version, s.indentUnit, s.maxLineLength, s.maxInputs, s.maxRequestSecurity],
      tooLongToWrite n = false) (content : List Char) :
    lintText s content = .ok (lintContent s content) := by
  -- every setting a finding may write out is one of the five
  have hwritten : ∀ c : Code, (writtenSetting s c).any tooLongToWrite = false := by
    intro c
    cases c <;> simp [writtenSetting, hdigits]
  have hversion : tooLongToWrite s.version = false := hdigits _ List.mem_cons_self
  rw [lintText_eq, if_neg (Nat.not_le.2 hwindow), if_neg (by rw [hversion]; decide),
    if_neg (by simp [hwritten])]

/-- **Linting gives a report.** With the window below `2 ^ 63` and the settings that findings
write out at most 4300 digits long, linting any text gives its report; and wherever the rules
search for the `(` of a call for external data or an order entry, they find the call's own
bracket, just before its arguments. -/
theorem lint_returns_report (s : Settings) (content : List Char)
    (hwindow : s.entryGuardWindow < Nat.pow 2 63)
    (hdigits : ∀ n ∈ [s.version, s.indentUnit, s.maxLineLength, s.maxInputs, s.maxRequestSecurity],
      tooLongToWrite n = false) :
    lintText s content = .ok (lintContent s content) ∧
      ∀ text : List Char, ∀ call ∈ callSites securityCall text ++ callSites entryCall text,
        indexFrom text '(' call.offset = some (call.argsStart - 1) := by
  refine ⟨lintText_eq_ok hwindow hdigits content, fun text call hcall => ?_⟩
  rcases List.mem_append.1 hcall with hcall | hcall
  · exact indexFrom_callSite (fun _ _ _ => securityCall_opensFirstAt) hcall
  · exact indexFrom_callSite (fun _ _ _ => entryCall_opensFirstAt) hcall

/-- `lint_returns_report` under the default settings. -/
theorem lint_returns_report_default :
    Settings.default.entryGuardWindow < Nat.pow 2 63 ∧
      (∀ n ∈ [Settings.default.version, Settings.default.indentUnit, Settings.default.maxLineLength,
        Settings.default.maxInputs, Settings.default.maxRequestSecurity], tooLongToWrite n = false) ∧
      lintText Settings.default "x = strategy.entry (\"L\", 1)\n".toList =
        .ok (lintContent Settings.default "x = strategy.entry (\"L\", 1)\n".toList) ∧
      ∀ text : List Char, ∀ call ∈ callSites securityCall text ++ callSites entryCall text,
        indexFrom text '(' call.offset = some (call.argsStart - 1) :=
  have hwindow : Settings.default.entryGuardWindow < Nat.pow 2 63 := by decide
  have hdigits : ∀ n ∈ [Settings.default.version, Settings.default.indentUnit,
      Settings.default.maxLineLength, Settings.default.maxInputs,
      Settings.default.maxRequestSecurity], tooLongToWrite n = false := by decide
  ⟨hwindow, hdigits, lint_returns_report Settings.default _ hwindow hdigits⟩

/-- A window of `2 ^ 63` lines is a valid setting, but no queue of that size can be built:
linting fails, whatever the text. -/
theorem huge_window_raises_overflow :
    lintText { Settings.default with entryGuardWindow := Nat.pow 2 63 }
        "//@version=6\nindicator(\"i\")\n".toList = .error Uncaught.sizeOverflow := by
  rw [lintText_eq, if_pos (Nat.le_refl _)]

end PineCheck
