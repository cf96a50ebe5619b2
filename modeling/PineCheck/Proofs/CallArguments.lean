import PineCheck.Proofs.Nesting
import PineCheck.Rules.Statement
/-!
# The arguments of a call

The statement rules look for calls with a probe (`securityCall`, `entryCall`) and read each
call's arguments with `argumentsFrom`, from the last character the probe recognised. Both
probes recognise a stretch that ends with the call's `(` (`EndsAtParen`), so `argumentsFrom`
starts at an opener. In a well-nested text that opener has its own closer, and the arguments
are exactly the text between the two (`args_eq_of_wellNested`).
-/

namespace PineCheck

open Script Text

/-! ## Stretches that end with an open round bracket -/

/-- The first `n` characters of `cs` end with `(`. -/
def EndsWithParen (cs : List Char) (n : Nat) : Prop := 0 < n ∧ cs[n - 1]? = some '('

/-- Every stretch the probe recognises ends with `(`. -/
def EndsAtParen (p : Probe) : Prop := ∀ prev cs n, p prev cs = some n → EndsWithParen cs n

/-- A stretch that ends with `(` still does after text put before it, counted from the new start. -/
theorem EndsWithParen.prepend {rest : List Char} {n : Nat} (h : EndsWithParen rest n)
    (pre : List Char) : EndsWithParen (pre ++ rest) (pre.length + n) := by
  obtain ⟨hpos, hget⟩ := h
  refine ⟨by omega, ?_⟩
  rw [List.getElem?_append_right (by omega), show pre.length + n - 1 - pre.length = n - 1 by omega]
  exact hget

/-- What follows a matched prefix is the rest of the text. -/
theorem eq_append_of_afterPrefix {pre cs rest : List Char} (h : afterPrefix pre cs = some rest) :
    cs = pre ++ rest := by
  unfold afterPrefix at h
  split_ifs at h with hpre
  obtain ⟨t, rfl⟩ := List.isPrefixOf_iff_prefix.1 hpre
  simp only [Option.some.injEq] at h
  rw [← h, List.drop_left]

/-- The blanks and the `(` after a name end with `(`. -/
theorem endsWithParen_of_openParenLength {cs : List Char} {n : Nat}
    (h : openParenLength cs = some n) : EndsWithParen cs n := by
  unfold openParenLength at h
  split at h
  · rename_i rest hdrop
    simp only [Option.some.injEq] at h
    subst h
    -- the blank run, then the bracket where `dropBlank` stopped
    have hsplit : cs = cs.takeWhile isBlank ++ '(' :: rest := by
      unfold dropBlank at hdrop
      rw [← hdrop, List.takeWhile_append_dropWhile]
    have hparen : (cs.takeWhile isBlank ++ '(' :: rest)[(cs.takeWhile isBlank).length]? =
        some '(' := by
      rw [List.getElem?_append_right (Nat.le_refl _), Nat.sub_self]
      rfl
    rw [← hsplit] at hparen
    refine ⟨by omega, ?_⟩
    rw [Nat.add_sub_cancel]
    exact hparen
  · simp at h

/-- A call of a name, matched to its `(`, ends with `(`. -/
theorem endsWithParen_of_callOf {name cs : List Char} {n : Nat} (h : callOf name cs = some n) :
    EndsWithParen cs n := by
  unfold callOf at h
  split at h
  · rename_i rest hrest
    obtain ⟨m, hm, rfl⟩ := Option.map_eq_some_iff.1 h
    rw [eq_append_of_afterPrefix hrest]
    exact (endsWithParen_of_openParenLength hm).prepend name
  · simp at h

/-- A call of one of several names ends with `(`. -/
theorem endsWithParen_of_callOfAny {cs : List Char} {n : Nat} :
    ∀ {names : List (List Char)}, callOfAny names cs = some n → EndsWithParen cs n
  | [], h => by simp [callOfAny] at h
  | name :: names, h => by
    unfold callOfAny at h
    split at h
    · rename_i k hk
      simp only [Option.some.injEq] at h
      subst h
      exact endsWithParen_of_callOf hk
    · exact endsWithParen_of_callOfAny h

/-- A call matched where no name character stands before it ends with `(` when its matcher does. -/
theorem endsAtParen_freeCall {recognise : List Char → Option Nat}
    (h : ∀ cs n, recognise cs = some n → EndsWithParen cs n) : EndsAtParen (freeCall recognise) := by
  intro prev cs n hn
  unfold freeCall at hn
  split_ifs at hn
  exact h cs n hn

/-- Every match of the external-data call ends at its `(`. -/
theorem securityCall_endsAtParen : EndsAtParen securityCall := by
  refine endsAtParen_freeCall fun cs n h => ?_
  split at h
  · rename_i rest hrest
    rw [eq_append_of_afterPrefix hrest]
    dsimp only at h
    split at h
    · -- `request.security_lower_tf(`
      rename_i k hk
      simp only [Option.some.injEq] at h
      subst h
      split at hk
      · rename_i r hr
        obtain ⟨m, hm, rfl⟩ := Option.map_eq_some_iff.1 hk
        rw [eq_append_of_afterPrefix hr, ← List.append_assoc]
        exact (endsWithParen_of_openParenLength hm).prepend _
      · simp at hk
    · -- `request.security(`
      obtain ⟨m, hm, rfl⟩ := Option.map_eq_some_iff.1 h
      exact (endsWithParen_of_openParenLength hm).prepend _
  · simp at h

/-- Every match of the order-entry call ends at its `(`. -/
theorem entryCall_endsAtParen : EndsAtParen entryCall := by
  refine endsAtParen_freeCall fun cs n h => ?_
  split at h
  · rename_i rest hrest
    obtain ⟨m, hm, rfl⟩ := Option.map_eq_some_iff.1 h
    rw [eq_append_of_afterPrefix hrest]
    exact (endsWithParen_of_callOfAny hm).prepend _
  · simp at h

/-! ## Matches and call sites -/

/-- A match found from index `i` on is a stretch the probe recognises in the text there: it
has every property `Q` that the probe's stretches have. -/
theorem recognised_of_mem_matchesFrom {p : Probe} {Q : List Char → Nat → Prop}
    (hp : ∀ prev cs n, p prev cs = some n → Q cs n) :
    ∀ (cs : List Char) (prev : Option Char) (i : Nat) {pos len : Nat},
      (pos, len) ∈ matchesFrom p prev cs i → i ≤ pos ∧ Q (cs.drop (pos - i)) len := by
  intro cs
  induction cs with
  | nil =>
    intro prev i pos len h
    unfold matchesFrom at h
    split at h
    · rename_i n hn
      simp only [List.mem_singleton, Prod.mk.injEq] at h
      obtain ⟨rfl, rfl⟩ := h
      exact ⟨Nat.le_refl _, by simpa using hp prev [] len hn⟩
    · simp at h
  | cons c cs ih =>
    intro prev i pos len h
    unfold matchesFrom at h
    rw [List.mem_append] at h
    rcases h with h | h
    · -- the match at `i` itself
      split at h
      · rename_i n hn
        simp only [List.mem_singleton, Prod.mk.injEq] at h
        obtain ⟨rfl, rfl⟩ := h
        exact ⟨Nat.le_refl _, by simpa using hp prev (c :: cs) len hn⟩
      · simp at h
    · obtain ⟨hle, hrec⟩ := ih (some c) (i + 1) h
      refine ⟨by omega, ?_⟩
      rw [show pos - i = (pos - (i + 1)) + 1 by omega, List.drop_succ_cons]
      exact hrec

/-- Every match found from index `i` on starts there or later and ends with `(`. -/
theorem endsWithParen_of_mem_matchesFrom {p : Probe} (hp : EndsAtParen p) :
    ∀ (cs : List Char) (prev : Option Char) (i : Nat) {pos len : Nat},
      (pos, len) ∈ matchesFrom p prev cs i → i ≤ pos ∧ EndsWithParen (cs.drop (pos - i)) len :=
  recognised_of_mem_matchesFrom hp

/-- A call site of a probe whose stretches end with `(`: its arguments are read from that
bracket. -/
theorem callSite_opens {p : Probe} (hp : EndsAtParen p) {text : List Char} {call : CallSite}
    (hcall : call ∈ callSites p text) :
    0 < call.argsStart ∧ text[call.argsStart - 1]? = some '(' ∧
      call.args = argumentsFrom text (call.argsStart - 1) := by
  obtain ⟨⟨pos, len⟩, hmem, rfl⟩ := List.mem_map.1 hcall
  obtain ⟨-, hlen, hget⟩ := endsWithParen_of_mem_matchesFrom hp text none 0 hmem
  refine ⟨by dsimp only; omega, ?_, rfl⟩
  rw [Nat.sub_zero, List.getElem?_drop] at hget
  dsimp only
  rw [show pos + len - 1 = pos + (len - 1) by omega]
  exact hget

/-- **The arguments of a call in a well-nested text.** The `(` of the call has its own
closer, and the arguments are the text between the two. -/
theorem args_eq_of_wellNested {p : Probe} (hp : EndsAtParen p) {text : List Char}
    (hnest : WellNested text) {call : CallSite} (hcall : call ∈ callSites p text) :
    ∃ m, ClosesAt text (call.argsStart - 1) m ∧
      call.args = (text.drop call.argsStart).take (m - call.argsStart) := by
  obtain ⟨hpos, hparen, hargs⟩ := callSite_opens hp hcall
  obtain ⟨m, hm⟩ := exists_closesAt hnest (k := .round) hparen
  refine ⟨m, hm, ?_⟩
  rw [hargs, argumentsFrom_eq_of_closesAt hm, Nat.sub_add_cancel hpos]

end PineCheck
