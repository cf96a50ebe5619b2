import Mathlib.Tactic.SplitIfs
import PineCheck.Lint
/-!
# Which rule reports which code

Every rule builds its findings with `Diagnostic.make` (or `Statement.findingAt`, which calls
it) at a code fixed in its text, or chosen by a setting between two codes of the same rule.
This module records, rule by rule, the codes a rule can report. Laws about the report that
follow one rule through the whole pass (how often the statement rules run, what a setting
changes) then find that rule's findings among all others by their code alone.

The statement rules are the only ones that report `lookaheadOn`, `lookaheadDefault`,
`limitOrder`, `limitMarketLike` and `spamEntry` (`Code.fromStatementRule`): the text rules,
the line rules and the tracker never do. The line rules report only the codes of
`Code.fromLineRule`, the file rules those of `Code.fromFileRule`.
-/

namespace PineCheck

open Script Text

/-- A finding made with a code has that code. -/
@[simp] theorem Diagnostic.make_code (c : Code) (m : String) (l k : Nat) :
    (Diagnostic.make c m l k).code = c := rfl

/-- A block-indent finding has its code. -/
@[simp] theorem blockIndentFinding_code (unit opener line column : Nat) :
    (blockIndentFinding unit opener line column).code = .blockIndent := rfl

/-- A statement finding made with a code has that code. -/
@[simp] theorem Statement.findingAt_code (st : Statement) (c : Code) (m : String) (o : Nat) :
    (st.findingAt c m o).code = c := rfl

/-- The codes that only the statement rules report. -/
def Code.fromStatementRule : Code → Bool
  | .lookaheadOn | .lookaheadDefault | .limitOrder | .limitMarketLike | .spamEntry => true
  | _ => false

section Codes

variable {s : Settings} {line : Line} {sc : Snapshot} {st : Statement} {d : Diagnostic}

/-! ## Text rules -/

/-- The tab rule reports only E_TAB. -/
theorem code_of_mem_tabFinding (h : d ∈ line.tabFinding) : d.code = .tab := by
  unfold Line.tabFinding at h
  split at h <;> simp_all

/-- The trailing-blanks rule reports only E_TRAILING_WS. -/
theorem code_of_mem_trailingSpaceFinding (h : d ∈ line.trailingSpaceFinding) :
    d.code = .trailingSpace := by
  unfold Line.trailingSpaceFinding at h
  dsimp only at h
  split_ifs at h <;> simp_all

/-- The version check on the first line that is not blank reports only E_VERSION. -/
theorem code_of_mem_versionFinding (h : d ∈ versionFinding s line) : d.code = .version := by
  unfold versionFinding at h
  dsimp only at h
  split_ifs at h <;> simp_all

/-! ## Line rules -/

/-- The dangling-line rule reports only E_EOL_CONTINUATION. -/
theorem code_of_mem_eolContinuationRule (h : d ∈ eolContinuationRule sc) :
    d.code = .eolContinuation := by
  unfold eolContinuationRule at h
  split at h <;> simp_all [danglingFinding]

/-- The indent rule reports only W_INDENT or E_INDENT. -/
theorem code_of_mem_indentRule (h : d ∈ indentRule s line sc) :
    d.code = .indentWarn ∨ d.code = .indentError := by
  unfold indentRule at h
  dsimp only at h
  split_ifs at h <;> simp_all

/-- The block-indent rule reports only W_BLOCK_INDENT. -/
theorem code_of_mem_blockIndentRule (h : d ∈ blockIndentRule s line sc) :
    d.code = .blockIndent := by
  unfold blockIndentRule at h
  split at h <;> simp_all

/-- The reserved-name rule reports only E_RESERVED_IDENTIFIER. -/
theorem code_of_mem_reservedIdentifierRule (h : d ∈ reservedIdentifierRule line sc) :
    d.code = .reservedIdentifier := by
  unfold reservedIdentifierRule at h
  split_ifs at h <;> simp_all
  split at h <;> simp_all

/-- The global-mutation rule reports only E_GLOBAL_MUTATION. -/
theorem code_of_mem_globalMutationRule (h : d ∈ globalMutationRule line sc) :
    d.code = .globalMutation := by
  unfold globalMutationRule at h
  split_ifs at h
  · simp at h
  · -- one finding for each persistent name changed on the line
    obtain ⟨name, -, hname⟩ := List.mem_filterMap.1 h
    obtain ⟨⟨pos, len⟩, -, rfl⟩ := Option.map_eq_some_iff.1 hname
    rfl

/-- The plot-scope rule reports only W_PLOT_SCOPE. -/
theorem code_of_mem_plotScopeRule (h : d ∈ plotScopeRule line sc) : d.code = .plotScope := by
  unfold plotScopeRule at h
  split_ifs at h
  · simp at h
  · split at h <;> simp_all

/-- The every-tick rule reports only W_EVERY_TICK or E_EVERY_TICK. -/
theorem code_of_mem_everyTickRule (h : d ∈ everyTickRule s line) :
    d.code = .everyTickWarn ∨ d.code = .everyTickError := by
  unfold everyTickRule at h
  split at h <;> simp_all

/-- The realtime rule reports only W_REALTIME. -/
theorem code_of_mem_realtimeRule (h : d ∈ realtimeRule line) : d.code = .realtime := by
  unfold realtimeRule at h
  split at h <;> simp_all

/-- The input-style rule reports only W_INPUT_STYLE. -/
theorem code_of_mem_inputStyleRule (h : d ∈ inputStyleRule s line) : d.code = .inputStyle := by
  unfold inputStyleRule at h
  split_ifs at h <;> simp_all
  split at h <;> simp_all

/-- The several-statements rule reports only W_MULTI_STATEMENT. -/
theorem code_of_mem_multiStatementRule (h : d ∈ multiStatementRule line) :
    d.code = .multiStatement := by
  unfold multiStatementRule at h
  split at h <;> simp_all

/-- The line-length rule reports only W_LINE_LENGTH. -/
theorem code_of_mem_lineLengthRule (h : d ∈ lineLengthRule s line) : d.code = .lineLength := by
  unfold lineLengthRule at h
  dsimp only at h
  split_ifs at h <;> simp_all

/-! ## Statement rules -/

/-- The lookahead rule reports only E_LOOKAHEAD_ON or W_LOOKAHEAD_DEFAULT. -/
theorem code_of_mem_lookaheadRule (h : d ∈ lookaheadRule s st) :
    d.code = .lookaheadOn ∨ d.code = .lookaheadDefault := by
  unfold lookaheadRule at h
  obtain ⟨c, -, hc⟩ := List.mem_flatMap.1 h
  split at hc <;> split_ifs at hc <;> simp_all

/-- The limit-order rule reports only E_LIMIT_ORDER or W_LIMIT_MARKET_LIKE. -/
theorem code_of_mem_limitOrderRule (h : d ∈ limitOrderRule s st) :
    d.code = .limitOrder ∨ d.code = .limitMarketLike := by
  unfold limitOrderRule at h
  obtain ⟨c, -, hc⟩ := List.mem_flatMap.1 h
  split_ifs at hc <;> simp_all
  split at hc <;> simp_all

/-- The entry-gating rule reports only W_SPAM_ENTRY. -/
theorem code_of_mem_entryGatingRule (h : d ∈ entryGatingRule st) : d.code = .spamEntry := by
  unfold entryGatingRule at h
  dsimp only at h
  split_ifs at h
  · simp at h
  · simp at h
  · obtain ⟨c, -, rfl⟩ := List.mem_map.1 h
    rfl

/-! ## The rules by kind -/

/-- The text rules report tabs, trailing blanks and a missing version only. -/
theorem code_of_mem_textFindings {b : Bool} (h : d ∈ textFindings s line b) :
    d.code = .tab ∨ d.code = .trailingSpace ∨ d.code = .version := by
  simp only [textFindings, List.mem_append] at h
  rcases h with (h | h) | h
  · split at h
    · exact .inl (code_of_mem_tabFinding h)
    · simp at h
  · exact .inr (.inl (code_of_mem_trailingSpaceFinding h))
  · split at h
    · exact .inr (.inr (code_of_mem_versionFinding h))
    · simp at h

/-- The text rules report no code of a statement rule. -/
theorem fromStatementRule_of_mem_textFindings {b : Bool} (h : d ∈ textFindings s line b) :
    d.code.fromStatementRule = false := by
  rcases code_of_mem_textFindings h with hc | hc | hc <;> rw [hc] <;> rfl

/-- The codes that the line rules report. -/
def Code.fromLineRule : Code → Bool
  | .eolContinuation | .indentWarn | .indentError | .blockIndent | .reservedIdentifier
  | .globalMutation | .plotScope | .everyTickWarn | .everyTickError | .realtime | .inputStyle
  | .multiStatement | .lineLength => true
  | _ => false

/-- The line rules report only their own codes. -/
theorem fromLineRule_of_mem_lineFindings (h : d ∈ lineFindings s line sc) :
    d.code.fromLineRule = true := by
  simp only [lineFindings, List.mem_append, or_assoc] at h
  rcases h with h | h | h | h | h | h | h | h | h | h | h
  · rw [code_of_mem_eolContinuationRule h]; rfl
  · rcases code_of_mem_indentRule h with hc | hc <;> rw [hc] <;> rfl
  · rw [code_of_mem_blockIndentRule h]; rfl
  · rw [code_of_mem_reservedIdentifierRule h]; rfl
  · rw [code_of_mem_globalMutationRule h]; rfl
  · rw [code_of_mem_plotScopeRule h]; rfl
  · rcases code_of_mem_everyTickRule h with hc | hc <;> rw [hc] <;> rfl
  · rw [code_of_mem_realtimeRule h]; rfl
  · rw [code_of_mem_inputStyleRule h]; rfl
  · rw [code_of_mem_multiStatementRule h]; rfl
  · rw [code_of_mem_lineLengthRule h]; rfl

/-- The line rules report no code of a statement rule. -/
theorem fromStatementRule_of_mem_lineFindings (h : d ∈ lineFindings s line sc) :
    d.code.fromStatementRule = false := by
  have hline := fromLineRule_of_mem_lineFindings h
  generalize d.code = c at hline ⊢
  revert hline
  cases c <;> decide

/-- The statement rules report only their own codes. -/
theorem fromStatementRule_of_mem_statementFindings (h : d ∈ statementFindings s st) :
    d.code.fromStatementRule = true := by
  simp only [statementFindings, List.mem_append] at h
  rcases h with (h | h) | h
  · rcases code_of_mem_lookaheadRule h with hc | hc <;> rw [hc] <;> rfl
  · rcases code_of_mem_limitOrderRule h with hc | hc <;> rw [hc] <;> rfl
  · rw [code_of_mem_entryGatingRule h]; rfl

/-! ## File rules -/

section File

variable {t : Tally}

/-- The whole-file version rule reports only E_VERSION. -/
theorem code_of_mem_versionPresentRule (h : d ∈ versionPresentRule s t) : d.code = .version := by
  unfold versionPresentRule at h
  split at h <;> simp_all

/-- The declaration-count rule reports only E_DECLARATION_MISSING or E_DECLARATION_COUNT. -/
theorem code_of_mem_declarationCountRule (h : d ∈ declarationCountRule t) :
    d.code = .declarationMissing ∨ d.code = .declarationCount := by
  unfold declarationCountRule at h
  split at h <;> simp_all

/-- The declaration-order rule reports only E_DECLARATION_ORDER. -/
theorem code_of_mem_declarationOrderRule (h : d ∈ declarationOrderRule t) :
    d.code = .declarationOrder := by
  unfold declarationOrderRule at h
  split at h
  · split at h <;> simp_all
  · simp at h

/-- The input ceiling rule reports only W_INPUT_BLOAT. -/
theorem code_of_mem_inputCeilingRule (h : d ∈ inputCeilingRule s t) : d.code = .inputBloat := by
  unfold inputCeilingRule at h
  split at h <;> simp_all

/-- The external-data ceiling rule reports only W_SECURITY_BLOAT. -/
theorem code_of_mem_securityCeilingRule (h : d ∈ securityCeilingRule s t) :
    d.code = .securityBloat := by
  unfold securityCeilingRule at h
  split at h <;> simp_all

/-- The cancel-presence rule reports only W_NO_CANCEL. -/
theorem code_of_mem_cancelPresenceRule (h : d ∈ cancelPresenceRule t) : d.code = .noCancel := by
  unfold cancelPresenceRule at h
  split at h
  · split at h <;> simp_all
  · simp at h

end File

end Codes

/-- The codes that the file rules report. -/
def Code.fromFileRule : Code → Bool
  | .version | .declarationMissing | .declarationCount | .declarationOrder | .inputBloat
  | .securityBloat | .noCancel => true
  | _ => false

/-- The file rules report only their own codes. -/
theorem fromFileRule_of_mem_fileFindings {s : Settings} {t : Tally} {d : Diagnostic}
    (h : d ∈ fileFindings s t) : d.code.fromFileRule = true := by
  simp only [fileFindings, List.mem_append, or_assoc] at h
  rcases h with h | h | h | h | h | h
  · rw [code_of_mem_versionPresentRule h]; rfl
  · rcases code_of_mem_declarationCountRule h with hc | hc <;> rw [hc] <;> rfl
  · rw [code_of_mem_declarationOrderRule h]; rfl
  · rw [code_of_mem_inputCeilingRule h]; rfl
  · rw [code_of_mem_securityCeilingRule h]; rfl
  · rw [code_of_mem_cancelPresenceRule h]; rfl

end PineCheck
