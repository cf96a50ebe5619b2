import PineCheck.Proofs.JsonRoundTrip
import PineCheck.Scaffold
import Mathlib.Data.List.TakeWhile
import Mathlib.Data.List.DropRight
/-!
# The manifest of a new strategy

A new strategy's manifest is the same for every name except two texts: the name itself and
the description, the name followed by " strategy scaffold". Both must pass the non-empty text
check, which trims White_Space at both ends. A strategy name is lowercase letters, digits and
hyphens, at least one of them, so it has a character that no trimming removes, and only its
optional final line feed is White_Space. Everything else in the manifest is fixed, and its
checks are computed once.

The manifest is also a plain value in the sense of `Json.Plain`: JSON text writes it and reads
it back unchanged, the one float included.
-/

namespace PineCheck

/-! ## Strategy names -/

/-- A name character is a lowercase letter, a digit or a hyphen, read as code-point ranges. -/
theorem isNameChar_toNat {c : Char} (h : isNameChar c = true) :
    (97 ≤ c.toNat ∧ c.toNat ≤ 122) ∨ (48 ≤ c.toNat ∧ c.toNat ≤ 57) ∨ c.toNat = 45 := by
  simp only [isNameChar, Char.isDigit, Bool.or_eq_true, Bool.and_eq_true, decide_eq_true_eq,
    beq_iff_eq] at h
  rcases h with (⟨h1, h2⟩ | ⟨h1, h2⟩) | rfl
  · exact .inl ⟨UInt32.le_iff_toNat_le.1 h1, UInt32.le_iff_toNat_le.1 h2⟩
  · exact .inr (.inl ⟨UInt32.le_iff_toNat_le.1 h1, UInt32.le_iff_toNat_le.1 h2⟩)
  · exact .inr (.inr rfl)

/-- Every character of a strategy name is a name character, or the one line feed at its end,
and at least one is a name character. -/
theorem isStrategyName_chars {name : String} (h : isStrategyName name = true) :
    (∀ c ∈ name.toList, isNameChar c = true ∨ c = '\n') ∧
      ∃ c ∈ name.toList, isNameChar c = true := by
  unfold isStrategyName at h
  by_cases hlast : name.toList.getLast? = some '\n'
  · simp only [hlast, beq_self_eq_true, if_true, Bool.and_eq_true, Bool.not_eq_true',
      List.isEmpty_eq_false_iff, List.all_eq_true] at h
    obtain ⟨hne, hall⟩ := h
    have hsplit : name.toList = name.toList.dropLast ++ ['\n'] := by
      have hnil : name.toList ≠ [] := by
        intro hnil
        rw [hnil] at hlast
        cases hlast
      rw [List.getLast?_eq_some_getLast hnil, Option.some.injEq] at hlast
      conv => lhs; rw [← List.dropLast_concat_getLast hnil]
      rw [hlast]
    refine ⟨fun c hc => ?_, ?_⟩
    · rw [hsplit, List.mem_append, List.mem_singleton] at hc
      exact hc.imp (hall c) id
    · obtain ⟨c, hc⟩ := List.exists_mem_of_ne_nil _ hne
      exact ⟨c, List.dropLast_subset _ hc, hall c hc⟩
  · simp only [hlast, beq_iff_eq, if_false, Bool.and_eq_true, Bool.not_eq_true',
      List.isEmpty_eq_false_iff, List.all_eq_true] at h
    obtain ⟨hne, hall⟩ := h
    obtain ⟨c, hc⟩ := List.exists_mem_of_ne_nil _ hne
    exact ⟨fun c hc => .inl (hall c hc), c, hc, hall c hc⟩

/-- The characters of a strategy name are ASCII. -/
theorem toNat_lt_of_nameChar {c : Char} (h : isNameChar c = true ∨ c = '\n') :
    c.toNat < 128 := by
  rcases h with h | rfl
  · have := isNameChar_toNat h
    omega
  · decide

/-- The characters of a strategy name are written by JSON text as themselves, the line feed as its
one-letter escape. -/
theorem plainChar_of_nameChar {c : Char} (h : isNameChar c = true ∨ c = '\n') :
    Json.plainChar c = true := by
  rcases h with h | rfl
  · have := isNameChar_toNat h
    simp only [Json.plainChar, Bool.or_eq_true, Bool.and_eq_true, decide_eq_true_eq]
    omega
  · decide

/-- A name character is no White_Space, so trimming never removes it. -/
theorem isWhiteSpace_of_isNameChar {c : Char} (h : isNameChar c = true) :
    Text.isWhiteSpace c = false := by
  have := isNameChar_toNat h
  simp only [Text.isWhiteSpace, Text.isBlank, show c.toNat < 128 by omega, if_true,
    Bool.and_eq_false_iff, Bool.or_eq_false_iff, beq_eq_false_iff_ne, Bool.and_eq_false_iff,
    decide_eq_false_iff_not]
  omega

/-! ## Non-empty texts -/

/-- A character below the stand-in range is no stand-in for a surrogate. -/
theorem surrogate?_of_lt {c : Char} (h : c.toNat < Text.standInBase) :
    Text.surrogate? c = none := by
  have hlow : ¬ Text.standInBase ≤ c.toNat := by omega
  simp [Text.surrogate?, hlow]

/-- An ASCII text holds no stand-in for a surrogate. -/
theorem hasSurrogate_of_ascii {s : String} (h : ∀ c ∈ s.toList, c.toNat < 128) :
    Text.hasSurrogate s = false := by
  simp only [Text.hasSurrogate, List.any_eq_false]
  intro c hc
  rw [surrogate?_of_lt (by have := h c hc; unfold Text.standInBase; omega)]
  decide

/-- Trimming White_Space at both ends leaves nothing exactly when every character is White_Space. -/
theorem Text.trimWhiteSpace_eq_nil_iff (cs : List Char) :
    Text.trimWhiteSpace cs = [] ↔ ∀ c ∈ cs, Text.isWhiteSpace c = true := by
  rw [Text.trimWhiteSpace, List.reverse_eq_nil_iff, List.dropWhile_eq_nil_iff]
  simp only [List.mem_reverse]
  constructor
  · intro h
    have hdrop : cs.dropWhile Text.isWhiteSpace = [] := by
      rw [← List.dropWhile_idempotent, List.dropWhile_eq_nil_iff]
      exact h
    exact List.dropWhile_eq_nil_iff.1 hdrop
  · intro h c hc
    exact h c (List.dropWhile_subset _ hc)

/-- A text with no surrogate and a character that is no White_Space passes the non-empty text check,
trimmed. -/
theorem checkNonEmptyText_of_visible {s : String} (hsur : Text.hasSurrogate s = false)
    (hvis : ∃ c ∈ s.toList, Text.isWhiteSpace c = false) :
    checkNonEmptyText (.str s) = .ok (String.ofList (Text.trimWhiteSpace s.toList)) := by
  obtain ⟨c, hc, hwhite⟩ := hvis
  have htrim : (Text.trimWhiteSpace s.toList).isEmpty = false := by
    rw [List.isEmpty_eq_false_iff, ne_eq, Text.trimWhiteSpace_eq_nil_iff]
    exact fun h => by rw [h c hc] at hwhite; cases hwhite
  simp [checkNonEmptyText, hsur, htrim]

/-- A strategy name passes the non-empty text check. -/
theorem checkNonEmptyText_name {name : String} (h : isStrategyName name = true) :
    ∃ t, checkNonEmptyText (.str name) = .ok t := by
  obtain ⟨hall, c, hc, hname⟩ := isStrategyName_chars h
  exact ⟨_, checkNonEmptyText_of_visible
    (hasSurrogate_of_ascii fun c hc => toNat_lt_of_nameChar (hall c hc))
    ⟨c, hc, isWhiteSpace_of_isNameChar hname⟩⟩

/-- The description of a new strategy, its name followed by " strategy scaffold", passes the
non-empty text check. -/
theorem checkNonEmptyText_description {name : String} (h : isStrategyName name = true) :
    ∃ t, checkNonEmptyText (.str (name ++ " strategy scaffold")) = .ok t := by
  have hall := (isStrategyName_chars h).1
  -- the literal is checked as a list, not by deciding over every character
  have hascii : (" strategy scaffold".toList.all fun c => decide (c.toNat < 128)) = true := by
    decide
  have hlit : ∀ c ∈ " strategy scaffold".toList, c.toNat < 128 := fun c hc =>
    of_decide_eq_true (List.all_eq_true.1 hascii c hc)
  refine ⟨_, checkNonEmptyText_of_visible (hasSurrogate_of_ascii fun c hc => ?_)
    ⟨'s', by simp [String.toList_append], by decide⟩⟩
  rw [String.toList_append, List.mem_append] at hc
  exact hc.elim (fun hc => toNat_lt_of_nameChar (hall c hc)) (hlit c)

/-- The manifest of a new strategy has no problem, whatever its accepted name. -/
theorem manifestProblems_template {name : String} (h : isStrategyName name = true) :
    manifestProblems (manifestTemplate name).toValue = [] := by
  obtain ⟨t1, hname⟩ := checkNonEmptyText_name h
  obtain ⟨t2, hdesc⟩ := checkNonEmptyText_description h
  -- the other fields are the same for every name
  have hversion : checkNonEmptyText (.str "0.1.0") = .ok "0.1.0" := rfl
  have hsymbols : checkNonEmptyTexts (.list [.str "ES1!"]) = .ok ["ES1!"] := rfl
  have htimeframes : checkNonEmptyTexts (.list [.str "5"]) = .ok ["5"] := rfl
  have hzone : checkNonEmptyText (.str "America/New_York") = .ok "America/New_York" := rfl
  have hsession : checkNonEmptyText (.str "0930-1600") = .ok "0930-1600" := rfl
  have horder : OrderPolicy.check (.object [(.str "entryType", .str "limit"),
      (.str "marketableOffsetTicks", .int 5), (.str "timeoutBars", .int 3)]) =
      .ok ⟨"limit", 5, 3⟩ := rfl
  have hrisk : RiskPolicy.check (.object [(.str "qtyType", .str "contracts"),
      (.str "qtyValue", (Number.int 1).toValue), (.str "pyramiding", .int 0)]) =
      .ok ⟨"contracts", .int 1, 0⟩ := rfl
  have hbacktest : BacktestAssumptions.check (.object [
      (.str "commissionPerContractCash", (Number.float 2.5).toValue),
      (.str "slippageTicks", .int 1)]) = .ok ⟨.float 2.5, 1⟩ := rfl
  simp [manifestProblems, Manifest.check, checkRecord, requiredField, lookupField, Value.find?,
    Value.sameKey, Manifest.toValue, manifestTemplate, Checked.under, Checked.errors, hname, hdesc,
    hversion, hsymbols, htimeframes, hzone, hsession, horder, hrisk, hbacktest]

/-! ## Reading the manifest back -/

/-- The one float of the manifest, 2.5, is written as `2.5` and read back as itself. -/
theorem Json.readsBack_twoPointFive : ReadsBack 2.5 := by
  intro fuel depth pos rest hrest
  have hrender : floatText.render 2.5 = "2.5" := by decide +kernel
  have hspan : spanDigits rest = ([], rest) :=
    spanDigits_append (show ∀ c ∈ ([] : List Char), c.isDigit = true by simp) hrest
  have hdot : spanDigits ('.' :: '5' :: rest) = ([], '.' :: '5' :: rest) := by
    simp [spanDigits]
  have hvalue : Decimal.toFloat false (Decimal.digitsValue ['2', '5']) (-1) = 2.5 := by rfl
  rw [hrender, show "2.5".toList = ['2', '.', '5'] from rfl, show "2.5".length = 3 from rfl]
  refine parseValue_number (.inl rfl) ?_
  simp [scanNumber, hspan, hdot, exponentPart?_of_endsToken hrest, hvalue]

open Json in
/-- The manifest of a new strategy is a plain value, two levels deep: JSON text writes it and
reads it back unchanged. -/
theorem manifestTemplate_plain {name : String} (h : isStrategyName name = true) :
    Plain 2 (manifestTemplate name).toValue := by
  have hall := (isStrategyName_chars h).1
  have hname : ∀ c ∈ name.toList, plainChar c = true :=
    fun c hc => plainChar_of_nameChar (hall c hc)
  have hlit : ∀ c ∈ " strategy scaffold".toList, plainChar c = true :=
    List.all_eq_true.1 (by decide)
  have hdesc : ∀ c ∈ (name ++ " strategy scaffold").toList, plainChar c = true := by
    intro c hc
    rw [String.toList_append, List.mem_append] at hc
    exact hc.elim (hname c) (hlit c)
  refine .object 1 _ ?_ ?_ ?_
  · intro e he
    simp only [List.mem_cons, List.not_mem_nil, or_false] at he
    rcases he with rfl | rfl | rfl | rfl | rfl | rfl | rfl | rfl | rfl | rfl <;>
      exact ⟨_, rfl, List.all_eq_true.1 (by decide)⟩
  · simp
  · intro e he
    simp only [manifestTemplate, List.mem_cons, List.not_mem_nil,
      or_false] at he
    rcases he with rfl | rfl | rfl | rfl | rfl | rfl | rfl | rfl | rfl | rfl
    · exact .str 1 _ hname
    · exact .str 1 _ (List.all_eq_true.1 (by decide))
    · exact .str 1 _ hdesc
    · exact .list 0 _ (by simp; exact .str 0 _ (List.all_eq_true.1 (by decide)))
    · exact .list 0 _ (by simp; exact .str 0 _ (List.all_eq_true.1 (by decide)))
    · exact .str 1 _ (List.all_eq_true.1 (by decide))
    · exact .str 1 _ (List.all_eq_true.1 (by decide))
    · refine .object 0 _ ?_ (by simp) ?_
      · intro e he
        simp only [List.mem_cons, List.not_mem_nil, or_false] at he
        rcases he with rfl | rfl | rfl <;> exact ⟨_, rfl, List.all_eq_true.1 (by decide)⟩
      · intro e he
        simp only [List.mem_cons, List.not_mem_nil, or_false] at he
        rcases he with rfl | rfl | rfl
        · exact .str 0 _ (List.all_eq_true.1 (by decide))
        · exact .int 0 _ (by decide)
        · exact .int 0 _ (by decide)
    · refine .object 0 _ ?_ (by simp) ?_
      · intro e he
        simp only [List.mem_cons, List.not_mem_nil, or_false] at he
        rcases he with rfl | rfl | rfl <;> exact ⟨_, rfl, List.all_eq_true.1 (by decide)⟩
      · intro e he
        simp only [List.mem_cons, List.not_mem_nil, or_false] at he
        rcases he with rfl | rfl | rfl
        · exact .str 0 _ (List.all_eq_true.1 (by decide))
        · exact .int 0 _ (by decide)
        · exact .int 0 _ (by decide)
    · refine .object 0 _ ?_ (by simp) ?_
      · intro e he
        simp only [List.mem_cons, List.not_mem_nil, or_false] at he
        rcases he with rfl | rfl <;> exact ⟨_, rfl, List.all_eq_true.1 (by decide)⟩
      · intro e he
        simp only [List.mem_cons, List.not_mem_nil, or_false] at he
        rcases he with rfl | rfl
        · exact .float 0 _ readsBack_twoPointFive
        · exact .int 0 _ (by decide)

end PineCheck
