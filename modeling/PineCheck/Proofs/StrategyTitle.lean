import PineCheck.Scaffold
import PineCheck.Proofs.PhysicalLines
import PineCheck.Proofs.Statements
import PineCheck.Proofs.Ceilings
/-!
# The title of a new strategy on its declaration line

A new strategy's title goes into its declaration line, the second line of its script. A
strategy name may end with one line feed, and the cut at hyphens keeps that line feed in the
last part. So the title of a name that ends with a hyphen and a line feed is the title of the
name before them, a blank and the line feed (`strategyTitle_append_hyphen_newline`): the line
feed ends the declaration line right after the blank, and the linter reports the blank as
trailing whitespace, an error, whatever else it finds in the script
(`strategyTemplate_hyphen_newline_trailing_blank`).

Apart from that last line feed a strategy name has none, and no name character becomes one
when its case changes, so the title of the rest of the name has no line feed
(`newline_not_mem_strategyTitle`): the script's first two lines are the version line and the
declaration line cut after the blank.
-/

namespace PineCheck

/-! ## Titles -/

/-- Only a line feed becomes a line feed in upper case. -/
theorem toUpper_eq_newline {c : Char} (h : c.toUpper = '\n') : c = '\n' := by
  unfold Char.toUpper at h
  split at h
  · -- a lower-case letter moves down by 32, into the upper-case letters
    rename_i hc
    have hval := congrArg (fun c : Char => c.val.toNat) h
    have hlow : 97 ≤ c.toNat := UInt32.le_iff_toNat_le.1 hc.1
    have hhigh : c.toNat ≤ 122 := UInt32.le_iff_toNat_le.1 hc.2
    simp at hval
    omega
  · exact h

/-- Only a line feed becomes a line feed in lower case. -/
theorem toLower_eq_newline {c : Char} (h : c.toLower = '\n') : c = '\n' := by
  unfold Char.toLower at h
  split at h
  · rename_i hc
    have hval := congrArg (fun c : Char => c.val.toNat) h
    have hlow : 65 ≤ c.toNat := UInt32.le_iff_toNat_le.1 hc.1
    have hhigh : c.toNat ≤ 90 := UInt32.le_iff_toNat_le.1 hc.2
    simp at hval
    omega
  · exact h

/-- A capitalized word's characters are its own, in upper or lower case. -/
theorem mem_capitalize {c : Char} {word : List Char} (h : c ∈ capitalize word) :
    ∃ a ∈ word, c = a.toUpper ∨ c = a.toLower := by
  cases word with
  | nil => simp [capitalize] at h
  | cons a rest =>
    rcases List.mem_cons.1 h with rfl | h
    · exact ⟨a, List.mem_cons_self, .inl rfl⟩
    · obtain ⟨b, hb, rfl⟩ := List.mem_map.1 h
      exact ⟨b, List.mem_cons_of_mem _ hb, .inr rfl⟩

/-- A character of texts joined by a separator is one of the separator's or one of a text's. -/
theorem mem_intercalate {α : Type} {sep : List α} {xs : List (List α)} {c : α}
    (h : c ∈ List.intercalate sep xs) : c ∈ sep ∨ ∃ x ∈ xs, c ∈ x := by
  induction xs with
  | nil => simp at h
  | cons x xs ih =>
    cases xs with
    | nil => exact .inr ⟨x, List.mem_cons_self, by simpa using h⟩
    | cons y ys =>
      rw [List.intercalate_cons_cons, List.mem_append, List.mem_append] at h
      rcases h with (h | h) | h
      · exact .inr ⟨x, List.mem_cons_self, h⟩
      · exact .inl h
      · rcases ih h with h | ⟨z, hz, hc⟩
        · exact .inl h
        · exact .inr ⟨z, List.mem_cons_of_mem _ hz, hc⟩

/-- Joining one more text at the end adds the separator and the text. -/
theorem intercalate_append_singleton {α : Type} {sep : List α} {xs : List (List α)}
    (hxs : xs ≠ []) (y : List α) :
    List.intercalate sep (xs ++ [y]) = List.intercalate sep xs ++ sep ++ y := by
  induction xs with
  | nil => exact absurd rfl hxs
  | cons x xs ih =>
    cases xs with
    | nil => simp
    | cons x' xs' =>
      rw [List.cons_append, List.cons_append, List.intercalate_cons_cons, ← List.cons_append,
        ih (List.cons_ne_nil _ _), List.intercalate_cons_cons]
      simp only [List.append_assoc]

/-- A strategy's title is the name's hyphen-separated parts that are not empty, each capitalized,
joined by blanks. -/
theorem strategyTitle_toList (name : String) :
    (strategyTitle name).toList =
      List.intercalate [' '] (((splitAt '-' name.toList).filter (!·.isEmpty)).map capitalize) :=
  String.toList_ofList

/-- A title has a line feed only where its name has one. -/
theorem newline_not_mem_strategyTitle {name : String} (h : '\n' ∉ name.toList) :
    '\n' ∉ (strategyTitle name).toList := by
  rw [strategyTitle_toList]
  intro hmem
  rcases mem_intercalate hmem with hsep | ⟨word, hword, hc⟩
  · simp at hsep
  · obtain ⟨piece, hpiece, rfl⟩ := List.mem_map.1 hword
    obtain ⟨a, ha, hup | hlow⟩ := mem_capitalize hc
    · exact h (toUpper_eq_newline hup.symm ▸ mem_of_mem_splitAt (List.mem_filter.1 hpiece).1 ha)
    · exact h (toLower_eq_newline hlow.symm ▸ mem_of_mem_splitAt (List.mem_filter.1 hpiece).1 ha)

/-- **A hyphen and a line feed at the end of a name** add a blank and the line feed to the
title of the rest, as long as the rest has a word. -/
theorem strategyTitle_append_hyphen_newline {body : String} (hword : ∃ c ∈ body.toList, c ≠ '-') :
    (strategyTitle (body ++ "-\n")).toList = (strategyTitle body).toList ++ [' ', '\n'] := by
  obtain ⟨c, hc, hne⟩ := hword
  obtain ⟨piece, hpiece, hcp⟩ := exists_mem_splitAt hc hne
  have hwords : ((splitAt '-' body.toList).filter (!·.isEmpty)).map capitalize ≠ [] := by
    intro hnil
    rw [List.map_eq_nil_iff, List.filter_eq_nil_iff] at hnil
    have := hnil piece hpiece
    simp_all
  have hlast : ('\n').toUpper = '\n' := by decide
  rw [strategyTitle_toList, strategyTitle_toList, String.toList_append,
    show "-\n".toList = '-' :: ['\n'] from rfl, splitAt_append_cons_sep,
    splitAt_of_not_mem (by decide : '-' ∉ ['\n']), List.filter_append, List.map_append]
  simp only [List.filter_cons, List.isEmpty_cons, Bool.not_false, if_true, List.filter_nil,
    List.map_cons, List.map_nil, capitalize, hlast]
  rw [intercalate_append_singleton hwords, List.append_assoc]
  rfl

/-! ## The findings on a line of the pass -/

/-- Blank characters at the end of a line with some other character are reported on it. -/
theorem exists_trailingSpace_classify (n : Nat) {x : List Char} (hx : Text.allBlank x = false)
    {b : Char} (hb : Text.isBlank b = true) :
    ∃ d ∈ (Line.classify n (x ++ [b])).trailingSpaceFinding, d.code = .trailingSpace ∧ d.line = n := by
  have hall : Text.allBlank (x ++ [b]) = false := by
    rw [Text.allBlank, List.all_append, ← Text.allBlank, hx, Bool.false_and]
  have hkind : ((Line.classify n (x ++ [b])).kind == .blank) = false := by
    simp only [Line.classify, hall, Bool.false_eq_true, if_false]
    split <;> rfl
  -- the blank at the end starts a run of blanks
  have hrun : ((x ++ [b]).reverse.takeWhile Text.isBlank).length ≠ 0 := by
    rw [List.reverse_append, List.reverse_singleton, List.singleton_append, List.takeWhile_cons,
      if_pos hb, List.length_cons]
    exact Nat.succ_ne_zero _
  unfold Line.trailingSpaceFinding
  rw [hkind, if_neg Bool.false_ne_true, if_neg (by simpa [Line.classify] using hrun)]
  exact ⟨_, List.mem_singleton_self _, rfl, rfl⟩

namespace Pass

variable (s : Settings) (p : Pass) (l : Line)

/-- A step keeps the findings so far and adds those of the text rules on its line first. -/
theorem found_prefix_step :
    p.found ++ textFindings s l (p.tally.firstNonblank.isNone && l.kind != .blank) <+:
      (p.step s l).found := by
  cases hcode : l.isCode
  · -- the flat file's prefix relation is reflexive for rw, so the step is rewritten by hand
    rewrite [step_of_not_code s p l hcode]
    exact List.prefix_refl _
  · rw [step_of_code s p l hcode]
    simp only [List.append_assoc]
    exact (List.prefix_append_right_inj _).2 (List.prefix_append _ _)

/-- A step reports the trailing blanks of its line. -/
theorem trailingSpaceFinding_subset_step : l.trailingSpaceFinding ⊆ (p.step s l).found := by
  intro d hd
  apply (found_prefix_step s p l).subset
  unfold textFindings
  simp [hd]

/-- The findings of a pass only grow. -/
theorem found_prefix_foldl (ls : List Line) : p.found <+: (ls.foldl (Pass.step s) p).found := by
  induction ls generalizing p with
  | nil => exact List.prefix_refl _
  | cons l ls ih =>
    exact (List.prefix_append _ _).trans ((found_prefix_step s p l).trans (ih (p.step s l)))

end Pass

/-- A finding of the pass over a text's lines is in its report. -/
theorem mem_lintContent_of_mem_found {s : Settings} {content : List Char} {d : Diagnostic}
    (h : d ∈ (runPass s (classifyLines content)).found) : d ∈ lintContent s content := by
  unfold lintContent Pass.finish sortByLine
  simp [List.mem_mergeSort, h]

/-! ## The declaration line of a new strategy -/

/-- A new strategy's script is the version line, then the declaration line with the title, then the
body. -/
theorem strategyTemplate_toList (name : String) :
    (strategyTemplate name).toList =
      "//@version=6".toList ++ '\n' ::
        ("strategy(\"".toList ++ (strategyTitle name).toList ++
          (" v6\", overlay=true, pyramiding=0, process_orders_on_close=true, calc_on_every_tick=false)\n" ++
            strategyBody).toList) := by
  simp only [strategyTemplate, strategyDeclaration, String.toList_append, List.append_assoc]
  rfl

/-- A strategy name's characters are no line feed but its last. -/
theorem newline_not_mem_of_isStrategyName_append {body : String}
    (h : isStrategyName (body ++ "-\n") = true) : '\n' ∉ body.toList := by
  intro hmem
  unfold isStrategyName at h
  rw [String.toList_append, show "-\n".toList = ['-', '\n'] from rfl] at h
  simp at h
  exact absurd (h.1 '\n' hmem) (by decide)

/-- **A name that ends with a hyphen and a line feed gives a script that fails the lint.**
Take a strategy name made of a text with a letter or digit, a hyphen and a line feed. The
declaration line of its script ends with a blank, and the report of the default settings on
the script has the trailing-whitespace error on line 2. -/
theorem strategyTemplate_hyphen_newline_trailing_blank (body : String)
    (hname : isStrategyName (body ++ "-\n") = true) (hword : ∃ c ∈ body.toList, c ≠ '-') :
    ∃ ds, lintText Settings.default (strategyTemplate (body ++ "-\n")).toList = .ok ds ∧
      ∃ d ∈ ds, d.code = .trailingSpace ∧ d.line = 2 ∧ d.isError = true := by
  have hbody := newline_not_mem_of_isStrategyName_append hname
  -- the title, a blank and the line feed end the declaration line
  have hdecl : "strategy(\"".toList ++ (strategyTitle (body ++ "-\n")).toList ++
      (" v6\", overlay=true, pyramiding=0, process_orders_on_close=true, calc_on_every_tick=false)\n" ++
        strategyBody).toList =
      ("strategy(\"".toList ++ (strategyTitle body).toList ++ [' ']) ++ '\n' ::
        (" v6\", overlay=true, pyramiding=0, process_orders_on_close=true, calc_on_every_tick=false)\n" ++
          strategyBody).toList := by
    rw [strategyTitle_append_hyphen_newline hword]
    simp only [List.append_assoc, List.cons_append, List.nil_append]
  have hdeclNl : '\n' ∉ "strategy(\"".toList ++ (strategyTitle body).toList ++ [' '] := by
    simp only [List.mem_append, not_or]
    exact ⟨⟨by decide, newline_not_mem_strategyTitle hbody⟩, by decide⟩
  obtain ⟨ls, hlines⟩ : ∃ ls, classifyLines (strategyTemplate (body ++ "-\n")).toList =
      Line.classify 1 "//@version=6".toList ::
        Line.classify 2 ("strategy(\"".toList ++ (strategyTitle body).toList ++ [' ']) :: ls := by
    have hrest : (" v6\", overlay=true, pyramiding=0, process_orders_on_close=true, calc_on_every_tick=false)\n" ++
        strategyBody).toList ≠ [] := by
      simp [String.toList_append]
    rw [strategyTemplate_toList, hdecl, classifyLines_line_append (by decide) (by simp),
      classifyLines_line_append hdeclNl hrest, List.map_cons, Line.classify_renumber,
      dropCarriageReturn_of_getLast? (by decide),
      dropCarriageReturn_of_getLast? (by rw [List.getLast?_concat]; decide)]
    exact ⟨_, rfl⟩
  obtain ⟨d, hd, hcode, hline⟩ := exists_trailingSpace_classify 2
    (x := "strategy(\"".toList ++ (strategyTitle body).toList)
    (by rw [Text.allBlank, List.all_append, show "strategy(\"".toList.all Text.isBlank = false by decide,
      Bool.false_and])
    (b := ' ') rfl
  refine ⟨_, lintText_default _, d, ?_, hcode, hline, by simp [Diagnostic.isError,
    Diagnostic.severity, hcode, Code.severity]⟩
  apply mem_lintContent_of_mem_found
  rw [hlines, runPass, List.foldl_cons, List.foldl_cons]
  exact (Pass.found_prefix_foldl _ _ _).subset (Pass.trailingSpaceFinding_subset_step _ _ _ hd)

/-- `strategyTemplate_hyphen_newline_trailing_blank` on the name "a-" and a line feed. -/
theorem strategyTemplate_a_hyphen_newline_trailing_blank :
    isStrategyName ("a" ++ "-\n") = true ∧ (∃ c ∈ "a".toList, c ≠ '-') ∧
      ∃ ds, lintText Settings.default (strategyTemplate ("a" ++ "-\n")).toList = .ok ds ∧
        ∃ d ∈ ds, d.code = .trailingSpace ∧ d.line = 2 ∧ d.isError = true :=
  have hname : isStrategyName ("a" ++ "-\n") = true := by decide
  have hword : ∃ c ∈ "a".toList, c ≠ '-' := ⟨'a', by decide, by decide⟩
  ⟨hname, hword, strategyTemplate_hyphen_newline_trailing_blank "a" hname hword⟩

end PineCheck
