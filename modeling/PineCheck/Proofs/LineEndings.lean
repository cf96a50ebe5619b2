import PineCheck.Proofs.Places
import PineCheck.Proofs.Coupling
import PineCheck.Proofs.PhysicalLines
/-!
# Carriage returns at line ends

A file written with carriage return and line feed at the end of each line is read as the
same lines as the file with line feeds alone: cutting at line feeds leaves a carriage return
at the end of every line but the last, and each line loses one carriage return at its end
(`physicalLines_withCrlf`). The only rule that looks at the raw text for carriage returns is
the first precondition, so such a file gets the report of the other with one finding more,
the carriage-return finding on line 1, which sorts before every other finding because no
finding points before line 1 (`one_le_line_of_mem_lineLevel`).

Main statement: `crlf_line_ends_reported_once`.
-/

namespace PineCheck

/-- A text with every line feed written as a carriage return and a line feed. -/
def withCrlf (content : List Char) : List Char :=
  content.flatMap fun c => if c = '\n' then ['\r', '\n'] else [c]

/-- An empty text has no line end to rewrite. -/
@[simp] theorem withCrlf_nil : withCrlf [] = [] := rfl

/-- Each line feed is written as a carriage return and a line feed, every other character as itself.
-/
@[simp] theorem withCrlf_cons (c : Char) (cs : List Char) :
    withCrlf (c :: cs) = (if c = '\n' then ['\r', '\n'] else [c]) ++ withCrlf cs := rfl

/-- Rewriting line ends keeps the last character. -/
theorem getLast?_withCrlf (content : List Char) :
    (withCrlf content).getLast? = content.getLast? := by
  induction content with
  | nil => rfl
  | cons c cs ih =>
    rw [withCrlf_cons, List.getLast?_append, ih, List.getLast?_cons]
    cases cs.getLast? with
    | none => by_cases hc : c = '\n' <;> simp [hc]
    | some y => rfl

/-- A text with a line feed has a carriage return once its line ends are rewritten. -/
theorem mem_withCrlf_of_newline {content : List Char} (h : '\n' ∈ content) :
    '\r' ∈ withCrlf content :=
  List.mem_flatMap.2 ⟨'\n', h, by simp⟩

/-! ## Cutting into lines -/

/-- **Cutting a text with carriage returns before its line feeds**, and dropping one carriage
return at the end of each piece, gives the pieces of the text without them. -/
theorem map_dropCarriageReturn_splitAt_withCrlf {content : List Char} (h : '\r' ∉ content) :
    (splitAt '\n' (withCrlf content)).map dropCarriageReturn = splitAt '\n' content := by
  induction content with
  | nil => rfl
  | cons c cs ih =>
    have ih := ih (fun hm => h (List.mem_cons_of_mem _ hm))
    by_cases hc : c = '\n'
    · -- the line feed ends a piece, which then ends in the carriage return before it
      subst hc
      have hsplit : splitAt '\n' ('\r' :: '\n' :: withCrlf cs) =
          ['\r'] :: splitAt '\n' (withCrlf cs) :=
        splitAt_cons_of_ne (by decide) (by rw [splitAt, if_pos (by decide)])
      rw [withCrlf_cons, if_pos rfl, List.cons_append, List.cons_append, List.nil_append, hsplit,
        List.map_cons, ih, splitAt, if_pos (by decide)]
      rfl
    · have hcr : c ≠ '\r' := fun hcr => h (hcr ▸ List.mem_cons_self)
      obtain ⟨p, ps, hsplit⟩ := List.exists_cons_of_ne_nil (splitAt_ne_nil '\n' (withCrlf cs))
      rw [hsplit, List.map_cons] at ih
      rw [withCrlf_cons, if_neg hc, List.singleton_append, splitAt_cons_of_ne hc hsplit,
        List.map_cons, dropCarriageReturn_cons hcr, splitAt_cons_of_ne hc ih.symm]

/-- **A file with carriage returns before its line feeds has the same lines.** -/
theorem physicalLines_withCrlf {content : List Char} (h : '\r' ∉ content) :
    physicalLines (withCrlf content) = physicalLines content := by
  -- no piece of the file without carriage returns has one to drop
  have hkeep : ∀ pieces : List (List Char), (∀ p ∈ pieces, p ∈ splitAt '\n' content) →
      pieces.map dropCarriageReturn = pieces := by
    intro pieces hpieces
    rw [List.map_congr_left fun p hp =>
      dropCarriageReturn_of_not_mem fun hr => h (mem_of_mem_splitAt (hpieces p hp) hr), List.map_id']
  unfold physicalLines
  dsimp only
  rw [getLast?_withCrlf]
  split
  · rw [List.map_dropLast, map_dropCarriageReturn_splitAt_withCrlf h,
      hkeep _ fun p hp => List.dropLast_subset _ hp]
  · rw [map_dropCarriageReturn_splitAt_withCrlf h, hkeep _ fun p hp => hp]

/-! ## The report -/

/-- The finding for carriage returns in a file. -/
def newlineFinding : Diagnostic :=
  Diagnostic.make .newline "Use Unix newlines (no CR characters)." 1 1

/-- The preconditions of a text with CRLF line ends are those of its LF form, with the
carriage-return finding in front. -/
theorem preconditionFindings_withCrlf {content : List Char} (hcr : '\r' ∉ content)
    (hlf : '\n' ∈ content) :
    preconditionFindings (withCrlf content) = newlineFinding :: preconditionFindings content := by
  unfold preconditionFindings
  rw [physicalLines_withCrlf hcr, getLast?_withCrlf]
  have hwith : (withCrlf content).contains '\r' = true :=
    List.contains_iff_mem.2 (mem_withCrlf_of_newline hlf)
  have hwithout : content.contains '\r' = false := by
    rw [Bool.eq_false_iff]
    exact fun hc => hcr (List.contains_iff_mem.1 hc)
  simp only [hwith, hwithout, if_true, Bool.false_eq_true, if_false, List.nil_append]
  rfl

/-- Sorting by line puts first a finding that no other finding comes before. -/
theorem sortByLine_cons_of_le {d : Diagnostic} {ds : List Diagnostic}
    (h : ∀ e ∈ ds, d.line ≤ e.line) : sortByLine (d :: ds) = d :: sortByLine ds := by
  rw [sortByLine_cons]
  exact Thinned.orderedInsert_of_forall_le Diagnostic.line fun z hz =>
    h z (List.mem_mergeSort.1 hz)

/-- The report on a text with CRLF line ends is the report on its LF form, with the carriage-return
finding in front. -/
theorem lintContent_withCrlf (s : Settings) {content : List Char} (hcr : '\r' ∉ content)
    (hlf : '\n' ∈ content) :
    lintContent s (withCrlf content) = newlineFinding :: lintContent s content := by
  have hlines : classifyLines (withCrlf content) = classifyLines content := by
    unfold classifyLines
    rw [physicalLines_withCrlf hcr]
  unfold lintContent
  dsimp only
  rw [hlines, preconditionFindings_withCrlf hcr hlf, List.cons_append, List.cons_append,
    sortByLine_cons_of_le fun e he => one_le_line_of_mem_lineLevel s content he, List.cons_append]

/-- **Carriage returns at line ends are reported once.** Write every line feed of a text
that has one and no carriage return as a carriage return and a line feed. The file has the
same lines, and linting it fails as linting the text does, or gives the text's report with
one finding in front of it: the carriage-return error at line 1, column 1. -/
theorem crlf_line_ends_reported_once (s : Settings) {content : List Char}
    (hcr : '\r' ∉ content) (hlf : '\n' ∈ content) :
    physicalLines (withCrlf content) = physicalLines content ∧
      lintText s (withCrlf content) = (lintText s content).map (newlineFinding :: ·) := by
  refine ⟨physicalLines_withCrlf hcr, ?_⟩
  have hquiet : (writtenSetting s newlineFinding.code).any tooLongToWrite = false := rfl
  rw [lintText_eq, lintText_eq, lintContent_withCrlf s hcr hlf, List.any_cons, hquiet,
    Bool.false_or]
  split_ifs <;> rfl

/-- `crlf_line_ends_reported_once` on a two-line script. -/
theorem crlf_line_ends_reported_once_script :
    '\r' ∉ "//@version=6\nstrategy(\"s\")\n".toList ∧ '\n' ∈ "//@version=6\nstrategy(\"s\")\n".toList ∧
    physicalLines (withCrlf "//@version=6\nstrategy(\"s\")\n".toList) =
        physicalLines "//@version=6\nstrategy(\"s\")\n".toList ∧
      lintText Settings.default (withCrlf "//@version=6\nstrategy(\"s\")\n".toList) =
        (lintText Settings.default "//@version=6\nstrategy(\"s\")\n".toList).map
          (newlineFinding :: ·) :=
  have hcr : '\r' ∉ "//@version=6\nstrategy(\"s\")\n".toList := by decide
  have hlf : '\n' ∈ "//@version=6\nstrategy(\"s\")\n".toList := by decide
  ⟨hcr, hlf, crlf_line_ends_reported_once Settings.default hcr hlf⟩

end PineCheck
