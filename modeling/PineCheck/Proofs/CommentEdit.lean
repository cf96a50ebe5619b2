import Mathlib.Data.List.TakeWhile
import PineCheck.Proofs.InsertedLine
import PineCheck.Proofs.CallArguments
/-!
# An end-of-line comment changes nothing but its own line's blanks

Give a code line with code `k` another comment at its end: its text becomes `k ++ c` for a
comment `c` that the cut at `//` takes off again (`CommentSuffix`). A carriage return that ends
the line before its line feed, as in a file with CRLF line ends, is dropped when the line is
read, with either comment (`CommentSuffix.dropCarriageReturn`). The line keeps its number,
code, indent and kind; only its text changes (`Line.retext`). Every rule but the text rules
reads a line through those four, and the pass keeps whole lines, so the generalized
renumbering of the pass (`Pass.Mapped`, with the identity on line numbers) carries the pass
over to the line with its new text, with its findings compared after leaving out the tabs and
trailing blanks of that line (`AgreeOffComment`).

The text rules on a code line find tabs, trailing blanks and, on the first line that is not
blank, a missing version. A code line never reads as a version line, whatever it ends in
(`trimBlank_ne_comment`): the version check gives the same finding on both texts, and the
tally counts no version line on either. The bracket check reads the code only, and the
preconditions the text only for the column of a missing line feed at the end of the file,
which points past the end of the last line (`hideEndColumn_preconditionFindings`).

So linting the text with either comment fails alike or gives reports that agree once the
tabs and trailing blanks of that line are left out and the column of a missing final line
feed on it is forgotten (`commentBlind`, `commentEdit_keeps_report`).
-/

namespace PineCheck

open Script Text
open scoped List

/-! ## A code line does not read as a comment -/

/-- A character other than `/` is kept by the cut at `//`, and the cut goes on after it. -/
theorem stripComment_cons_of_ne {c : Char} (hc : c ≠ '/') (x : List Char) :
    stripComment (c :: x) = c :: stripComment x := by
  rw [stripComment.eq_def]
  split
  · next h => exact absurd (List.cons.inj h).1 hc
  · next h =>
    obtain ⟨rfl, rfl⟩ := List.cons.inj h
    rfl
  · next h => cases h

/-- Blanks at the start of a line are kept by the cut at `//`. -/
theorem stripComment_append_of_blank {b : List Char} (hb : ∀ c ∈ b, isBlank c = true)
    (x : List Char) : stripComment (b ++ x) = b ++ stripComment x := by
  induction b with
  | nil => rfl
  | cons c b ih =>
    have hc : c ≠ '/' := by
      rintro rfl
      exact absurd (hb '/' List.mem_cons_self) (by decide)
    rw [List.cons_append, stripComment_cons_of_ne hc,
      ih fun d hd => hb d (List.mem_cons_of_mem _ hd), List.cons_append]

/-- Dropping the blanks at the end of a text leaves a prefix of it. -/
theorem isPrefix_dropBlankEnd (x : List Char) : dropBlankEnd x <+: x := by
  unfold dropBlankEnd
  rw [← List.reverse_suffix, List.reverse_reverse]
  exact List.dropWhile_suffix _

/-- **A code line does not start with a comment**, once trimmed: the comment would leave
only the blanks in front of it as code. -/
theorem trimBlank_ne_comment {text : List Char} (h : allBlank (stripComment text) = false)
    (rest : List Char) : trimBlank text ≠ '/' :: '/' :: rest := by
  intro htrim
  obtain ⟨tail, htail⟩ := isPrefix_dropBlankEnd (dropBlank text)
  rw [show dropBlankEnd (dropBlank text) = trimBlank text from rfl, htrim] at htail
  -- the text is its leading blanks and then the comment
  have hsplit : text = text.takeWhile isBlank ++ dropBlank text :=
    List.takeWhile_append_dropWhile.symm
  have hblank : ∀ c ∈ text.takeWhile isBlank, isBlank c = true :=
    fun c hc => List.mem_takeWhile_imp hc
  rw [hsplit, stripComment_append_of_blank hblank, ← htail] at h
  have hnil : stripComment ('/' :: '/' :: rest ++ tail) = [] := rfl
  rw [hnil, List.append_nil] at h
  unfold allBlank at h
  obtain ⟨c, hc, hnot⟩ := List.all_eq_false.1 h
  exact absurd (hblank c hc) (by simp [hnot])

/-- The version line's prefix starts with `//`. -/
theorem versionPrefix_toList : "//@version=".toList = '/' :: '/' :: "@version=".toList := by
  decide

/-- A code line, trimmed, does not start with the version line's prefix. -/
theorem trimBlank_ne_versionPrefix {text : List Char} (h : allBlank (stripComment text) = false)
    (rest : List Char) : trimBlank text ≠ "//@version=".toList ++ rest := by
  rw [versionPrefix_toList, List.cons_append, List.cons_append]
  exact trimBlank_ne_comment h _

/-- A code line is never read as a version line. -/
theorem isVersionLine_trimBlank_of_code {text : List Char}
    (h : allBlank (stripComment text) = false) : isVersionLine (trimBlank text) = false := by
  unfold isVersionLine
  cases hp : afterPrefix "//@version=".toList (trimBlank text) with
  | none => rfl
  | some ds => exact absurd (eq_append_of_afterPrefix hp) (trimBlank_ne_versionPrefix h ds)

/-- On a code line the version check finds a missing version, whatever comment the line ends
in. -/
theorem versionFinding_of_code (s : Settings) {l : Line}
    (h : allBlank (stripComment l.text) = false) :
    versionFinding s l = [Diagnostic.make .version
      ("First non-empty line must declare " ++ versionMarker s ++ ".") l.number 1] := by
  have hmarker : (versionMarker s).toList = "//@version=".toList ++ (toString s.version).toList := by
    unfold versionMarker
    rw [String.toList_append]
  unfold versionFinding
  dsimp only
  rw [if_neg, if_neg]
  · rw [List.isPrefixOf_iff_prefix]
    rintro ⟨t, ht⟩
    exact trimBlank_ne_versionPrefix h t ht.symm
  · rw [beq_iff_eq, hmarker]
    exact trimBlank_ne_versionPrefix h _

/-! ## A comment after the code -/

/-- `c` is an end-of-line comment after the code `k`: it stays on the line, and the cut at
`//` takes it off again. -/
structure CommentSuffix (k c : List Char) : Prop where
  noNewline : '\n' ∉ c
  noReturn : '\r' ∉ c
  cut : stripComment (k ++ c) = k

/-- The first run of characters with a property stops inside `k` when some character of `k` lacks
it, whatever follows `k`. -/
theorem takeWhile_append_of_all_eq_false {p : Char → Bool} {k : List Char} (h : k.all p = false)
    (c : List Char) : (k ++ c).takeWhile p = k.takeWhile p := by
  induction k with
  | nil => cases h
  | cons a k ih =>
    cases ha : p a
    · rw [List.cons_append, List.takeWhile_cons_of_neg (by simp [ha]),
        List.takeWhile_cons_of_neg (by simp [ha])]
    · rw [List.all_cons, ha, Bool.true_and] at h
      rw [List.cons_append, List.takeWhile_cons_of_pos ha, List.takeWhile_cons_of_pos ha, ih h]

/-- A line written as code, comment and line end reads back as code and comment: the line end
is a carriage return, which the reading drops, or nothing, when the code does not end in a
carriage return that the reading would take for one. -/
theorem CommentSuffix.dropCarriageReturn {k c e : List Char} (hc : CommentSuffix k c)
    (he : e = [] ∨ e = ['\r']) (hkr : e = [] → k.getLast? ≠ some '\r') :
    dropCarriageReturn (k ++ c ++ e) = k ++ c := by
  rcases he with rfl | rfl
  · rw [List.append_nil]
    apply dropCarriageReturn_of_getLast?
    rw [List.getLast?_append]
    cases hcl : c.getLast? with
    | none => exact hkr rfl
    | some a =>
      have ha : a ≠ '\r' := fun h => hc.noReturn (h ▸ List.mem_of_getLast? hcl)
      simpa using ha
  · unfold PineCheck.dropCarriageReturn
    rw [List.getLast?_concat, beq_self_eq_true, if_pos rfl, List.dropLast_concat]

/-- A code line ending in a comment is classified by its code, but for its text. -/
theorem classify_commentSuffix {k c : List Char} (hk : allBlank k = false)
    (hc : CommentSuffix k c) (n : Nat) :
    Line.classify n (k ++ c) = ⟨n, k ++ c, k, (k.takeWhile isBlank).length, .code⟩ := by
  have hall : allBlank (k ++ c) = false := by
    unfold allBlank at hk ⊢
    rw [List.all_append, hk, Bool.false_and]
  unfold Line.classify
  dsimp only
  rw [hc.cut, hall, hk, takeWhile_append_of_all_eq_false hk]
  rfl

/-! ## The lines around a line -/

/-- A text with no line feed is one line, less a carriage return at its end. -/
theorem physicalLines_of_not_mem {x : List Char} (hn : '\n' ∉ x) :
    physicalLines x = [dropCarriageReturn x] := by
  have hlast : (x.getLast? == some '\n') = false :=
    beq_false_of_ne fun h => hn (List.mem_of_getLast? h)
  unfold physicalLines
  dsimp only
  rw [splitAt_of_not_mem hn, hlast, if_neg Bool.false_ne_true, List.map_singleton]

/-- **The physical lines around a line**: cut a text after the whole lines of `p` and before
the line feed that `r` starts with, and what stands between is one line of the text, less a
carriage return at its end, whatever it holds. -/
theorem physicalLines_middle {p r : List Char} (hp : p = [] ∨ p.getLast? = some '\n')
    (hr : r = [] ∨ r.head? = some '\n') :
    ∃ before after : List (List Char), before.length = p.count '\n' ∧
      ∀ x : List Char, x ≠ [] → '\n' ∉ x →
        physicalLines (p ++ x ++ r) = before ++ dropCarriageReturn x :: after := by
  -- the line and the lines after it
  obtain ⟨after, hafter⟩ : ∃ after : List (List Char), ∀ x : List Char, '\n' ∉ x →
      physicalLines (x ++ r) = dropCarriageReturn x :: after := by
    rcases hr with rfl | hr
    · exact ⟨[], fun x hn => by rw [List.append_nil, physicalLines_of_not_mem hn]⟩
    · obtain ⟨r', rfl⟩ : ∃ r', r = '\n' :: r' := by
        cases r with
        | nil => cases hr
        | cons a r' =>
          cases hr
          exact ⟨r', rfl⟩
      by_cases hr' : r' = []
      · subst hr'
        exact ⟨[], fun x hn => physicalLines_line hn⟩
      · exact ⟨physicalLines r', fun x hn => physicalLines_line_append hn hr'⟩
  rcases hp with rfl | hp
  · exact ⟨[], after, rfl, fun x _ hn => by
      rw [List.nil_append, hafter x hn, List.nil_append]⟩
  · refine ⟨physicalLines p, after, length_physicalLines hp, fun x hx hn => ?_⟩
    rw [List.append_assoc, physicalLines_append hp (by simp [hx]), hafter x hn]

/-- The classified lines of a text whose physical lines are cut around one line: those before,
numbered from 1, that line, and those after. -/
theorem classifyLines_of_physicalLines {content x : List Char} {before after : List (List Char)}
    (h : physicalLines content = before ++ x :: after) :
    classifyLines content =
      before.zipIdx.map (fun (text, i) => Line.classify (i + 1) text) ++
        Line.classify (before.length + 1) x ::
          (after.zipIdx (before.length + 1)).map fun (text, i) => Line.classify (i + 1) text := by
  unfold classifyLines
  rw [h, List.zipIdx_append, List.zipIdx_cons, List.map_append, List.map_cons, Nat.zero_add]

/-- The classified lines of texts with the same physical lines around one line differ only in
that line, and no other line has its number. -/
theorem classifyLines_middle (P R : List (List Char)) :
    ∃ before after : List Line, (∀ l ∈ before ++ after, l.number ≠ P.length + 1) ∧
      ∀ {c x : List Char}, physicalLines c = P ++ x :: R →
        classifyLines c = before ++ Line.classify (P.length + 1) x :: after := by
  refine ⟨P.zipIdx.map fun (text, i) => Line.classify (i + 1) text,
    (R.zipIdx (P.length + 1)).map fun (text, i) => Line.classify (i + 1) text, ?_,
    fun h => classifyLines_of_physicalLines h⟩
  intro l hl
  rcases List.mem_append.1 hl with hl | hl
  · obtain ⟨⟨text, i⟩, hmem, rfl⟩ := List.mem_map.1 hl
    have hi := (List.mem_zipIdx' hmem).1
    show i + 1 ≠ P.length + 1
    omega
  · obtain ⟨⟨text, i⟩, hmem, rfl⟩ := List.mem_map.1 hl
    have hi := (List.mem_zipIdx hmem).1
    show i + 1 ≠ P.length + 1
    omega

/-- Whether a text ends in a line feed does not read a line in it that holds none, unless the
line is the last. -/
theorem endsInNewline_middle {p x r : List Char} (hx : x ≠ []) (hn : '\n' ∉ x) :
    ((p ++ x ++ r).getLast? == some '\n') = (r.getLast? == some '\n') := by
  rw [List.getLast?_append, List.getLast?_append_of_ne_nil p hx]
  cases r.getLast? with
  | some a => rfl
  | none => exact beq_false_of_ne fun h => hn (List.mem_of_getLast? h)

/-! ## Changing the text of one line -/

/-- Line `n` with the text `text`; other lines as they are. -/
def Line.retext (n : Nat) (text : List Char) (l : Line) : Line :=
  if l.number = n then { l with text := text } else l

section Retext

variable {n : Nat} {text : List Char} {l : Line}

/-- Line `n` gets the new text. -/
theorem Line.retext_of_eq (h : l.number = n) : l.retext n text = { l with text := text } :=
  if_pos h

/-- Every other line keeps its text. -/
theorem Line.retext_of_ne (h : l.number ≠ n) : l.retext n text = l :=
  if_neg h

/-- A new text for a line keeps its number, code, indent and kind. -/
theorem Line.movesBy_retext (n : Nat) (text : List Char) : Line.MovesBy id (Line.retext n text) := by
  refine ⟨fun l => ?_, fun l => ?_, fun l => ?_, fun l => ?_⟩ <;> unfold Line.retext <;> split <;> rfl

/-- Lines that are not line `n` are left as they are. -/
theorem map_retext_of_ne {ls : List Line} (h : ∀ l ∈ ls, l.number ≠ n) :
    ls.map (Line.retext n text) = ls :=
  (List.map_congr_left fun l hl => Line.retext_of_ne (h l hl)).trans (List.map_id ls)

end Retext

/-! ## What a comment can change -/

namespace Diagnostic

/-- A tab or trailing blanks found on line `n`: what an end-of-line comment there can add or
take away. -/
def onCommentOf (n : Nat) (d : Diagnostic) : Bool :=
  d.line == n && (d.code == .tab || d.code == .trailingSpace)

/-- The finding with its column forgotten if it is a missing line feed at the end of line `n`,
which points just past the end of that line. -/
def hideEndColumn (n : Nat) (d : Diagnostic) : Diagnostic :=
  if d.line = n ∧ d.code = .noFinalNewline then { d with column := 0 } else d

/-- Forgetting a column keeps the finding's line. -/
@[simp] theorem hideEndColumn_line (n : Nat) (d : Diagnostic) :
    (d.hideEndColumn n).line = d.line := by
  unfold hideEndColumn
  split <;> rfl

/-- Forgetting a column keeps the finding's code. -/
@[simp] theorem hideEndColumn_code (n : Nat) (d : Diagnostic) :
    (d.hideEndColumn n).code = d.code := by
  unfold hideEndColumn
  split <;> rfl

/-- A missing final line feed reported on line `n` has its column forgotten, whatever it was. -/
theorem hideEndColumn_make (n : Nat) (m : String) (col : Nat) :
    (Diagnostic.make .noFinalNewline m n col).hideEndColumn n = ⟨n, 0, .noFinalNewline, m⟩ := by
  unfold hideEndColumn
  rw [if_pos ⟨rfl, rfl⟩]
  rfl

/-- A finding that reads no setting is neither a tab nor trailing blanks. -/
theorem onCommentOf_of_settingFree {d : Diagnostic} (h : d.code.settingFree = true) (n : Nat) :
    d.onCommentOf n = false := by
  unfold onCommentOf
  generalize d.code = c at h ⊢
  cases c <;> simp_all [Code.settingFree]

/-- A tab or trailing-blanks finding writes out no setting. -/
theorem writtenSetting_of_onCommentOf (s : Settings) {d : Diagnostic} {n : Nat}
    (h : d.onCommentOf n = true) : writtenSetting s d.code = none := by
  unfold onCommentOf at h
  generalize d.code = c at h ⊢
  cases c <;> simp_all [writtenSetting]

end Diagnostic

/-- What a report says beyond what an end-of-line comment on line `n` can change. -/
def commentBlind (n : Nat) (ds : List Diagnostic) : List Diagnostic :=
  (ds.filter fun d => !d.onCommentOf n).map (Diagnostic.hideEndColumn n)

/-- Leaving out what a comment can change goes finding by finding. -/
theorem commentBlind_append (n : Nat) (xs ys : List Diagnostic) :
    commentBlind n (xs ++ ys) = commentBlind n xs ++ commentBlind n ys := by
  unfold commentBlind
  rw [List.filter_append, List.map_append]

/-- Of findings that read no setting, leaving out what a comment can change only forgets the column
of a missing final line feed. -/
theorem commentBlind_of_settingFree {n : Nat} {ds : List Diagnostic}
    (h : ∀ d ∈ ds, d.code.settingFree = true) :
    commentBlind n ds = ds.map (Diagnostic.hideEndColumn n) := by
  unfold commentBlind
  rw [List.filter_eq_self.2 fun d hd => by rw [Diagnostic.onCommentOf_of_settingFree (h d hd)]; rfl]

/-- Sorting by line commutes with leaving findings out and with forgetting a column. -/
theorem commentBlind_sortByLine (n : Nat) (ds : List Diagnostic) :
    commentBlind n (sortByLine ds) = sortByLine (commentBlind n ds) := by
  have hfilter : ∀ (p : Diagnostic → Bool) (xs : List Diagnostic),
      sortByLine (xs.filter p) = (sortByLine xs).filter p := fun p xs =>
    Thinned.eq_filter ((Thinned.of_filter p xs).sortByLine fun h => by rw [h.2])
  have hmap : ∀ xs : List Diagnostic, sortByLine (xs.map (Diagnostic.hideEndColumn n)) =
      (sortByLine xs).map (Diagnostic.hideEndColumn n) := fun xs =>
    Thinned.eq_map ((Thinned.of_map _ xs).sortByLine fun h => by
      rw [h, Diagnostic.hideEndColumn_line])
  unfold commentBlind
  rw [hmap, hfilter]

/-- Whether a report fails the digit limit does not read what a comment can change. -/
theorem any_written_commentBlind (s : Settings) (n : Nat) (ds : List Diagnostic) :
    (commentBlind n ds).any (fun d => (writtenSetting s d.code).any tooLongToWrite) =
      ds.any fun d => (writtenSetting s d.code).any tooLongToWrite := by
  induction ds with
  | nil => rfl
  | cons d ds ih =>
    unfold commentBlind at ih ⊢
    cases hd : d.onCommentOf n
    · rw [List.filter_cons_of_pos (by simp [hd]), List.map_cons, List.any_cons, List.any_cons,
        Diagnostic.hideEndColumn_code, ih]
    · -- a tab or trailing blanks, which quote no setting
      rw [List.filter_cons_of_neg (by simp [hd]), ih, List.any_cons,
        Diagnostic.writtenSetting_of_onCommentOf s hd]
      rfl

/-- Two lists of findings agree but for the tabs and trailing blanks of line `n`. -/
def AgreeOffComment (n : Nat) (xs ys : List Diagnostic) : Prop :=
  xs.filter (fun d => !d.onCommentOf n) = ys.filter fun d => !d.onCommentOf n

/-- Findings that agree but for the tabs and trailing blanks of line `n` agree once what a comment
can change is left out. -/
theorem commentBlind_eq_of_agree {n : Nat} {xs ys : List Diagnostic}
    (h : AgreeOffComment n xs ys) : commentBlind n ys = commentBlind n xs := by
  unfold commentBlind
  rw [h]

/-- Agreement but for the tabs and trailing blanks of line `n` is carried along a pass: by findings
the same and by findings put after both. -/
theorem Pass.carries_agreeOffComment (n : Nat) : Pass.Carries id (AgreeOffComment n) := by
  refine ⟨fun h => ?_, fun h h' => ?_⟩
  · rw [eq_of_forall₂_renumbered_id h]
    rfl
  · unfold AgreeOffComment at h h' ⊢
    rw [List.filter_append, List.filter_append, h, h']

/-! ## The pass over a line with another text -/

/-- On a code line the text rules find nothing but tabs, trailing blanks and, on the first
line that is not blank, a missing version, whatever comment the line ends in. -/
theorem filter_textFindings (s : Settings) (l : Line) (b : Bool)
    (hcode : allBlank (stripComment l.text) = false) :
    (textFindings s l b).filter (fun d => !d.onCommentOf l.number) =
      if b then [Diagnostic.make .version
        ("First non-empty line must declare " ++ versionMarker s ++ ".") l.number 1] else [] := by
  have hoff : ∀ d ∈ (if s.disallowTabs then l.tabFinding else []) ++ l.trailingSpaceFinding,
      d.onCommentOf l.number = true := by
    intro d hd
    have hline := line_of_mem_textFindings (b := false) (List.mem_append_left _ hd)
    have hcodes : d.code = .tab ∨ d.code = .trailingSpace := by
      rcases List.mem_append.1 hd with hd | hd
      · split at hd
        · exact .inl (code_of_mem_tabFinding hd)
        · simp at hd
      · exact .inr (code_of_mem_trailingSpaceFinding hd)
    unfold Diagnostic.onCommentOf
    rcases hcodes with hc | hc <;> simp [hline, hc]
  unfold textFindings
  rw [List.filter_append, List.filter_eq_nil_iff.2 fun d hd => by simp [hoff d hd], List.nil_append]
  cases b
  · rfl
  · rw [if_pos rfl, if_pos rfl, versionFinding_of_code s hcode]
    simp [Diagnostic.onCommentOf]

/-- The tally reads the text of a line only to find the version line. -/
theorem Tally.observe_retext (t : Tally) (l : Line) {text : List Char}
    (h : isVersionLine (trimBlank text) = isVersionLine (trimBlank l.text)) :
    t.observe { l with text := text } = t.observe l := by
  unfold Tally.observe
  dsimp only
  rw [h]

/-- **A step of the pass reads a code line as it reads it with another comment**, but for its
tabs and trailing blanks. -/
theorem Pass.lineMoves_retext (s : Settings) {n : Nat} {text : List Char}
    (htext : allBlank (stripComment text) = false) {l : Line}
    (hl : l.number = n → allBlank (stripComment l.text) = false) :
    Pass.LineMoves id (Line.retext n text) (AgreeOffComment n) s l := by
  by_cases hn : l.number = n
  · have hcode := hl hn
    refine ⟨fun b => ?_, fun t => ?_⟩
    · unfold AgreeOffComment
      rw [Line.retext_of_eq hn, ← hn, filter_textFindings s l b hcode,
        filter_textFindings s { l with text := text } b htext]
    · rw [Line.retext_of_eq hn, Tally.renumber_id, Tally.renumber_id, Tally.observe_retext t l
        (by rw [isVersionLine_trimBlank_of_code htext, isVersionLine_trimBlank_of_code hcode])]
  · -- any other line is left as it is
    refine ⟨fun b => ?_, fun t => ?_⟩
    · rw [Line.retext_of_ne hn]
      rfl
    · rw [Line.retext_of_ne hn, Tally.renumber_id, Tally.renumber_id]

/-- **The pass with the text of a code line replaced** by another code text finds what it
found, but for the tabs and trailing blanks of that line, and tallies what it tallied. -/
theorem runPass_retext (s : Settings) {n : Nat} {text : List Char}
    (htext : allBlank (stripComment text) = false) {ls : List Line}
    (hls : ∀ l ∈ ls, l.number = n → allBlank (stripComment l.text) = false) :
    AgreeOffComment n ((runPass s ls).finish s)
        ((runPass s (ls.map (Line.retext n text))).finish s) ∧
      (runPass s (ls.map (Line.retext n text))).tally = (runPass s ls).tally := by
  have hF := Pass.carries_agreeOffComment n
  have hg := Line.movesBy_retext n text
  -- the run from the start state, line by line
  have hpass := (Pass.Mapped.start (g := Line.retext n text) hF s).foldl hF hg s
    fun l hl => Pass.lineMoves_retext s htext (hls l hl)
  exact ⟨hpass.finish hF hg s, hpass.tally.trans (Tally.renumber_id _)⟩

/-! ## The report -/

/-- **The preconditions read a line only for where a missing final line feed points**, when
it is the last line. -/
theorem hideEndColumn_preconditionFindings {c c' x x' : List Char} {P R : List (List Char)}
    (hlines : physicalLines c = P ++ x :: R) (hlines' : physicalLines c' = P ++ x' :: R)
    (hcr : c'.contains '\r' = c.contains '\r')
    (hend : (c'.getLast? == some '\n') = (c.getLast? == some '\n')) :
    (preconditionFindings c').map (Diagnostic.hideEndColumn (P.length + 1)) =
      (preconditionFindings c).map (Diagnostic.hideEndColumn (P.length + 1)) := by
  unfold preconditionFindings
  dsimp only
  rw [hcr, hend, hlines, hlines', List.map_append, List.map_append]
  congr 1
  split
  · rfl
  · have hlen : (P ++ x' :: R).length = (P ++ x :: R).length := by simp
    rw [hlen]
    cases R with
    | nil =>
      -- the line is the last one, and the finding points past its end
      have hmax : max (P ++ [x]).length 1 = P.length + 1 := by simp
      rw [hmax, List.map_singleton, List.map_singleton, Diagnostic.hideEndColumn_make,
        Diagnostic.hideEndColumn_make]
    | cons y R =>
      rw [List.getLast?_append_cons, List.getLast?_append_cons, List.getLast?_cons_cons,
        List.getLast?_cons_cons]

/-- **The report on a text with one code line given another text** with the same code,
indent and kind agrees with the report before, blind to what the comment of that line can
change. -/
theorem commentBlind_lintContent_retext (s : Settings) {c c' x x' : List Char}
    {P R : List (List Char)}
    (hlines : physicalLines c = P ++ x :: R) (hlines' : physicalLines c' = P ++ x' :: R)
    (hcr : c'.contains '\r' = c.contains '\r')
    (hend : (c'.getLast? == some '\n') = (c.getLast? == some '\n'))
    (hx : allBlank (stripComment x) = false)
    (hsame : Line.classify (P.length + 1) x' =
      (Line.classify (P.length + 1) x).retext (P.length + 1) x') :
    commentBlind (P.length + 1) (lintContent s c') =
      commentBlind (P.length + 1) (lintContent s c) := by
  set n := P.length + 1 with hn
  obtain ⟨before, after, hnum, hclass⟩ := classifyLines_middle P R
  have hx' : allBlank (stripComment x') = false := by
    have hcode := congrArg Line.code hsame
    rw [(Line.movesBy_retext n x').code] at hcode
    exact (show stripComment x' = stripComment x from hcode) ▸ hx
  -- the classified lines: only line `n` has another text
  have hmap : classifyLines c' = (classifyLines c).map (Line.retext n x') := by
    rw [hclass hlines, hclass hlines', List.map_append, List.map_cons, ← hsame,
      map_retext_of_ne fun l hl => hnum l (List.mem_append_left _ hl),
      map_retext_of_ne fun l hl => hnum l (List.mem_append_right _ hl)]
  have hcodeLines : ∀ l ∈ classifyLines c, l.number = n →
      allBlank (stripComment l.text) = false := by
    rw [hclass hlines]
    intro l hl hln
    rcases List.mem_append.1 hl with hl | hl
    · exact absurd hln (hnum l (List.mem_append_left _ hl))
    · rcases List.mem_cons.1 hl with rfl | hl
      · exact hx
      · exact absurd hln (hnum l (List.mem_append_right _ hl))
  obtain ⟨hfound, htally⟩ := runPass_retext s hx' hcodeLines
  have hpre : commentBlind n (preconditionFindings c') =
      commentBlind n (preconditionFindings c) := by
    rw [commentBlind_of_settingFree fun d hd => settingFree_of_mem_preconditionFindings hd,
      commentBlind_of_settingFree fun d hd => settingFree_of_mem_preconditionFindings hd]
    exact hideEndColumn_preconditionFindings hlines hlines' hcr hend
  have hcodes : (classifyLines c').map (·.code) = (classifyLines c).map (·.code) := by
    rw [hmap, List.map_map]
    exact List.map_congr_left fun l _ => (Line.movesBy_retext n x').code l
  have hfin : commentBlind n ((runPass s (classifyLines c')).finish s) =
      commentBlind n ((runPass s (classifyLines c)).finish s) := by
    rw [hmap]
    exact commentBlind_eq_of_agree hfound
  unfold lintContent
  dsimp only
  rw [commentBlind_append, commentBlind_append, commentBlind_sortByLine, commentBlind_sortByLine,
    commentBlind_append, commentBlind_append, commentBlind_append, commentBlind_append, hpre,
    hcodes, hfin, hmap, htally]

/-- **An end-of-line comment changes nothing but its own line's blanks.** Cut a text after
some whole lines, into `p` (empty, or ending in a line feed) and a rest `r` (empty, or starting
with a line feed), and put between them a code line `k` followed by a comment `c₁` or `c₂` and
the line's end `e`: a carriage return, as in a line ended by CRLF, or nothing. The line is line
`n = p.count '\n' + 1`; where no carriage return ends it, `k` does not end in one either,
which would be read as part of the line end. Linting the two texts fails alike, or gives
reports that agree but for the tabs and trailing blanks on line `n` and the column of a missing
final line feed on it. -/
theorem commentEdit_keeps_report (s : Settings) {p r k c₁ c₂ e : List Char}
    (hp : p = [] ∨ p.getLast? = some '\n') (hr : r = [] ∨ r.head? = some '\n')
    (he : e = [] ∨ e = ['\r']) (hk : allBlank k = false) (hkn : '\n' ∉ k)
    (hkr : e = [] → k.getLast? ≠ some '\r')
    (hc₁ : CommentSuffix k c₁) (hc₂ : CommentSuffix k c₂) :
    ResultRel (fun ds₁ ds₂ =>
        commentBlind (p.count '\n' + 1) ds₁ = commentBlind (p.count '\n' + 1) ds₂)
      (lintText s (p ++ (k ++ c₁ ++ e) ++ r)) (lintText s (p ++ (k ++ c₂ ++ e) ++ r)) := by
  obtain ⟨P, R, hlen, hphys⟩ := physicalLines_middle hp hr
  have hne : k ≠ [] := by
    rintro rfl
    cases hk
  have hen : '\n' ∉ e := by
    rcases he with rfl | rfl <;> simp
  -- the line is read back as code and comment, its end dropped
  have hline : ∀ {c}, CommentSuffix k c →
      physicalLines (p ++ (k ++ c ++ e) ++ r) = P ++ (k ++ c) :: R := fun hc => by
    rw [hphys _ (by simp [hne]) (by simp [hkn, hc.noNewline, hen]),
      hc.dropCarriageReturn he hkr]
  have hend : ∀ {c}, CommentSuffix k c →
      ((p ++ (k ++ c ++ e) ++ r).getLast? == some '\n') = (r.getLast? == some '\n') :=
    fun hc => endsInNewline_middle (by simp [hne]) (by simp [hkn, hc.noNewline, hen])
  have hcr : (p ++ (k ++ c₂ ++ e) ++ r).contains '\r' =
      (p ++ (k ++ c₁ ++ e) ++ r).contains '\r' := by
    simp [hc₁.noReturn, hc₂.noReturn]
  have hsame : Line.classify (P.length + 1) (k ++ c₂) =
      (Line.classify (P.length + 1) (k ++ c₁)).retext (P.length + 1) (k ++ c₂) := by
    rw [classify_commentSuffix hk hc₁, classify_commentSuffix hk hc₂]
    simp [Line.retext]
  have hreport := commentBlind_lintContent_retext s (hline hc₁) (hline hc₂) hcr
    ((hend hc₂).trans (hend hc₁).symm) (by rw [hc₁.cut]; exact hk) hsame
  rw [hlen] at hreport
  refine lintText_rel s hreport.symm ?_
  rw [← any_written_commentBlind s (p.count '\n' + 1), hreport, any_written_commentBlind]

/-- Dropping the comment of a line ended by CRLF that ends in a blank before the comment. -/
theorem commentEdit_keeps_report_dropped_comment :
    ("//@version=6\n".toList = [] ∨ "//@version=6\n".toList.getLast? = some '\n') ∧
    ("\n".toList = [] ∨ "\n".toList.head? = some '\n') ∧
    (['\r'] = [] ∨ ['\r'] = ['\r']) ∧
    allBlank "x = 1 ".toList = false ∧ '\n' ∉ "x = 1 ".toList ∧
    (['\r'] = [] → "x = 1 ".toList.getLast? ≠ some '\r') ∧
    CommentSuffix "x = 1 ".toList "// one".toList ∧ CommentSuffix "x = 1 ".toList [] ∧
    ResultRel (fun ds₁ ds₂ => commentBlind ("//@version=6\n".toList.count '\n' + 1) ds₁ =
        commentBlind ("//@version=6\n".toList.count '\n' + 1) ds₂)
      (lintText Settings.default
        ("//@version=6\n".toList ++ ("x = 1 ".toList ++ "// one".toList ++ ['\r']) ++
          "\n".toList))
      (lintText Settings.default
        ("//@version=6\n".toList ++ ("x = 1 ".toList ++ [] ++ ['\r']) ++ "\n".toList)) :=
  have hp : "//@version=6\n".toList = [] ∨ "//@version=6\n".toList.getLast? = some '\n' :=
    Or.inr (by decide)
  have hr : "\n".toList = [] ∨ "\n".toList.head? = some '\n' := Or.inr (by decide)
  have he : ['\r'] = [] ∨ ['\r'] = ['\r'] := Or.inr rfl
  have hk : allBlank "x = 1 ".toList = false := by decide
  have hkn : '\n' ∉ "x = 1 ".toList := by decide
  have hkr : ['\r'] = [] → "x = 1 ".toList.getLast? ≠ some '\r' := fun h => nomatch h
  have hc₁ : CommentSuffix "x = 1 ".toList "// one".toList := ⟨by decide, by decide, by decide⟩
  have hc₂ : CommentSuffix "x = 1 ".toList [] := ⟨by decide, by decide, by decide⟩
  ⟨hp, hr, he, hk, hkn, hkr, hc₁, hc₂,
    commentEdit_keeps_report Settings.default hp hr he hk hkn hkr hc₁ hc₂⟩

end PineCheck
