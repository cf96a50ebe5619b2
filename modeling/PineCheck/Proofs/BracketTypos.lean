import PineCheck.Proofs.BracketReport
/-!
# One bracket typo, one finding

Take code lines whose brackets are well nested and make one typo in a closer: exchange two
closers of different kinds with no bracket between them (`(a, [b])` becomes `(a, [b)]`), or
put in place of a closer one of a kind that no enclosing bracket has (`[a()]` becomes
`[a(}]`). The bracket check then reports the typo once, as a mismatch at the first closer
changed, and nothing after it.

The reason is that the check recovers from such a mismatch with exactly the stack that the
correct lines have at the same place. A crossed closer is taken to close the nearest open
bracket of its kind below the innermost one, which here lies just under it; the closer that
follows then closes the innermost bracket. A closer whose kind nothing encloses drops the
innermost bracket, the one the correct closer closes. From there on both read alike.

To compare two texts place by place, the check is read as a fold over the characters with
their places (`placedLines`), which lists exactly the places where `charAt` finds a character,
in reading order. Two texts that differ only at some places give the same list but for the
characters at those places (`placedLines_eq_map`).

Main statement: `one_bracket_typo_one_finding`.
-/

namespace PineCheck

open PineCheck.Bracket

/-! ## The characters of a text, each at its place -/

/-- The characters of a line from column `column` on, each with its place. -/
def placedLine (line : Nat) : Nat → List Char → List ((Nat × Nat) × Char)
  | _, [] => []
  | column, c :: rest => ((line, column), c) :: placedLine line (column + 1) rest

/-- The characters of the lines numbered from `line` on, each with its place, in reading
order. -/
def placedLines : Nat → List (List Char) → List ((Nat × Nat) × Char)
  | _, [] => []
  | line, l :: rest => placedLine line 1 l ++ placedLines (line + 1) rest

/-- The placed characters of a line are its characters numbered by column. -/
theorem placedLine_eq_map_zipIdx (line : Nat) :
    ∀ (column : Nat) (cs : List Char),
      placedLine line column cs = (cs.zipIdx column).map fun e => ((line, e.2), e.1)
  | _, [] => rfl
  | column, c :: rest => by
    rw [placedLine, placedLine_eq_map_zipIdx line (column + 1) rest, List.zipIdx_cons,
      List.map_cons]

/-- The placed characters of lines are those of each line, numbered by line. -/
theorem placedLines_eq_flatMap :
    ∀ (line : Nat) (ls : List (List Char)),
      placedLines line ls = (ls.zipIdx line).flatMap fun e => placedLine e.2 1 e.1
  | _, [] => rfl
  | line, l :: rest => by
    rw [placedLines, placedLines_eq_flatMap (line + 1) rest, List.zipIdx_cons, List.flatMap_cons]

/-- A placed character of a line is on that line, at a column from the first one on, and is the
line's character there. -/
theorem mem_placedLine {line column : Nat} {cs : List Char} {x : (Nat × Nat) × Char} :
    x ∈ placedLine line column cs ↔
      x.1.1 = line ∧ column ≤ x.1.2 ∧ cs[x.1.2 - column]? = some x.2 := by
  obtain ⟨⟨l, k⟩, d⟩ := x
  rw [placedLine_eq_map_zipIdx, List.mem_map]
  constructor
  · rintro ⟨⟨c, i⟩, he, heq⟩
    simp only [Prod.mk.injEq] at heq
    obtain ⟨⟨rfl, rfl⟩, rfl⟩ := heq
    exact ⟨rfl, List.mem_zipIdx_iff_le_and_getElem?_sub.1 he⟩
  · rintro ⟨rfl, h⟩
    exact ⟨(d, k), List.mem_zipIdx_iff_le_and_getElem?_sub.2 h, rfl⟩

/-- Every placed character of lines numbered from `line` on is on one of them. -/
theorem line_le_of_mem_placedLines {line : Nat} {ls : List (List Char)} {x : (Nat × Nat) × Char}
    (h : x ∈ placedLines line ls) : line ≤ x.1.1 := by
  rw [placedLines_eq_flatMap, List.mem_flatMap] at h
  obtain ⟨⟨cs, n⟩, hn, hx⟩ := h
  rw [(mem_placedLine.1 hx).1]
  exact (List.mem_zipIdx_iff_le_and_getElem?_sub.1 hn).1

/-- **The placed characters are those `charAt` finds.** -/
theorem mem_placedLines_iff {codes : List (List Char)} {x : (Nat × Nat) × Char} :
    x ∈ placedLines 1 codes ↔ charAt codes x.1.1 x.1.2 = some x.2 := by
  obtain ⟨⟨l, k⟩, d⟩ := x
  rw [placedLines_eq_flatMap, List.mem_flatMap]
  constructor
  · rintro ⟨⟨cs, n⟩, hn, hx⟩
    obtain ⟨hle, hcs⟩ := List.mem_zipIdx_iff_le_and_getElem?_sub.1 hn
    obtain ⟨rfl, hk, hc⟩ := mem_placedLine.1 hx
    obtain ⟨n, rfl⟩ := Nat.exists_eq_add_of_le' hle
    obtain ⟨k, rfl⟩ := Nat.exists_eq_add_of_le' hk
    simp_all [charAt]
  · intro h
    rcases l with _ | n
    · simp [charAt] at h
    rcases k with _ | m
    · simp [charAt] at h
    simp only [charAt, Option.bind_eq_some_iff] at h
    obtain ⟨cs, hcs, hc⟩ := h
    exact ⟨(cs, n + 1), List.mem_zipIdx_iff_le_and_getElem?_sub.2 ⟨by simp, by simpa using hcs⟩,
      mem_placedLine.2 ⟨rfl, by simp, by simpa using hc⟩⟩

/-- Of two places, at most one comes before the other. -/
theorem PlaceBefore.asymm {p q : Nat × Nat} (h : PlaceBefore p q) : ¬PlaceBefore q p := by
  unfold PlaceBefore at *
  omega

/-- No place comes before itself. -/
theorem PlaceBefore.irrefl (p : Nat × Nat) : ¬PlaceBefore p p := by
  unfold PlaceBefore
  omega

/-- Reading order is transitive. -/
theorem PlaceBefore.trans {p q r : Nat × Nat} (hpq : PlaceBefore p q) (hqr : PlaceBefore q r) :
    PlaceBefore p r := by
  unfold PlaceBefore at *
  omega

/-- Reading order is decided on the line and column numbers. -/
instance (p q : Nat × Nat) : Decidable (PlaceBefore p q) :=
  inferInstanceAs (Decidable (p.1 < q.1 ∨ p.1 = q.1 ∧ p.2 < q.2))

/-- Placed characters in strict reading order. -/
def InReadingOrder (xs : List ((Nat × Nat) × Char)) : Prop :=
  xs.Pairwise fun x y => PlaceBefore x.1 y.1

/-- The placed characters of a line are in reading order. -/
theorem inReadingOrder_placedLine (line : Nat) :
    ∀ (column : Nat) (cs : List Char), InReadingOrder (placedLine line column cs)
  | _, [] => List.Pairwise.nil
  | column, c :: rest => by
    refine List.Pairwise.cons (fun y hy => ?_) (inReadingOrder_placedLine line (column + 1) rest)
    obtain ⟨hline, hcol, -⟩ := mem_placedLine.1 hy
    exact .inr ⟨hline.symm, hcol⟩

/-- The placed characters of lines are in reading order, a later line after every place of an
earlier one. -/
theorem inReadingOrder_placedLines :
    ∀ (line : Nat) (ls : List (List Char)), InReadingOrder (placedLines line ls)
  | _, [] => List.Pairwise.nil
  | line, l :: rest => by
    refine List.pairwise_append.2 ⟨inReadingOrder_placedLine line 1 l,
      inReadingOrder_placedLines (line + 1) rest, fun x hx y hy => ?_⟩
    -- a later line comes after every place of this one
    have hx := (mem_placedLine.1 hx).1
    have hy := line_le_of_mem_placedLines hy
    exact .inl (by omega)

/-- Two lists of placed characters in reading order that hold the same entries are equal. -/
theorem InReadingOrder.eq_of_mem_iff {xs ys : List ((Nat × Nat) × Char)} (hxs : InReadingOrder xs)
    (hys : InReadingOrder ys) (h : ∀ z, z ∈ xs ↔ z ∈ ys) : xs = ys := by
  induction xs generalizing ys with
  | nil =>
    exact (List.eq_nil_iff_forall_not_mem.2 fun z hz => List.not_mem_nil ((h z).2 hz)).symm
  | cons a xs ih =>
    obtain ⟨hafter, hxs⟩ := List.pairwise_cons.1 hxs
    cases ys with
    | nil => exact absurd ((h a).1 List.mem_cons_self) List.not_mem_nil
    | cons b ys =>
      obtain ⟨hafter', hys'⟩ := List.pairwise_cons.1 hys
      -- the first entries agree, as each comes before every other entry
      have hab : a = b := by
        rcases List.mem_cons.1 ((h a).1 List.mem_cons_self) with hab | ha
        · exact hab
        rcases List.mem_cons.1 ((h b).2 List.mem_cons_self) with hba | hb
        · exact hba.symm
        exact absurd (hafter b hb) (hafter' a ha).asymm
      subst hab
      refine congrArg _ (ih hxs hys' fun z => ?_)
      have hz : ∀ {zs : List ((Nat × Nat) × Char)}, (∀ y ∈ zs, PlaceBefore a.1 y.1) → z ∈ zs →
          z ≠ a := fun hzs hz hza => PlaceBefore.irrefl a.1 (hza ▸ hzs z hz)
      constructor
      · intro hzx
        exact (List.mem_cons.1 ((h z).1 (List.mem_cons_of_mem _ hzx))).resolve_left (hz hafter hzx)
      · intro hzy
        exact (List.mem_cons.1 ((h z).2 (List.mem_cons_of_mem _ hzy))).resolve_left (hz hafter' hzy)

/-- **Texts that differ at some places** give the same placed characters but for the
characters at those places. -/
theorem placedLines_eq_map {codes codes' : List (List Char)} {f : Nat × Nat → Char → Char}
    (hsome : ∀ (r : Nat × Nat) c, charAt codes r.1 r.2 = some c →
      charAt codes' r.1 r.2 = some (f r c))
    (hback : ∀ (r : Nat × Nat) c', charAt codes' r.1 r.2 = some c' →
      ∃ c, charAt codes r.1 r.2 = some c) :
    placedLines 1 codes' = (placedLines 1 codes).map fun x => (x.1, f x.1 x.2) := by
  refine InReadingOrder.eq_of_mem_iff (inReadingOrder_placedLines 1 codes') ?_ fun z => ?_
  · unfold InReadingOrder
    rw [List.pairwise_map]
    exact inReadingOrder_placedLines 1 codes
  · rw [mem_placedLines_iff, List.mem_map]
    constructor
    · intro hz
      obtain ⟨c, hc⟩ := hback z.1 z.2 hz
      have hz' := hsome z.1 c hc
      rw [hz] at hz'
      refine ⟨(z.1, c), mem_placedLines_iff.2 hc, ?_⟩
      dsimp only
      rw [← Option.some.inj hz']
    · rintro ⟨x, hx, rfl⟩
      exact hsome x.1 x.2 (mem_placedLines_iff.1 hx)

/-- A character found at a place cuts the placed characters into those before it and those
after it. -/
theorem exists_split_placedLines {codes : List (List Char)} {p : Nat × Nat} {c : Char}
    (hp : charAt codes p.1 p.2 = some c) :
    ∃ A C, placedLines 1 codes = A ++ (p, c) :: C ∧ (∀ x ∈ A, PlaceBefore x.1 p) ∧
      ∀ x ∈ C, PlaceBefore p x.1 := by
  obtain ⟨A, C, hsplit⟩ := List.append_of_mem ((mem_placedLines_iff (x := (p, c))).2 hp)
  have horder := inReadingOrder_placedLines 1 codes
  rw [hsplit] at horder
  obtain ⟨-, hrest, hcross⟩ := List.pairwise_append.1 horder
  exact ⟨A, C, hsplit, fun x hx => hcross x hx _ List.mem_cons_self,
    (List.pairwise_cons.1 hrest).1⟩

/-- Two characters found at two places cut the placed characters in three. -/
theorem exists_split₂_placedLines {codes : List (List Char)} {p q : Nat × Nat} {c d : Char}
    (hp : charAt codes p.1 p.2 = some c) (hq : charAt codes q.1 q.2 = some d)
    (hpq : PlaceBefore p q) :
    ∃ A B C, placedLines 1 codes = A ++ (p, c) :: (B ++ (q, d) :: C) ∧
      (∀ x ∈ A, PlaceBefore x.1 p) ∧ (∀ x ∈ B, PlaceBefore p x.1 ∧ PlaceBefore x.1 q) ∧
      ∀ x ∈ C, PlaceBefore q x.1 := by
  obtain ⟨A, T, hsplit, hA, hT⟩ := exists_split_placedLines hp
  -- the later place is among those after the earlier one
  have hqT : (q, d) ∈ T := by
    have hmem := (mem_placedLines_iff (x := (q, d))).2 hq
    rw [hsplit] at hmem
    rcases List.mem_append.1 hmem with hA' | hT'
    · exact absurd (hA _ hA') hpq.asymm
    · rcases List.mem_cons.1 hT' with heq | hT'
      · have hqp : q = p := congrArg Prod.fst heq
        rw [hqp] at hpq
        exact absurd hpq (PlaceBefore.irrefl p)
      · exact hT'
  obtain ⟨B, C, hT'⟩ := List.append_of_mem hqT
  have horder := inReadingOrder_placedLines 1 codes
  rw [hsplit, hT'] at horder
  obtain ⟨-, hrest, -⟩ := List.pairwise_append.1 horder
  obtain ⟨-, hrest, hcross⟩ := List.pairwise_append.1 (List.pairwise_cons.1 hrest).2
  refine ⟨A, B, C, hT' ▸ hsplit, hA, fun x hx => ⟨hT x (hT' ▸ List.mem_append_left _ hx),
    hcross x hx _ List.mem_cons_self⟩, (List.pairwise_cons.1 hrest).1⟩

/-- The characters before a place, in reading order. -/
def textBefore (codes : List (List Char)) (p : Nat × Nat) : List Char :=
  ((placedLines 1 codes).filter fun x => decide (PlaceBefore x.1 p)).map (·.2)

/-! ## The check over placed characters -/

namespace BracketScan

/-- Read placed characters in order. -/
def readPlaced (s : BracketScan) (xs : List ((Nat × Nat) × Char)) : BracketScan :=
  xs.foldl (fun s x => s.step x.1.1 x.1.2 x.2) s

/-- Reading no character leaves the scan as it is. -/
@[simp] theorem readPlaced_nil (s : BracketScan) : s.readPlaced [] = s := rfl

/-- Reading placed characters is a step on the first, then reading the rest. -/
@[simp] theorem readPlaced_cons (s : BracketScan) (x : (Nat × Nat) × Char)
    (xs : List ((Nat × Nat) × Char)) :
    s.readPlaced (x :: xs) = (s.step x.1.1 x.1.2 x.2).readPlaced xs := rfl

/-- Reading two lists of placed characters is reading one, then the other. -/
@[simp] theorem readPlaced_append (s : BracketScan) (xs ys : List ((Nat × Nat) × Char)) :
    s.readPlaced (xs ++ ys) = (s.readPlaced xs).readPlaced ys := List.foldl_append

/-- The check's reading of a line is its reading of the line's placed characters. -/
theorem readLine_eq_readPlaced (line : Nat) :
    ∀ (s : BracketScan) (column : Nat) (cs : List Char),
      s.readLine line column cs = s.readPlaced (placedLine line column cs)
  | _, _, [] => rfl
  | s, column, c :: rest => readLine_eq_readPlaced line (s.step line column c) (column + 1) rest

/-- The check's reading of lines is its reading of their placed characters. -/
theorem readLines_eq_readPlaced :
    ∀ (s : BracketScan) (line : Nat) (ls : List (List Char)),
      s.readLines line ls = s.readPlaced (placedLines line ls)
  | _, _, [] => rfl
  | s, line, l :: rest => by
    rw [readLines, readLines_eq_readPlaced _ (line + 1) rest, readLine_eq_readPlaced,
      placedLines, readPlaced_append]

/-- The scan with more faults found before. -/
def withFaults (s : BracketScan) (gs : List BracketFault) : BracketScan := ⟨s.stack, s.faults ++ gs⟩

/-- A step neither reads nor touches the faults found before. -/
theorem step_withFaults (s : BracketScan) (gs : List BracketFault) (line column : Nat) (c : Char) :
    (s.withFaults gs).step line column c = (s.step line column c).withFaults gs := by
  obtain ⟨stack, faults⟩ := s
  cases ho : ofOpener? c with
  | some k => simp [step, withFaults, ho]
  | none =>
    cases hc : ofCloser? c with
    | none => simp [step, withFaults, ho, hc]
    | some k =>
      cases stack with
      | nil => simp [step, withFaults, ho, hc]
      | cons top rest =>
        by_cases htop : top.kind = k
        · simp [step, withFaults, ho, hc, htop]
        · simp [step, withFaults, ho, hc, htop]

/-- Faults found before a reading stay behind those it finds. -/
theorem readPlaced_withFaults (gs : List BracketFault) :
    ∀ (s : BracketScan) (xs : List ((Nat × Nat) × Char)),
      (s.withFaults gs).readPlaced xs = (s.readPlaced xs).withFaults gs
  | _, [] => rfl
  | s, x :: xs => by
    rw [readPlaced_cons, step_withFaults, readPlaced_withFaults gs _ xs, readPlaced_cons]

/-- A reading only adds faults in front of those found before. -/
theorem faults_readPlaced (s : BracketScan) (xs : List ((Nat × Nat) × Char)) :
    ∃ fs, (s.readPlaced xs).faults = fs ++ s.faults := by
  obtain ⟨stack, faults⟩ := s
  have hs : (⟨stack, faults⟩ : BracketScan) = (⟨stack, []⟩ : BracketScan).withFaults faults := by
    simp [withFaults]
  refine ⟨((⟨stack, []⟩ : BracketScan).readPlaced xs).faults, ?_⟩
  rw [hs, readPlaced_withFaults]
  rfl

/-- Faults only grow: a reading that ends with none started with none. -/
theorem faults_nil_of_readPlaced {s : BracketScan} {xs : List ((Nat × Nat) × Char)}
    (h : (s.readPlaced xs).faults = []) : s.faults = [] := by
  obtain ⟨fs, hfs⟩ := faults_readPlaced s xs
  rw [hfs] at h
  exact (List.append_eq_nil_iff.1 h).2

/-- Reading placed characters with no new fault is a well-nested reading of them. -/
theorem nestAfter_readPlaced {s : BracketScan} {xs : List ((Nat × Nat) × Char)}
    (h : (s.readPlaced xs).faults = s.faults) :
    nestAfter s.kinds (xs.map (·.2)) = some (s.readPlaced xs).kinds := by
  induction xs generalizing s with
  | nil => rfl
  | cons x xs ih =>
    have hrest : ((s.step x.1.1 x.1.2 x.2).readPlaced xs).faults = s.faults := h
    obtain ⟨fs, hfs⟩ := faults_readPlaced (s.step x.1.1 x.1.2 x.2) xs
    obtain ⟨gs, hgs⟩ := faults_step s x.1.1 x.1.2 x.2
    have hstep := faults_eq_of_grows hfs hgs hrest
    rw [List.map_cons, nestAfter_cons, nestStep_kinds hstep, Option.bind_some]
    exact ih (hrest.trans hstep.symm)

/-- A character that is no bracket leaves the scan as it is. -/
theorem step_of_not_bracket (s : BracketScan) (line column : Nat) {c : Char}
    (ho : ofOpener? c = none) (hc : ofCloser? c = none) : s.step line column c = s := by
  simp [step, ho, hc]

/-- Characters that are no brackets leave the scan as it is. -/
theorem readPlaced_of_not_bracket (s : BracketScan) {xs : List ((Nat × Nat) × Char)}
    (h : ∀ x ∈ xs, ofOpener? x.2 = none ∧ ofCloser? x.2 = none) : s.readPlaced xs = s := by
  induction xs generalizing s with
  | nil => rfl
  | cons x xs ih =>
    have hx := h x List.mem_cons_self
    rw [readPlaced_cons, step_of_not_bracket s _ _ hx.1 hx.2]
    exact ih s fun y hy => h y (List.mem_cons_of_mem _ hy)

/-- A closer read with no new fault closes the innermost open bracket, of its kind. -/
theorem step_closer_of_faults {s : BracketScan} {line column : Nat} {k : Bracket}
    (h : (s.step line column k.closer).faults = s.faults) :
    ∃ top rest, s.stack = top :: rest ∧ top.kind = k ∧
      s.step line column k.closer = ⟨rest, s.faults⟩ := by
  obtain ⟨stack, faults⟩ := s
  cases stack with
  | nil => simp [step] at h
  | cons top rest =>
    by_cases htop : top.kind = k
    · exact ⟨top, rest, rfl, htop, by simp [step, htop]⟩
    · simp [step, htop] at h

/-- A closer of the innermost open bracket's kind closes it and reports nothing. -/
theorem step_closes {top : OpenBracket} {k : Bracket} (htop : top.kind = k) (rest : List OpenBracket)
    (fs : List BracketFault) (line column : Nat) :
    (⟨top :: rest, fs⟩ : BracketScan).step line column k.closer = ⟨rest, fs⟩ := by
  simp [step, htop]

/-- A closer of the kind of the bracket just under the innermost one closes that bracket, and
is reported once. -/
theorem step_crossed {o₁ o₂ : OpenBracket} {k : Bracket} (h₁ : o₁.kind ≠ k) (h₂ : o₂.kind = k)
    (rest : List OpenBracket) (fs : List BracketFault) (line column : Nat) :
    (⟨o₁ :: o₂ :: rest, fs⟩ : BracketScan).step line column k.closer =
      ⟨o₁ :: rest, .mismatched o₁ k line column :: fs⟩ := by
  simp [step, h₁, eraseFirstOfKind, h₂]

/-- A closer of a kind that no open bracket has drops the innermost one, and is reported
once. -/
theorem step_foreign {o : OpenBracket} {k : Bracket} {rest : List OpenBracket} (h : o.kind ≠ k)
    (hrest : eraseFirstOfKind k rest = none) (fs : List BracketFault) (line column : Nat) :
    (⟨o :: rest, fs⟩ : BracketScan).step line column k.closer =
      ⟨rest, .mismatched o k line column :: fs⟩ := by
  simp [step, h, hrest]

end BracketScan

/-- No open bracket of a kind is found where none is of that kind. -/
theorem eraseFirstOfKind_eq_none {k : Bracket} :
    ∀ {xs : List OpenBracket}, k ∉ xs.map (·.kind) → eraseFirstOfKind k xs = none
  | [], _ => rfl
  | o :: rest, h => by
    simp only [List.map_cons, List.mem_cons, not_or] at h
    simp [eraseFirstOfKind, Ne.symm h.1, eraseFirstOfKind_eq_none h.2]

/-- The bracket check reads the placed characters of the lines. -/
theorem bracketFaults_eq_readPlaced (codes : List (List Char)) :
    bracketFaults codes = (BracketScan.empty.readPlaced (placedLines 1 codes)).allFaults := by
  rw [bracketFaults, BracketScan.readLines_eq_readPlaced]

/-- Well-nested lines read with no fault and leave nothing open. -/
theorem readPlaced_of_wellNested {codes : List (List Char)} (h : WellNested codes.flatten) :
    BracketScan.empty.readPlaced (placedLines 1 codes) = ⟨[], []⟩ := by
  have hnil := (bracketFaults_eq_nil_iff codes).2 h
  rw [bracketFaults_eq_readPlaced] at hnil
  generalize BracketScan.empty.readPlaced (placedLines 1 codes) = s at hnil ⊢
  obtain ⟨stack, faults⟩ := s
  cases stack <;> simp_all [BracketScan.allFaults]

/-! ## Exchanged closers -/

/-- **Two exchanged closers are reported once.** In well-nested lines, exchange two closers of
different kinds with no bracket between them: the bracket check reports one mismatch, at the
first of them, against the bracket that it closed, and nothing else. -/
theorem crossed_closers_reported_once {codes codes' : List (List Char)}
    (hnest : WellNested codes.flatten) {p q : Nat × Nat} {k₁ k₂ : Bracket} (hk : k₁ ≠ k₂)
    (hpq : PlaceBefore p q) (hp : charAt codes p.1 p.2 = some k₁.closer)
    (hq : charAt codes q.1 q.2 = some k₂.closer)
    (hbetween : ∀ (r : Nat × Nat) c, PlaceBefore p r → PlaceBefore r q →
      charAt codes r.1 r.2 = some c → ofOpener? c = none ∧ ofCloser? c = none)
    (hp' : charAt codes' p.1 p.2 = some k₂.closer) (hq' : charAt codes' q.1 q.2 = some k₁.closer)
    (hsame : ∀ r : Nat × Nat, r ≠ p → r ≠ q → charAt codes' r.1 r.2 = charAt codes r.1 r.2) :
    ∃ o : OpenBracket, o.kind = k₁ ∧
      checkBrackets codes' = [(BracketFault.mismatched o k₂ p.1 p.2).toDiagnostic] := by
  obtain ⟨A, B, C, hsplit, hA, hB, hC⟩ := exists_split₂_placedLines hp hq hpq
  have hfree : ∀ x ∈ B, ofOpener? x.2 = none ∧ ofCloser? x.2 = none := fun x hx =>
    hbetween x.1 x.2 (hB x hx).1 (hB x hx).2
      (mem_placedLines_iff.1 (hsplit ▸ List.mem_append_right _
        (List.mem_cons_of_mem _ (List.mem_append_left _ hx))))
  -- the correct lines: the first closer closes the innermost bracket, the second the one under it
  have hwhole := readPlaced_of_wellNested hnest
  rw [hsplit] at hwhole
  simp only [BracketScan.readPlaced_append, BracketScan.readPlaced_cons] at hwhole
  generalize hA₀ : BracketScan.empty.readPlaced A = s₀ at hwhole
  have h₃ := BracketScan.faults_nil_of_readPlaced (congrArg BracketScan.faults hwhole)
  have h₂ := @BracketScan.faults_nil_of_readPlaced _ [(q, k₂.closer)] h₃
  have h₁ := @BracketScan.faults_nil_of_readPlaced _ B h₂
  have h₀ := @BracketScan.faults_nil_of_readPlaced _ [(p, k₁.closer)] h₁
  obtain ⟨o₁, R₁, hstack₀, ho₁, hstep₁⟩ := BracketScan.step_closer_of_faults (h₁.trans h₀.symm)
  rw [hstep₁, h₀, BracketScan.readPlaced_of_not_bracket _ hfree] at hwhole h₃
  obtain ⟨o₂, R, hR₁, ho₂, hstep₂⟩ := BracketScan.step_closer_of_faults (s := ⟨R₁, []⟩) h₃
  rw [hstep₂] at hwhole
  have hs₀ : s₀ = ⟨o₁ :: o₂ :: R, []⟩ := by
    obtain ⟨stack, faults⟩ := s₀
    simp only at hstack₀ h₀ hR₁
    rw [hstack₀, hR₁, h₀]
  -- the changed lines: the same places, with the two closers exchanged
  have hsplit' : placedLines 1 codes' = A ++ (p, k₂.closer) :: (B ++ (q, k₁.closer) :: C) := by
    rw [placedLines_eq_map (f := fun r c => if r = p then k₂.closer else if r = q then k₁.closer else c)
      (fun r c hc => ?_) (fun r c' hc' => ?_), hsplit]
    · have hkeep : ∀ xs : List ((Nat × Nat) × Char), (∀ x ∈ xs, x.1 ≠ p ∧ x.1 ≠ q) →
          xs.map (fun x => (x.1, if x.1 = p then k₂.closer else if x.1 = q then k₁.closer else x.2)) =
            xs := fun xs h =>
        (List.map_congr_left fun x hx => by simp [(h x hx).1, (h x hx).2]).trans (List.map_id xs)
      have hqp : q ≠ p := hpq.ne
      rw [List.map_append, List.map_cons, List.map_append, List.map_cons,
        hkeep A fun x hx => ⟨(hA x hx).ne.symm, ((hA x hx).trans hpq).ne.symm⟩,
        hkeep B fun x hx => ⟨(hB x hx).1.ne, (hB x hx).2.ne.symm⟩,
        hkeep C fun x hx => ⟨((hpq.trans (hC x hx))).ne, (hC x hx).ne⟩]
      simp [hqp]
    · by_cases hrp : r = p
      · subst hrp
        simp [hp']
      · by_cases hrq : r = q
        · subst hrq
          simp [hq', hrp]
        · rw [hsame r hrp hrq, hc]
          simp [hrp, hrq]
    · by_cases hrp : r = p
      · exact ⟨_, hrp ▸ hp⟩
      · by_cases hrq : r = q
        · exact ⟨_, hrq ▸ hq⟩
        · exact ⟨c', (hsame r hrp hrq).symm.trans hc'⟩
  -- the changed lines read as the correct ones, with one fault more
  refine ⟨o₁, ho₁, ?_⟩
  have hread : BracketScan.empty.readPlaced (placedLines 1 codes') =
      (⟨[], []⟩ : BracketScan).withFaults [.mismatched o₁ k₂ p.1 p.2] := by
    rw [hsplit']
    simp only [BracketScan.readPlaced_append, BracketScan.readPlaced_cons]
    rw [hA₀, hs₀, BracketScan.step_crossed (ho₁ ▸ hk) ho₂, BracketScan.readPlaced_of_not_bracket _ hfree,
      BracketScan.step_closes ho₁, ← hwhole, ← BracketScan.readPlaced_withFaults]
    rfl
  rw [checkBrackets, bracketFaults_eq_readPlaced, hread]
  rfl

/-! ## A closer of a kind nothing encloses -/

/-- The characters before the first of some placed characters are the part of the text before
its place. -/
theorem textBefore_eq {codes : List (List Char)} {A C : List ((Nat × Nat) × Char)}
    {p : Nat × Nat} {c : Char} (hsplit : placedLines 1 codes = A ++ (p, c) :: C)
    (hA : ∀ x ∈ A, PlaceBefore x.1 p) (hC : ∀ x ∈ C, PlaceBefore p x.1) :
    textBefore codes p = A.map (·.2) := by
  have hbefore : A.filter (fun x => decide (PlaceBefore x.1 p)) = A :=
    List.filter_eq_self.2 fun x hx => decide_eq_true (hA x hx)
  have hafter : ((p, c) :: C).filter (fun x => decide (PlaceBefore x.1 p)) = [] :=
    List.filter_eq_nil_iff.2 fun x hx => by
      rcases List.mem_cons.1 hx with rfl | hx
      · exact fun h => PlaceBefore.irrefl p (of_decide_eq_true h)
      · exact fun h => (hC x hx).asymm (of_decide_eq_true h)
  rw [textBefore, hsplit, List.filter_append, hbefore, hafter, List.append_nil]

/-- **A closer of a kind that nothing encloses is reported once.** In well-nested lines, put in
place of a closer one of a kind that none of the brackets open before it has: the bracket
check reports one mismatch, there, against the bracket that the correct closer closed, and
nothing else. -/
theorem foreign_closer_reported_once {codes codes' : List (List Char)}
    (hnest : WellNested codes.flatten) {p : Nat × Nat} {k k' : Bracket}
    (hp : charAt codes p.1 p.2 = some k.closer)
    (hopen : ∀ S, nestAfter [] (textBefore codes p) = some S → k' ∉ S)
    (hp' : charAt codes' p.1 p.2 = some k'.closer)
    (hsame : ∀ r : Nat × Nat, r ≠ p → charAt codes' r.1 r.2 = charAt codes r.1 r.2) :
    ∃ o : OpenBracket, o.kind = k ∧
      checkBrackets codes' = [(BracketFault.mismatched o k' p.1 p.2).toDiagnostic] := by
  obtain ⟨A, C, hsplit, hA, hC⟩ := exists_split_placedLines hp
  -- the correct lines: the closer closes the innermost open bracket
  have hwhole := readPlaced_of_wellNested hnest
  rw [hsplit] at hwhole
  simp only [BracketScan.readPlaced_append, BracketScan.readPlaced_cons] at hwhole
  generalize hA₀ : BracketScan.empty.readPlaced A = s₀ at hwhole
  have h₁ := BracketScan.faults_nil_of_readPlaced (congrArg BracketScan.faults hwhole)
  have h₀ := @BracketScan.faults_nil_of_readPlaced _ [(p, k.closer)] h₁
  obtain ⟨o, R, hstack₀, ho, hstep⟩ := BracketScan.step_closer_of_faults (h₁.trans h₀.symm)
  rw [hstep, h₀] at hwhole
  -- the brackets open before the closer are those of the reading up to it
  have hkinds : nestAfter [] (textBefore codes p) = some (o.kind :: R.map (·.kind)) := by
    have hread := @BracketScan.nestAfter_readPlaced BracketScan.empty A
      (by rw [hA₀, h₀]; rfl)
    have hempty : BracketScan.empty.kinds = [] := rfl
    rw [hA₀, hempty] at hread
    rw [textBefore_eq hsplit hA hC, hread, BracketScan.kinds, hstack₀, List.map_cons]
  have hnot := hopen _ hkinds
  have hk : o.kind ≠ k' := fun h => hnot (h ▸ List.mem_cons_self)
  have hrest : eraseFirstOfKind k' R = none :=
    eraseFirstOfKind_eq_none fun h => hnot (List.mem_cons_of_mem _ h)
  have hs₀ : s₀ = ⟨o :: R, []⟩ := by
    obtain ⟨stack, faults⟩ := s₀
    simp only at hstack₀ h₀
    rw [hstack₀, h₀]
  -- the changed lines: the same places, with the one closer changed
  have hsplit' : placedLines 1 codes' = A ++ (p, k'.closer) :: C := by
    rw [placedLines_eq_map (f := fun r c => if r = p then k'.closer else c)
      (fun r c hc => ?_) (fun r c' hc' => ?_), hsplit]
    · have hkeep : ∀ xs : List ((Nat × Nat) × Char), (∀ x ∈ xs, x.1 ≠ p) →
          xs.map (fun x => (x.1, if x.1 = p then k'.closer else x.2)) = xs := fun xs h =>
        (List.map_congr_left fun x hx => by simp [h x hx]).trans (List.map_id xs)
      rw [List.map_append, List.map_cons, hkeep A fun x hx => (hA x hx).ne.symm,
        hkeep C fun x hx => (hC x hx).ne]
      simp
    · by_cases hrp : r = p
      · subst hrp
        simp [hp']
      · rw [hsame r hrp, hc]
        simp [hrp]
    · by_cases hrp : r = p
      · exact ⟨_, hrp ▸ hp⟩
      · exact ⟨c', (hsame r hrp).symm.trans hc'⟩
  refine ⟨o, ho, ?_⟩
  have hread : BracketScan.empty.readPlaced (placedLines 1 codes') =
      (⟨[], []⟩ : BracketScan).withFaults [.mismatched o k' p.1 p.2] := by
    rw [hsplit']
    simp only [BracketScan.readPlaced_append, BracketScan.readPlaced_cons]
    rw [hA₀, hs₀, BracketScan.step_foreign hk hrest, ← hwhole, ← BracketScan.readPlaced_withFaults]
    rfl
  rw [checkBrackets, bracketFaults_eq_readPlaced, hread]
  rfl

/-! ## One typo, one finding -/

/-- **One bracket typo gives one finding.** Start from code lines whose brackets are well
nested and make one typo in a closer, either of the two kinds:

* exchange two closers of different kinds with no bracket between them;
* put in place of a closer one of another kind, a kind that no bracket open before it has.

The bracket check then reports exactly one finding: a mismatch at the first closer changed,
against the bracket that the correct closer closed, and no finding after it. -/
theorem one_bracket_typo_one_finding :
    (∀ (codes codes' : List (List Char)) (p q : Nat × Nat) (k₁ k₂ : Bracket),
      WellNested codes.flatten → k₁ ≠ k₂ → PlaceBefore p q →
      charAt codes p.1 p.2 = some k₁.closer → charAt codes q.1 q.2 = some k₂.closer →
      (∀ (r : Nat × Nat) c, PlaceBefore p r → PlaceBefore r q → charAt codes r.1 r.2 = some c →
        ofOpener? c = none ∧ ofCloser? c = none) →
      charAt codes' p.1 p.2 = some k₂.closer → charAt codes' q.1 q.2 = some k₁.closer →
      (∀ r : Nat × Nat, r ≠ p → r ≠ q → charAt codes' r.1 r.2 = charAt codes r.1 r.2) →
      ∃ o : OpenBracket, o.kind = k₁ ∧
        checkBrackets codes' = [(BracketFault.mismatched o k₂ p.1 p.2).toDiagnostic]) ∧
    (∀ (codes codes' : List (List Char)) (p : Nat × Nat) (k k' : Bracket),
      WellNested codes.flatten → charAt codes p.1 p.2 = some k.closer →
      (∀ S, nestAfter [] (textBefore codes p) = some S → k' ∉ S) →
      charAt codes' p.1 p.2 = some k'.closer →
      (∀ r : Nat × Nat, r ≠ p → charAt codes' r.1 r.2 = charAt codes r.1 r.2) →
      ∃ o : OpenBracket, o.kind = k ∧
        checkBrackets codes' = [(BracketFault.mismatched o k' p.1 p.2).toDiagnostic]) :=
  ⟨fun _ _ _ _ _ _ hnest hk hpq hp hq hbetween hp' hq' hsame =>
      crossed_closers_reported_once hnest hk hpq hp hq hbetween hp' hq' hsame,
    fun _ _ _ _ _ hnest hp hopen hp' hsame => foreign_closer_reported_once hnest hp hopen hp' hsame⟩

/-- The lines with the character at a place replaced. -/
def setCharAt (codes : List (List Char)) (line column : Nat) (c : Char) : List (List Char) :=
  codes.modify (line - 1) fun l => l.set (column - 1) c

/-- Replacing the character at a place leaves every other place as it was. -/
theorem charAt_setCharAt_of_ne {codes : List (List Char)} {line column line' column' : Nat}
    {c : Char} (hline : 1 ≤ line) (hcol : 1 ≤ column) (hne : (line', column') ≠ (line, column)) :
    charAt (setCharAt codes line column c) line' column' = charAt codes line' column' := by
  rcases line' with _ | n
  · rfl
  rcases column' with _ | m
  · rfl
  simp only [charAt, setCharAt, List.getElem?_modify]
  by_cases hn : line - 1 = n
  · -- the same line: another column
    have hm : column - 1 ≠ m := fun hm => hne (by rw [Prod.mk.injEq]; omega)
    cases codes[n]? <;> simp [hn, hm]
  · cases codes[n]? <;> simp [hn]

/-- `one_bracket_typo_one_finding` on the two typos of the check's own examples: a crossed pair
`(a, [b)]` is one finding at its first closer, and a closer `}` that nothing encloses in
`[a(}]` is one finding, after which `]` closes `[`. -/
theorem one_bracket_typo_one_finding_examples :
    (∃ o : OpenBracket, o.kind = .square ∧ checkBrackets ["x = (a, [b)]".toList] =
      [(BracketFault.mismatched o .round 1 11).toDiagnostic]) ∧
    (∃ o : OpenBracket, o.kind = .round ∧ checkBrackets ["[a(\x7d]".toList] =
      [(BracketFault.mismatched o .curly 1 4).toDiagnostic]) := by
  have hcrossed : ["x = (a, [b)]".toList] =
      setCharAt (setCharAt ["x = (a, [b])".toList] 1 11 ')') 1 12 ']' := by decide
  have hforeign : ["[a(\x7d]".toList] = setCharAt ["[a()]".toList] 1 4 '\x7d' := by decide
  have hopen : nestAfter [] (textBefore ["[a()]".toList] (1, 4)) = some [.round, .square] := by
    decide
  refine ⟨one_bracket_typo_one_finding.1 ["x = (a, [b])".toList] _ (1, 11) (1, 12) .square .round
    (by unfold WellNested; decide) (by decide) (.inr ⟨rfl, by decide⟩) (by decide) (by decide) ?_ (by decide)
    (by decide) ?_, one_bracket_typo_one_finding.2 ["[a()]".toList] _ (1, 4) .round .curly
    (by unfold WellNested; decide) (by decide) ?_ (by decide) ?_⟩
  · -- no place lies strictly between two neighbouring columns
    intro r c h₁ h₂
    unfold PlaceBefore at h₁ h₂
    omega
  · intro r hp hq
    rw [hcrossed, charAt_setCharAt_of_ne (by decide) (by decide) hq,
      charAt_setCharAt_of_ne (by decide) (by decide) hp]
  · intro S hS
    rw [hopen, Option.some.injEq] at hS
    rw [← hS]
    decide
  · intro r hp
    rw [hforeign, charAt_setCharAt_of_ne (by decide) (by decide) hp]

end PineCheck
