import PineCheck.Source.Line
/-!
# The lines of a text put together from parts

A text is cut into pieces at its line feeds (`splitAt`); a final line feed ends the last line
instead of starting an empty one, and each line loses one carriage return at its end
(`physicalLines`). The laws of this library that change one part of a file and keep the rest
need that cut to respect the parts: a part that ends with a line feed gives its own lines,
and the rest gives the lines after them (`physicalLines_append`). Numbered, the lines of the
first part keep their numbers and those of the rest are moved on by the number of lines
before them (`classifyLines_append`).

A piece holds no separator, and a text has one more piece than separators
(`length_splitAt`), so the lines of a part that ends with a line feed are as many as its line
feeds.
-/

namespace PineCheck

/-! ## Numbering -/

/-- A line with its number changed by `f`. -/
def Line.renumber (f : Nat → Nat) (l : Line) : Line := { l with number := f l.number }

namespace Line

variable (f : Nat → Nat) (l : Line)

/-- A renumbered line has the new number. -/
@[simp] theorem renumber_number : (l.renumber f).number = f l.number := rfl
/-- A renumbered line keeps its text. -/
@[simp] theorem renumber_text : (l.renumber f).text = l.text := rfl
/-- A renumbered line keeps its code. -/
@[simp] theorem renumber_code : (l.renumber f).code = l.code := rfl
/-- A renumbered line keeps its indent. -/
@[simp] theorem renumber_indent : (l.renumber f).indent = l.indent := rfl
/-- A renumbered line keeps its kind. -/
@[simp] theorem renumber_kind : (l.renumber f).kind = l.kind := rfl

/-- Classifying a text and renumbering the line is classifying it under the new number. -/
theorem classify_renumber (n : Nat) (text : List Char) :
    (classify n text).renumber f = classify (f n) text := rfl

end Line

/-! ## Cutting at a separator -/

section Split

variable {sep : Char}

/-- Cutting a text at a separator gives at least one piece. -/
theorem splitAt_ne_nil (sep : Char) (cs : List Char) : splitAt sep cs ≠ [] := by
  cases cs with
  | nil => simp [splitAt]
  | cons c rest =>
    unfold splitAt
    split
    · simp
    · split <;> simp

/-- A separator ends the first piece. -/
theorem splitAt_sep_cons (rest : List Char) : splitAt sep (sep :: rest) = [] :: splitAt sep rest := by
  rw [splitAt, if_pos (beq_self_eq_true sep)]

/-- A character other than the separator joins the first piece. -/
theorem splitAt_cons_of_ne {c : Char} (hc : c ≠ sep) {rest piece : List Char}
    {pieces : List (List Char)} (h : splitAt sep rest = piece :: pieces) :
    splitAt sep (c :: rest) = (c :: piece) :: pieces := by
  rw [splitAt, if_neg (by simpa using hc), h]

/-- A stretch without the separator, then the separator: the stretch is the first piece. -/
theorem splitAt_append_sep {x : List Char} (hx : sep ∉ x) (rest : List Char) :
    splitAt sep (x ++ sep :: rest) = x :: splitAt sep rest := by
  induction x with
  | nil => exact splitAt_sep_cons rest
  | cons c x ih =>
    have hc : c ≠ sep := fun h => hx (h ▸ List.mem_cons_self)
    rw [List.cons_append, splitAt_cons_of_ne hc (ih fun h => hx (List.mem_cons_of_mem _ h))]

/-- A text without the separator is one piece. -/
theorem splitAt_of_not_mem {x : List Char} (hx : sep ∉ x) : splitAt sep x = [x] := by
  induction x with
  | nil => rfl
  | cons c x ih =>
    have hc : c ≠ sep := fun h => hx (h ▸ List.mem_cons_self)
    rw [splitAt_cons_of_ne hc (ih fun h => hx (List.mem_cons_of_mem _ h))]

/-- A text has one piece more than separators. -/
theorem length_splitAt (cs : List Char) : (splitAt sep cs).length = cs.count sep + 1 := by
  induction cs with
  | nil => rfl
  | cons c rest ih =>
    by_cases hc : c = sep
    · subst hc
      rw [splitAt_sep_cons, List.length_cons, ih, List.count_cons_self]
    · obtain ⟨p, ps, hsplit⟩ := List.exists_cons_of_ne_nil (splitAt_ne_nil sep rest)
      rw [splitAt_cons_of_ne hc hsplit, List.count_cons_of_ne hc, ← ih, hsplit]
      rfl

/-- Every character of a piece is a character of the text cut. -/
theorem mem_of_mem_splitAt {x : Char} {cs piece : List Char} (hp : piece ∈ splitAt sep cs)
    (hx : x ∈ piece) : x ∈ cs := by
  induction cs generalizing piece with
  | nil => simp_all [splitAt]
  | cons c rest ih =>
    by_cases hc : c = sep
    · subst hc
      rw [splitAt_sep_cons] at hp
      rcases List.mem_cons.1 hp with rfl | hp
      · simp at hx
      · exact List.mem_cons_of_mem _ (ih hp hx)
    · obtain ⟨p, ps, hsplit⟩ := List.exists_cons_of_ne_nil (splitAt_ne_nil sep rest)
      rw [splitAt_cons_of_ne hc hsplit] at hp
      rcases List.mem_cons.1 hp with rfl | hp
      · rcases List.mem_cons.1 hx with rfl | hx
        · exact List.mem_cons_self
        · exact List.mem_cons_of_mem _ (ih (by rw [hsplit]; exact List.mem_cons_self) hx)
      · exact List.mem_cons_of_mem _ (ih (by rw [hsplit]; exact List.mem_cons_of_mem _ hp) hx)

/-- A separator between two texts: the pieces of the first, then those of the second. -/
theorem splitAt_append_cons_sep (x rest : List Char) :
    splitAt sep (x ++ sep :: rest) = splitAt sep x ++ splitAt sep rest := by
  induction x with
  | nil => rw [List.nil_append, splitAt_sep_cons]; rfl
  | cons c x ih =>
    by_cases hc : c = sep
    · subst hc
      rw [List.cons_append, splitAt_sep_cons, splitAt_sep_cons, ih, List.cons_append]
    · obtain ⟨p, ps, hsplit⟩ := List.exists_cons_of_ne_nil (splitAt_ne_nil sep x)
      rw [List.cons_append, splitAt_cons_of_ne hc (by rw [ih, hsplit, List.cons_append]),
        splitAt_cons_of_ne hc hsplit, List.cons_append]

/-- Every character but the separator lies in a piece. -/
theorem exists_mem_splitAt {x : Char} {cs : List Char} (hx : x ∈ cs) (hsep : x ≠ sep) :
    ∃ piece ∈ splitAt sep cs, x ∈ piece := by
  induction cs with
  | nil => simp at hx
  | cons c rest ih =>
    by_cases hc : c = sep
    · subst hc
      have hrest : x ∈ rest := (List.mem_cons.1 hx).resolve_left hsep
      obtain ⟨piece, hp, hxp⟩ := ih hrest
      rw [splitAt_sep_cons]
      exact ⟨piece, List.mem_cons_of_mem _ hp, hxp⟩
    · obtain ⟨p, ps, hsplit⟩ := List.exists_cons_of_ne_nil (splitAt_ne_nil sep rest)
      rw [splitAt_cons_of_ne hc hsplit]
      rcases List.mem_cons.1 hx with rfl | hrest
      · exact ⟨x :: p, List.mem_cons_self, List.mem_cons_self⟩
      · obtain ⟨piece, hp, hxp⟩ := ih hrest
        rw [hsplit] at hp
        rcases List.mem_cons.1 hp with rfl | hp
        · exact ⟨c :: piece, List.mem_cons_self, List.mem_cons_of_mem _ hxp⟩
        · exact ⟨piece, List.mem_cons_of_mem _ hp, hxp⟩

/-- **A part that ends with the separator** gives its pieces but the empty last one, and the
rest gives the pieces after them. -/
theorem splitAt_append_of_getLast {p : List Char} (hp : p.getLast? = some sep) (r : List Char) :
    splitAt sep (p ++ r) = (splitAt sep p).dropLast ++ splitAt sep r := by
  induction p with
  | nil => simp at hp
  | cons c p ih =>
    cases p with
    | nil =>
      obtain rfl : c = sep := by simpa using hp
      rw [List.singleton_append, splitAt_sep_cons, splitAt_sep_cons]
      rfl
    | cons c' p' =>
      have ih := ih (by rw [List.getLast?_cons_cons] at hp; exact hp)
      by_cases hc : c = sep
      · subst hc
        rw [List.cons_append, splitAt_sep_cons, splitAt_sep_cons, ih,
          List.dropLast_cons_of_ne_nil (splitAt_ne_nil _ _)]
        rfl
      · -- the part holds the separator at its end, so it has a piece after the first
        obtain ⟨a, as, hsplit⟩ := List.exists_cons_of_ne_nil (splitAt_ne_nil sep (c' :: p'))
        have has : as ≠ [] := by
          intro has
          have hlen := @length_splitAt sep (c' :: p')
          rw [hsplit, has, List.length_singleton] at hlen
          have hmem : sep ∈ c' :: p' := List.mem_of_getLast? (by
            rw [List.getLast?_cons_cons] at hp; exact hp)
          have := List.count_pos_iff.2 hmem
          omega
        rw [hsplit, List.dropLast_cons_of_ne_nil has] at ih
        rw [List.cons_append, splitAt_cons_of_ne hc (ih.trans List.cons_append),
          splitAt_cons_of_ne hc hsplit, List.dropLast_cons_of_ne_nil has, List.cons_append]

end Split

/-! ## Carriage returns at line ends -/

/-- Dropping a final carriage return keeps a first character that is none. -/
theorem dropCarriageReturn_cons {c : Char} (hc : c ≠ '\r') (l : List Char) :
    dropCarriageReturn (c :: l) = c :: dropCarriageReturn l := by
  cases l with
  | nil => simp [dropCarriageReturn, hc]
  | cons c' l' =>
    unfold dropCarriageReturn
    rw [List.getLast?_cons_cons]
    split <;> simp

/-- A line with no carriage return keeps all of its characters. -/
theorem dropCarriageReturn_of_not_mem {l : List Char} (h : '\r' ∉ l) :
    dropCarriageReturn l = l := by
  unfold dropCarriageReturn
  rw [if_neg]
  intro hlast
  exact h (List.mem_of_getLast? (by simpa using hlast))

/-- A line that does not end in a carriage return keeps all of its characters. -/
theorem dropCarriageReturn_of_getLast? {l : List Char} (h : l.getLast? ≠ some '\r') :
    dropCarriageReturn l = l := by
  unfold dropCarriageReturn
  rw [if_neg (by simpa using h)]

/-! ## Physical lines -/

/-- **The lines of a text whose first part ends with a line feed** are the lines of that part,
then the lines of the rest. -/
theorem physicalLines_append {p : List Char} (hp : p.getLast? = some '\n') {r : List Char}
    (hr : r ≠ []) : physicalLines (p ++ r) = physicalLines p ++ physicalLines r := by
  have hlast : (p ++ r).getLast? = r.getLast? := by
    rw [List.getLast?_append]
    cases h : r.getLast? with
    | none => exact absurd (List.getLast?_eq_none_iff.1 h) hr
    | some y => rfl
  unfold physicalLines
  dsimp only
  rw [hlast, splitAt_append_of_getLast hp, hp, beq_self_eq_true, if_pos rfl]
  split
  · rw [List.dropLast_append_of_ne_nil (splitAt_ne_nil _ _), List.map_append]
  · rw [List.map_append]

/-- A part that ends with a line feed has as many lines as line feeds. -/
theorem length_physicalLines {p : List Char} (hp : p.getLast? = some '\n') :
    (physicalLines p).length = p.count '\n' := by
  unfold physicalLines
  dsimp only
  rw [hp, beq_self_eq_true, if_pos rfl, List.length_map, List.length_dropLast, length_splitAt]
  rfl

/-- One line and its line feed. -/
theorem physicalLines_line {x : List Char} (hx : '\n' ∉ x) :
    physicalLines (x ++ ['\n']) = [dropCarriageReturn x] := by
  unfold physicalLines
  dsimp only
  rw [List.getLast?_append, List.getLast?_singleton, Option.some_or, beq_self_eq_true, if_pos rfl,
    splitAt_append_sep hx]
  rfl

/-- A line, its line feed and more: the line is the first. -/
theorem physicalLines_line_append {x : List Char} (hx : '\n' ∉ x) {r : List Char} (hr : r ≠ []) :
    physicalLines (x ++ '\n' :: r) = dropCarriageReturn x :: physicalLines r := by
  have hlast : (x ++ ['\n']).getLast? = some '\n' := by simp
  rw [← List.singleton_append, ← List.append_assoc, physicalLines_append hlast hr,
    physicalLines_line hx, List.singleton_append]

/-- **The numbered lines of a text put together from parts**: those of the first part, then
those of the rest, numbered on after them. -/
theorem classifyLines_append {p : List Char} (hp : p.getLast? = some '\n') {r : List Char}
    (hr : r ≠ []) :
    classifyLines (p ++ r) =
      classifyLines p ++ (classifyLines r).map (Line.renumber (· + p.count '\n')) := by
  unfold classifyLines
  rw [physicalLines_append hp hr, List.zipIdx_append, List.map_append, length_physicalLines hp,
    @List.zipIdx_eq_map_add _ _ (0 + p.count '\n'), List.map_map, List.map_map]
  congr 1
  apply List.map_congr_left
  intro ⟨text, j⟩ _
  simp only [Function.comp_apply, Line.classify_renumber]
  congr 1
  omega

/-- The first line of a text, then the lines after it, numbered on by one. -/
theorem classifyLines_line_append {x : List Char} (hx : '\n' ∉ x) {r : List Char} (hr : r ≠ []) :
    classifyLines (x ++ '\n' :: r) =
      Line.classify 1 (dropCarriageReturn x) :: (classifyLines r).map (Line.renumber (· + 1)) := by
  have hlast : (x ++ ['\n']).getLast? = some '\n' := by simp
  have hfirst : classifyLines (x ++ ['\n']) = [Line.classify 1 (dropCarriageReturn x)] := by
    unfold classifyLines
    rw [physicalLines_line hx]
    rfl
  have hcount : (x ++ ['\n']).count '\n' = 1 := by
    rw [List.count_append, List.count_eq_zero_of_not_mem hx, List.count_singleton_self]
  rw [← List.singleton_append, ← List.append_assoc, classifyLines_append hlast hr, hfirst, hcount,
    List.singleton_append]

end PineCheck
