import PineCheck.Workspace.Basic
/-!
# How the tree changes

Frame lemmas for the workspace. Putting an entry changes the entry at that path and no other.
A resolution that ends at a directory passes through directories only, so it survives any
change that keeps directories, and it goes on from there one component at a time. From these,
`writeFile` into a resolved directory and `makeDir`/`makeDirs` are described once, without
unfolding them again: `makeDirs` only adds directories (`AddsDirs`) and leaves the path a
directory.
-/

namespace PineCheck
namespace Workspace

variable {w w' : Workspace}

/-- The entry at a path below the top is the first one listed with that path. -/
theorem node?_of_ne_nil {p : RelPath} (hp : p ≠ []) :
    w.node? p = (w.entries.find? (·.1 == p)).map (·.2) := by
  simp [node?, hp]

/-- Putting an entry at a path below the top sets that path and leaves every other path as it was.
-/
theorem node?_put {p : RelPath} (hp : p ≠ []) (n : Node) (q : RelPath) :
    (w.put p n).node? q = if q = p then some n else w.node? q := by
  by_cases hq : q = []
  · subst hq
    simp [node?, Ne.symm hp]
  rw [node?_of_ne_nil hq, node?_of_ne_nil hq]
  unfold put
  split
  case isTrue hany =>
    simp only [List.find?_map, Option.map_map]
    by_cases hqp : q = p
    · subst hqp
      have hsame : ((·.1 == q) ∘ fun e : RelPath × Node => if e.1 == q then (q, n) else e) =
          (·.1 == q) := by
        funext e
        by_cases he : e.1 = q <;> simp [he]
      obtain ⟨e, he⟩ : ∃ e, w.entries.find? (·.1 == q) = some e :=
        Option.isSome_iff_exists.1 (List.find?_isSome.2 (List.any_eq_true.1 hany))
      have hkey : e.1 = q := by simpa using List.find?_some he
      rw [hsame, he]
      simp [hkey]
    · have hsame : ((·.1 == q) ∘ fun e : RelPath × Node => if e.1 == p then (p, n) else e) =
          (·.1 == q) := by
        funext e
        by_cases he : e.1 = p <;> simp [he]
      rw [hsame, if_neg hqp]
      cases hfind : w.entries.find? (·.1 == q) with
      | none => rfl
      | some e =>
        have hkey : e.1 = q := by simpa using List.find?_some hfind
        simp [hkey, hqp]
  case isFalse hnone =>
    rw [List.find?_append]
    by_cases hqp : q = p
    · subst hqp
      have hfree : w.entries.find? (·.1 == q) = none := by
        rw [List.find?_eq_none]
        intro e he hkey
        exact hnone (List.any_eq_true.2 ⟨e, he, hkey⟩)
      simp [hfree]
    · simp [Ne.symm hqp, hqp]

/-- Resolution that ends at a directory goes on from there. -/
theorem resolveFrom_append {here d p : RelPath} (h : w.resolveFrom here p = .found d .dir)
    (q : RelPath) : w.resolveFrom here (p ++ q) = w.resolveFrom d q := by
  induction p generalizing here with
  | nil =>
    have hd : here = d := by simpa [resolveFrom] using h
    rw [List.nil_append, hd]
  | cons c rest ih =>
    rw [List.cons_append, resolveFrom]
    rw [resolveFrom] at h
    split at h
    · cases h
    · rw [if_neg ‹_›]
      split at h
      next => cases h
      next => exact ih h
      next => split at h <;> cases h

/-- Putting an entry leaves every other path as it was. -/
theorem node?_put_of_ne {p q : RelPath} (hp : p ≠ []) (n : Node) (hq : q ≠ p) :
    (w.put p n).node? q = w.node? q := by
  rw [node?_put hp, if_neg hq]

/-- Putting an entry where no directory stood keeps every directory. -/
theorem keepsDirs_put {p : RelPath} (hp : w.node? p ≠ some .dir) (n : Node) (q : RelPath)
    (hq : w.node? q = some .dir) : (w.put p n).node? q = some .dir := by
  have hne : q ≠ p := by
    rintro rfl
    exact hp hq
  have hpne : p ≠ [] := by
    rintro rfl
    exact hp rfl
  rw [node?_put_of_ne hpne n hne, hq]

/-- A resolution that ends at a directory passes through directories only, so it stands in
any tree that keeps the directories. -/
theorem resolveFrom_of_keepsDirs {here d p : RelPath} (h : w.resolveFrom here p = .found d .dir)
    (hdirs : ∀ q, w.node? q = some .dir → w'.node? q = some .dir) :
    w'.resolveFrom here p = .found d .dir := by
  induction p generalizing here with
  | nil => exact h
  | cons c rest ih =>
    rw [resolveFrom] at h ⊢
    split at h
    · cases h
    · rw [if_neg ‹_›]
      split at h
      next => cases h
      next hn => rw [hdirs _ hn]; exact ih h
      next => split at h <;> cases h

/-- Below a resolved directory, one more component resolves to the entry there. -/
theorem resolveFrom_child {here d p : RelPath} (h : w.resolveFrom here p = .found d .dir)
    {c : String} (hc : c ≠ "..") :
    w.resolveFrom here (p ++ [c]) = (w.node? (d ++ [c])).elim .missing (.found (d ++ [c])) := by
  rw [resolveFrom_append h, resolveFrom]
  have hc' : (c == "..") = false := by simpa using hc
  simp only [hc', Bool.false_and, Bool.false_eq_true, if_false]
  cases hn : w.node? (d ++ [c]) with
  | none => rfl
  | some n => cases n <;> rfl

/-- A component other than `..` below a directory resolves to the entry it names there. -/
theorem lookup_child {dir d : RelPath} (h : w.lookup dir = .found d .dir) {c : String}
    (hc : c ≠ "..") :
    w.lookup (dir ++ [c]) = (w.node? (d ++ [c])).elim .missing (.found (d ++ [c])) :=
  resolveFrom_child h hc

/-- A path below a directory has an entry exactly when its component names one there. -/
theorem hasEntry_child {dir d : RelPath} (h : w.lookup dir = .found d .dir) {c : String}
    (hc : c ≠ "..") : w.hasEntry (dir ++ [c]) = (w.node? (d ++ [c])).isSome := by
  rw [hasEntry, lookup_child h hc]
  cases w.node? (d ++ [c]) <;> rfl

/-- A file below a directory reads as its bytes. -/
theorem readFile_child {dir d : RelPath} (h : w.lookup dir = .found d .dir) {c : String}
    (hc : c ≠ "..") {bytes : List UInt8} (hn : w.node? (d ++ [c]) = some (.file bytes)) :
    w.readFile (dir ++ [c]) = .ok bytes := by
  rw [readFile, lookup_child h hc, hn]
  rfl

/-- Writing a file into a resolved directory puts it at the resolved path, unless a directory
stands there. -/
theorem writeFile_child {dir d : RelPath} (h : w.lookup dir = .found d .dir) (c : String)
    (bytes : List UInt8) :
    w.writeFile (dir ++ [c]) bytes =
      if w.node? (d ++ [c]) = some .dir then .error ⟨.isDirectory, (dir ++ [c]).render⟩
      else .ok (w.put (d ++ [c]) (.file bytes)) := by
  rw [writeFile, List.getLast?_concat, List.dropLast_concat]
  simp only [h]
  split
  next hn => rw [if_pos hn]
  next hn => rw [if_neg hn]

/-- What a successful `makeDir` did: its parent resolved to a directory where the new name
was free, and a directory now stands there. -/
theorem makeDir_eq_ok {p : RelPath} (h : w.makeDir p = .ok w') :
    ∃ d c, p = p.dropLast ++ [c] ∧ w.lookup p.dropLast = .found d .dir ∧
      w.node? (d ++ [c]) = none ∧ w' = w.put (d ++ [c]) .dir := by
  unfold makeDir at h
  split at h
  next => cases h
  next c hc =>
    split at h
    next d hd =>
      dsimp only at h
      split at h
      next => cases h
      next hn =>
        cases h
        have hp : p = p.dropLast ++ [c] := by
          obtain ⟨ys, rfl⟩ := List.getLast?_eq_some_iff.1 hc
          simp
        exact ⟨d, c, hp, hd, hn, rfl⟩
    all_goals cases h

/-- A path is a directory exactly when it resolves to one. -/
theorem isDir_iff {p : RelPath} : w.isDir p = true ↔ ∃ d, w.lookup p = .found d .dir := by
  unfold isDir
  split <;> simp_all

/-- The tree `w'` is `w` with new directories: every entry of `w` stands, and every other
entry of `w'` is a directory. -/
def AddsDirs (w w' : Workspace) : Prop :=
  ∀ q, w'.node? q = w.node? q ∨ (w.node? q = none ∧ w'.node? q = some .dir)

namespace AddsDirs

/-- A tree adds no directories to itself. -/
theorem refl (w : Workspace) : AddsDirs w w := fun _ => .inl rfl

/-- New directories added twice are new directories added once. -/
theorem trans {w₁ w₂ w₃ : Workspace} (h₁ : AddsDirs w₁ w₂) (h₂ : AddsDirs w₂ w₃) :
    AddsDirs w₁ w₃ := by
  intro q
  rcases h₁ q with h | ⟨hnone, hdir⟩ <;> rcases h₂ q with h' | ⟨hnone', hdir'⟩
  · exact .inl (h'.trans h)
  · exact .inr ⟨h ▸ hnone', hdir'⟩
  · exact .inr ⟨hnone, h'.trans hdir⟩
  · simp [hdir] at hnone'

/-- Every entry that was there stands after new directories are added. -/
theorem node?_eq (h : AddsDirs w w') {q : RelPath} (hq : w.node? q ≠ none) :
    w'.node? q = w.node? q :=
  (h q).resolve_right fun hnew => hq hnew.1

/-- A path free after new directories were added was free before. -/
theorem node?_eq_none (h : AddsDirs w w') {q : RelPath} (hq : w'.node? q = none) :
    w.node? q = none := by
  rcases h q with heq | ⟨hnone, -⟩
  · rw [← heq, hq]
  · exact hnone

/-- A directory stays a directory after new directories are added. -/
theorem keepsDirs (h : AddsDirs w w') (q : RelPath) (hq : w.node? q = some .dir) :
    w'.node? q = some .dir := by
  rw [h.node?_eq (by simp [hq]), hq]

end AddsDirs

/-- A directory put where nothing stood adds a directory. -/
theorem addsDirs_put {p : RelPath} (hp : w.node? p = none) : AddsDirs w (w.put p .dir) := by
  have hne : p ≠ [] := by
    rintro rfl
    simp [node?] at hp
  intro q
  rw [node?_put hne]
  by_cases hq : q = p
  · subst hq
    exact .inr ⟨hp, by simp⟩
  · exact .inl (if_neg hq)

/-- A successful `makeDir` adds a directory and changes nothing else. -/
theorem makeDir_addsDirs {p : RelPath} (h : w.makeDir p = .ok w') : AddsDirs w w' := by
  obtain ⟨d, c, -, -, hn, rfl⟩ := makeDir_eq_ok h
  exact addsDirs_put hn

/-- A directory just made by `makeDir` resolves as one. -/
theorem isDir_of_makeDir {p : RelPath} (h : w.makeDir p = .ok w') (hc : p.getLast? ≠ some "..") :
    w'.isDir p = true := by
  obtain ⟨d, c, hp, hparent, hn, rfl⟩ := makeDir_eq_ok h
  have hc' : c ≠ ".." := by
    rintro rfl
    exact hc (by rw [hp]; simp)
  have hadds := addsDirs_put hn
  have hparent' := resolveFrom_of_keepsDirs hparent hadds.keepsDirs
  rw [isDir_iff, hp]
  refine ⟨d ++ [c], ?_⟩
  rw [lookup_child hparent' hc', node?_put (by simp)]
  simp

/-- A successful run of `makeDir` along a path adds directories and changes nothing else. -/
theorem makeDirsRev_addsDirs {rs : List String} (h : w.makeDirsRev rs = .ok w') :
    AddsDirs w w' := by
  induction rs generalizing w w' with
  | nil =>
    cases h
    exact .refl w
  | cons c rest ih =>
    rw [makeDirsRev] at h
    split at h
    next hmk =>
      cases h
      exact makeDir_addsDirs hmk
    next =>
      split at h
      next =>
        split at h
        next hrest =>
          split at h
          next hmk =>
            cases h
            exact (ih hrest).trans (makeDir_addsDirs hmk)
          next =>
            split at h
            · cases h
              exact ih hrest
            · cases h
        next => cases h
      next =>
        split at h
        · cases h
          exact .refl w
        · cases h

/-- `makeDirs` only adds directories. -/
theorem makeDirs_addsDirs {p : RelPath} (h : w.makeDirs p = .ok w') : AddsDirs w w' :=
  makeDirsRev_addsDirs h

/-- After `makeDirs` the path is a directory, whichever way it got there: made now, made after
its missing parents, or there already. -/
theorem isDir_of_makeDirs {p : RelPath} (h : w.makeDirs p = .ok w')
    (hc : p.getLast? ≠ some "..") : w'.isDir p = true := by
  unfold makeDirs at h
  cases hrev : p.reverse with
  | nil =>
    rw [hrev] at h
    cases h
    rw [List.reverse_eq_nil_iff.1 hrev]
    rfl
  | cons c rest =>
    have hp : (c :: rest).reverse = p := by rw [← hrev, List.reverse_reverse]
    rw [hrev, makeDirsRev] at h
    rw [hp] at h
    split at h
    next hmk =>
      cases h
      exact isDir_of_makeDir hmk hc
    next =>
      split at h
      next =>
        split at h
        next =>
          split at h
          next hmk =>
            cases h
            exact isDir_of_makeDir hmk hc
          next =>
            split at h
            next hdir =>
              cases h
              exact hdir
            next => cases h
        next => cases h
      next =>
        split at h
        next hcond =>
          cases h
          exact (Bool.and_eq_true_iff.1 hcond).2
        next => cases h

end Workspace
end PineCheck
