import PineCheck.Settings.Resolve
/-!
# Resolving the settings of a run

How resolution ends, case by case (`settings_resolution_outcomes`). With no settings file the
defaults hold and nothing is said. A file that cannot be read, does not parse or holds no
mapping leaves the defaults in force with one warning, `Failed to read`. A file whose reading
fails in a way that is no reading problem makes resolution fail with that failure.

A file that holds a mapping has its unknown keys named in a warning, sorted by code point and
joined by commas, before its known keys are laid over the defaults. Sorting and joining are the
two steps that can fail: both need texts. When every unknown key is a text, both succeed
(`unknownKeysWarning_of_texts`) and resolution returns the merged settings, or the defaults with
a last `Invalid` warning. When an unknown key is not a text (YAML allows numbers, booleans,
dates and null as keys), either the sort meets two values it cannot compare, or it succeeds
with the same values in another order and the join meets the key that is not a text: either
way resolution fails with a `TypeError` (`unknownKeysWarning_of_not_texts`). The sort keeps its
values (`perm_of_sortValues`), which is what makes the second case fail too.

Main statement: `settings_resolution_outcomes`.
-/

namespace PineCheck

/-! ## Steps that fail -/

/-- A computation followed by another that succeeds had a first step that succeeded. -/
theorem exists_of_bind_eq_ok {ε α β : Type} {x : Except ε α} {f : α → Except ε β} {b : β}
    (h : x >>= f = .ok b) : ∃ a, x = .ok a ∧ f a = .ok b := by
  cases x with
  | error e => cases h
  | ok a => exact ⟨a, rfl, h⟩

/-- Rewriting the error of a success leaves it as it is. -/
theorem mapError_ok {ε ε' α : Type} (f : ε → ε') (a : α) :
    (Except.ok a : Except ε α).mapError f = .ok a := rfl

/-- Rewriting the error of a failure rewrites its error. -/
theorem mapError_error {ε ε' α : Type} (f : ε → ε') (e : ε) :
    (Except.error e : Except ε α).mapError f = .error (f e) := rfl

/-- A computation whose first step fails fails. -/
theorem exists_bind_eq_error {ε α β : Type} {x : Except ε α} {f : α → Except ε β}
    (h : ∃ e, x = .error e) : ∃ e, x >>= f = .error e := by
  obtain ⟨e, rfl⟩ := h
  exact ⟨e, rfl⟩

namespace Value

/-! ## Texts among values -/

/-- A text at the front of a list of values is put in front of the texts of the rest. -/
theorem texts?_cons_str (s : String) (xs : List Value) :
    texts? (.str s :: xs) = (texts? xs).map (s :: ·) := by
  unfold texts?
  rw [List.mapM_cons]
  simp only [Option.pure_def, Option.bind_eq_bind, Option.bind_some]
  rw [Option.map_eq_bind]
  rfl

/-- A list of texts read as values gives the texts back. -/
theorem texts?_map_str (ts : List String) : texts? (ts.map .str) = some ts := by
  induction ts with
  | nil => rfl
  | cons t ts ih => rw [List.map_cons, texts?_cons_str, ih]; rfl

/-- Values whose texts are `ts` are the texts `ts`. -/
theorem eq_map_str_of_texts? {xs : List Value} {ts : List String} (h : texts? xs = some ts) :
    xs = ts.map .str := by
  induction xs generalizing ts with
  | nil =>
    simp only [texts?, List.mapM_nil] at h
    cases h
    rfl
  | cons x xs ih =>
    cases x with
    | str s =>
      rw [texts?_cons_str] at h
      obtain ⟨ts', hts', rfl⟩ := Option.map_eq_some_iff.1 h
      rw [ih hts', List.map_cons]
    | _ => simp [texts?] at h

/-- Values that are not all texts hold one that is not. -/
theorem exists_not_str_of_texts? {xs : List Value} (h : texts? xs = none) :
    ∃ x ∈ xs, ∀ s, x ≠ .str s := by
  induction xs with
  | nil => simp [texts?] at h
  | cons x xs ih =>
    cases x with
    | str s =>
      rw [texts?_cons_str, Option.map_eq_none_iff] at h
      obtain ⟨y, hy, hne⟩ := ih h
      exact ⟨y, List.mem_cons_of_mem _ hy, hne⟩
    | _ => exact ⟨_, List.mem_cons_self, fun s => by simp⟩

/-! ## Sorting -/

/-- A run of the sort's insertion loop keeps every value it is given: each step inserts its
pivot somewhere in the values sorted so far. -/
theorem perm_of_forIn_insert {f : Value → Array Value → Except String (ForInStep (Array Value))}
    (hf : ∀ p acc r, f p acc = .ok r → ∃ acc', r = .yield acc' ∧ acc'.toList.Perm (acc.toList ++ [p])) :
    ∀ (ps : List Value) (acc res : Array Value), forIn ps acc f = .ok res →
      res.toList.Perm (acc.toList ++ ps) := by
  intro ps
  induction ps with
  | nil =>
    intro acc res h
    cases h
    simp
  | cons p ps ih =>
    intro acc res h
    rw [List.forIn_cons] at h
    cases hp : f p acc with
    | error e => simp [hp, bind, Except.bind] at h
    | ok r =>
      obtain ⟨acc', rfl, hperm⟩ := hf p acc r hp
      simp only [hp, bind, Except.bind] at h
      have hrest : res.toList.Perm (acc'.toList ++ ps) := ih acc' res h
      exact hrest.trans ((hperm.append_right ps).trans (List.Perm.of_eq (by simp)))

/-- **Sorting keeps the values**: what the sort returns is a reordering of what it is given. -/
theorem perm_of_sortValues {xs ys : List Value} (h : sortValues xs = .ok ys) : ys.Perm xs := by
  unfold sortValues at h
  split at h
  · cases h
    exact List.Perm.refl _
  · split at h
    · -- all texts: sorted by merging
      rename_i ts hts
      cases h
      rw [eq_map_str_of_texts? hts]
      exact (List.mergeSort_perm ts _).map _
    · obtain ⟨⟨n, descending⟩, -, h⟩ := exists_of_bind_eq_ok h
      obtain ⟨res, hloop, h⟩ := exists_of_bind_eq_ok h
      simp only [pure, Except.pure, Except.ok.injEq] at h
      subst h
      have hinsert := perm_of_forIn_insert (fun p acc r hr => by
        cases hi : insertionPoint acc p with
        | error e => simp [hi, bind, Except.bind] at hr
        | ok place =>
          simp only [hi, bind, Except.bind, pure, Except.pure, Except.ok.injEq] at hr
          subst hr
          refine ⟨_, rfl, ?_⟩
          -- the pivot goes between the two parts of the values sorted so far
          rw [List.toList_toArray]
          have hsplit : (p :: (List.take place acc.toList ++ List.drop place acc.toList)).Perm
              (acc.toList ++ [p]) := by
            rw [List.take_append_drop]
            exact (List.perm_append_singleton _ _).symm
          exact List.perm_middle.trans hsplit)
        _ _ _ hloop
      -- the run at the front, reversed or not, holds the values it started with
      have hrun : (if descending = true then (xs.take n).reverse
          else xs.take n).toArray.toList.Perm (xs.take n) := by
        rw [List.toList_toArray]
        split
        · exact List.reverse_perm _
        · exact List.Perm.refl _
      exact hinsert.trans ((hrun.append_right _).trans
        (List.Perm.of_eq (List.take_append_drop n xs)))

/-- Texts are sorted by merging, by code point. -/
theorem sortValues_map_str (ts : List String) :
    sortValues (ts.map .str) = .ok ((ts.mergeSort fun a b => !Text.textLess b a).map .str) := by
  unfold sortValues
  split
  · -- fewer than two texts are sorted as they are
    rename_i hlen
    rw [List.length_map] at hlen
    match ts, hlen with
    | [], _ => rw [List.mergeSort_nil]; rfl
    | [t], _ => rw [List.mergeSort_singleton]; rfl
  · rw [texts?_map_str]
    rfl

/-! ## Joining -/

/-- The join's loop over texts appends them, one after another. -/
theorem forIn_map_str {f : Value × Nat → Array String → Except String (ForInStep (Array String))}
    (hf : ∀ s i acc, f (.str s, i) acc = .ok (.yield (acc.push s))) :
    ∀ (ts : List String) (is : List Nat) (acc : Array String), ts.length ≤ is.length →
      forIn ((ts.map .str).zip is) acc f = .ok (acc ++ ts.toArray) := by
  intro ts
  induction ts with
  | nil => intro is acc _; simp [pure, Except.pure]
  | cons t ts ih =>
    intro is acc hlen
    cases is with
    | nil => simp at hlen
    | cons i is =>
      rw [List.map_cons, List.zip_cons_cons, List.forIn_cons, hf]
      simp only [bind, Except.bind]
      rw [ih is (acc.push t) (by simpa using hlen)]
      simp

/-- The join's loop stops with an error at a value that is not a text. -/
theorem forIn_eq_error {f : Value × Nat → Array String → Except String (ForInStep (Array String))}
    (hf : ∀ s i acc, f (.str s, i) acc = .ok (.yield (acc.push s)))
    (hother : ∀ x i acc, (∀ s, x ≠ .str s) → ∃ m, f (x, i) acc = .error m) :
    ∀ (xs : List Value) (is : List Nat) (acc : Array String), xs.length ≤ is.length →
      (∃ x ∈ xs, ∀ s, x ≠ .str s) → ∃ m, forIn (xs.zip is) acc f = .error m := by
  intro xs
  induction xs with
  | nil => intro is acc _ h; simp at h
  | cons x xs ih =>
    intro is acc hlen hx
    cases is with
    | nil => simp at hlen
    | cons i is =>
      rw [List.zip_cons_cons, List.forIn_cons]
      by_cases hstr : ∃ s, x = .str s
      · -- a text: the loop goes on, and the value that is not a text comes later
        obtain ⟨s, rfl⟩ := hstr
        have hrest : ∃ y ∈ xs, ∀ s, y ≠ .str s := by
          obtain ⟨y, hy, hne⟩ := hx
          rcases List.mem_cons.1 hy with rfl | hy
          · exact absurd rfl (hne s)
          · exact ⟨y, hy, hne⟩
        obtain ⟨m, hm⟩ := ih is (acc.push s) (by simpa using hlen) hrest
        refine ⟨m, ?_⟩
        rw [hf]
        simpa only [bind, Except.bind] using hm
      · obtain ⟨m, hm⟩ := hother x i acc fun s hs => hstr ⟨s, hs⟩
        refine ⟨m, ?_⟩
        rw [hm]
        rfl

/-- Joining texts read as values gives them joined by the separator. -/
theorem joinTexts_map_str (sep : String) (ts : List String) :
    joinTexts sep (ts.map .str) = .ok (sep.intercalate ts) := by
  unfold joinTexts
  dsimp only
  rw [forIn_map_str]
  · simp [bind, Except.bind, pure, Except.pure]
  · intro s i acc
    rfl
  · simp

/-- Joining values fails when one of them is not a text. -/
theorem joinTexts_eq_error (sep : String) {xs : List Value} (h : ∃ x ∈ xs, ∀ s, x ≠ .str s) :
    ∃ m, joinTexts sep xs = .error m := by
  unfold joinTexts
  dsimp only
  apply exists_bind_eq_error
  apply forIn_eq_error
  · intro s i acc
    rfl
  · intro x i acc hx
    cases x with
    | str s => exact absurd rfl (hx s)
    | _ => exact ⟨_, rfl⟩
  · simp
  · exact h

end Value

/-! ## The unknown-keys warning -/

/-- The warning about the unknown keys named `names` of the settings file `name`: none when
there are none, else one that names them sorted by code point and joined by commas. -/
def unknownOptionsNote (name : String) (names : List String) : List String :=
  if names = [] then []
  else ["Unknown option(s) in " ++ name ++ " ignored: " ++
    ", ".intercalate (names.mergeSort fun a b => !Text.textLess b a)]

/-- Sorting gives nothing exactly when there was nothing to sort. -/
theorem mergeSort_eq_nil_iff {ts : List String} {le : String → String → Bool} :
    ts.mergeSort le = [] ↔ ts = [] := by
  rw [← List.length_eq_zero_iff, List.length_mergeSort, List.length_eq_zero_iff]

/-- When every unknown key is a text, the warning is the note on their names. -/
theorem unknownKeysWarning_of_texts {name : String} {es : List (Value × Value)}
    {names : List String} (h : Value.texts? (Settings.unknownKeys es) = some names) :
    unknownKeysWarning name es = .ok (unknownOptionsNote name names) := by
  unfold unknownKeysWarning unknownOptionsNote
  rw [Value.eq_map_str_of_texts? h, Value.sortValues_map_str]
  by_cases hnil : names = []
  · subst hnil
    rw [List.mergeSort_nil]
    rfl
  · have hsorted : ((names.mergeSort fun a b => !Text.textLess b a).map Value.str).isEmpty =
        false := by
      simpa [List.isEmpty_iff, mergeSort_eq_nil_iff] using hnil
    simp only [mapError_ok, bind, Except.bind, hsorted, Value.joinTexts_map_str, if_neg hnil]
    rfl

/-- **An unknown key that is not a text fails the warning with a `TypeError`**: from the sort
when it meets two values with no order, or else from the join, since the sort keeps the key. -/
theorem unknownKeysWarning_of_not_texts (name : String) {es : List (Value × Value)}
    (h : Value.texts? (Settings.unknownKeys es) = none) :
    ∃ m, unknownKeysWarning name es = .error ⟨"TypeError", m⟩ := by
  obtain ⟨x, hx, hnot⟩ := Value.exists_not_str_of_texts? h
  unfold unknownKeysWarning
  cases hsort : Value.sortValues (Settings.unknownKeys es) with
  | error m => exact ⟨m, rfl⟩
  | ok ys =>
    have hy : x ∈ ys := (Value.perm_of_sortValues hsort).symm.subset hx
    have hne : ys.isEmpty = false := by
      cases ys with
      | nil => cases hy
      | cons _ _ => rfl
    obtain ⟨m, hm⟩ := Value.joinTexts_eq_error ", " ⟨x, hy, hnot⟩
    exact ⟨m, by simp only [mapError_ok, mapError_error, bind, Except.bind, hne, hm]; rfl⟩

/-- The note is empty exactly when every key of the file names a setting, by its name or its
alias. -/
theorem unknownOptionsNote_eq_nil_iff {name : String} {es : List (Value × Value)}
    {names : List String} (h : Value.texts? (Settings.unknownKeys es) = some names) :
    unknownOptionsNote name names = [] ↔ ∀ kv ∈ es, (Field.ofKey? kv.1).isSome := by
  have hkeys := Value.eq_map_str_of_texts? h
  constructor
  · intro hnote kv hkv
    have hnames : names = [] := by
      by_cases hne : names = []
      · exact hne
      · simp [unknownOptionsNote, hne] at hnote
    rw [hnames, List.map_nil, Settings.unknownKeys, List.map_eq_nil_iff,
      List.filter_eq_nil_iff] at hkeys
    simpa [Option.isSome_iff_ne_none] using hkeys kv hkv
  · intro hall
    have hnil : Settings.unknownKeys es = [] := by
      rw [Settings.unknownKeys, List.map_eq_nil_iff, List.filter_eq_nil_iff]
      intro kv hkv
      simpa [Option.isNone_iff_eq_none, Option.isSome_iff_ne_none] using hall kv hkv
    rw [hnil, eq_comm, List.map_eq_nil_iff] at hkeys
    simp [unknownOptionsNote, hkeys]

/-! ## Resolution -/

/-- **How settings resolution ends.** With no settings file: the defaults, and no warning. With
a file that cannot be read, does not parse or holds no mapping: the defaults and exactly one
warning, `Failed to read`. With a file whose reading fails otherwise: that failure. With a
mapping whose unknown keys are all texts: the mapping laid over the defaults, after the note
on the unknown keys (empty exactly when every key names a setting or its alias); when a value
is refused, the defaults instead, with an `Invalid` warning last. With a mapping that has an
unknown key that is not a text: a `TypeError`, and no settings. -/
theorem settings_resolution_outcomes (w : Workspace) (root : RelPath)
    (explicit : Option RelPath) (env : Option String) :
    match findSettingsFile w root explicit env with
    | none => resolveSettings w root explicit env = .ok ⟨Settings.default, []⟩
    | some p =>
      match readSettingsFile w p with
      | .unusable reason => resolveSettings w root explicit env =
          .ok ⟨Settings.default, ["Failed to read " ++ p.name ++ ": " ++ reason]⟩
      | .failed u => resolveSettings w root explicit env = .error u
      | .entries es =>
        match Value.texts? (Settings.unknownKeys es) with
        | some names =>
          (unknownOptionsNote p.name names = [] ↔ ∀ kv ∈ es, (Field.ofKey? kv.1).isSome) ∧
          resolveSettings w root explicit env = .ok
            (match Settings.default.merge es with
             | .ok s => ⟨s, unknownOptionsNote p.name names⟩
             | .error errs => ⟨Settings.default, unknownOptionsNote p.name names ++
                 ["Invalid " ++ p.name ++ ": " ++ toString errs.length ++ " bad value(s)"]⟩)
        | none => ∃ m, resolveSettings w root explicit env = .error ⟨"TypeError", m⟩ := by
  unfold resolveSettings
  cases findSettingsFile w root explicit env with
  | none => rfl
  | some p =>
    dsimp only
    cases readSettingsFile w p with
    | unusable reason => rfl
    | failed u => rfl
    | entries es =>
      dsimp only
      cases hnames : Value.texts? (Settings.unknownKeys es) with
      | some names =>
        refine ⟨unknownOptionsNote_eq_nil_iff hnames, ?_⟩
        rw [unknownKeysWarning_of_texts hnames]
        cases Settings.default.merge es <;> rfl
      | none =>
        obtain ⟨m, hm⟩ := unknownKeysWarning_of_not_texts p.name hnames
        exact ⟨m, by rw [hm]; rfl⟩

/-- A YAML settings file whose one key is the number 1: resolution fails in the join. -/
example : (match resolveSettings ⟨[([".pinelintrc.yaml"], .file (Utf8.encodeUtf8 "1: 2\n"))]⟩
      [] none none with
    | .error u =>
      u.kind == "TypeError" && u.message == "sequence item 0: expected str instance, int found"
    | .ok _ => false) = true := by
  decide +kernel

end PineCheck
