import PineCheck.Proofs.ManifestTemplate
import PineCheck.Proofs.JsonFiles
import PineCheck.Proofs.ScaffoldWrites
import PineCheck.Manifest.Files
/-!
# Checking new strategies

A strategy directory passes the directory check when its three files are there and its
manifest, read back from the tree as text and then as JSON, has no problem. A call that answers
a directory wrote exactly those files there, with their templates, so the directory passes
(`strategyDirProblems_of_createStrategy`).

A project whose tree changed only by calls creating strategies, from an empty tree, passes the
strategies check as a whole. `Scaffolded` is the invariant: every entry is the strategies
directory, a complete strategy directory or one of its files. One call keeps it
(`scaffolded_createStrategy`): `makeDirs` only makes directories at prefixes of the strategy's
directory (`Workspace.makeDirs_changes`), a strategy already there is only written over with its
own templates, and a new one gets all three files, for nothing stands below its directory to
stop the writes. A whole run keeps it (`scaffolded_createAll`), and a scaffolded tree passes
the strategies check (`strategyFailures_of_scaffolded`).
-/

namespace PineCheck

namespace Workspace

variable {w w' : Workspace}

/-- A path with no `..` resolves to itself. -/
theorem resolveFrom_plain {here d p : RelPath} {n : Node} (hp : ".." ∉ p)
    (h : w.resolveFrom here p = .found d n) : d = here ++ p := by
  induction p generalizing here with
  | nil =>
    cases h
    simp
  | cons c rest ih =>
    have hc : (c == "..") = false := by
      rw [beq_eq_false_iff_ne]
      rintro rfl
      exact hp List.mem_cons_self
    rw [resolveFrom] at h
    simp only [hc, Bool.false_and, Bool.false_eq_true, if_false] at h
    split at h
    next => cases h
    next =>
      rw [ih (fun h => hp (List.mem_cons_of_mem _ h)) h]
      simp
    next =>
      split at h
      · cases h
        simp_all
      · cases h

/-- A path with no `..` looked up from the top resolves to itself. -/
theorem lookup_plain {p d : RelPath} {n : Node} (hp : ".." ∉ p) (h : w.lookup p = .found d n) :
    d = p := by
  simpa using resolveFrom_plain hp h

/-- A successful `makeDir` of a path with no `..` puts a directory at the path itself. -/
theorem makeDir_plain {p : RelPath} (hp : ".." ∉ p) (h : w.makeDir p = .ok w') :
    w.node? p = none ∧ w' = w.put p .dir := by
  obtain ⟨d, c, hsplit, hparent, hn, rfl⟩ := makeDir_eq_ok h
  have hd : d = p.dropLast := lookup_plain (fun h => hp (List.dropLast_subset _ h)) hparent
  rw [hd, ← hsplit] at hn ⊢
  exact ⟨hn, rfl⟩

/-- Making the directories of a path given from its last component back changes only the
entries at the path's non-empty prefixes, each from nothing to a directory. -/
theorem makeDirsRev_changes {rs : List String} (hrs : ".." ∉ rs)
    (h : w.makeDirsRev rs = .ok w') (q : RelPath) (hq : w'.node? q ≠ w.node? q) :
    q ≠ [] ∧ q <+: rs.reverse ∧ w.node? q = none ∧ w'.node? q = some .dir := by
  induction rs generalizing w w' with
  | nil =>
    cases h
    exact absurd rfl hq
  | cons c rest ih =>
    have hp : ".." ∉ (c :: rest).reverse := by
      rw [List.mem_reverse]
      exact hrs
    have hrest : ".." ∉ rest := fun h => hrs (List.mem_cons_of_mem _ h)
    -- a change made by `makeDir` is at the path itself
    have hmade : ∀ {v v' : Workspace}, v.makeDir (c :: rest).reverse = .ok v' →
        v'.node? q ≠ v.node? q →
          q ≠ [] ∧ q <+: (c :: rest).reverse ∧ v.node? q = none ∧ v'.node? q = some .dir := by
      intro v v' hmk hchg
      obtain ⟨hnone, rfl⟩ := makeDir_plain hp hmk
      have hne : (c :: rest).reverse ≠ [] := by simp
      by_cases hqp : q = (c :: rest).reverse
      · subst hqp
        exact ⟨hne, List.prefix_refl _, hnone, by rw [node?_put hne, if_pos rfl]⟩
      · exact absurd (node?_put_of_ne hne _ hqp) hchg
    rw [makeDirsRev] at h
    split at h
    next hmk =>
      cases h
      exact hmade hmk hq
    next =>
      split at h
      next =>
        split at h
        next w₁ hrest' =>
          have hpre : rest.reverse <+: (c :: rest).reverse := by simp
          split at h
          next hmk =>
            cases h
            by_cases h₁ : w₁.node? q = w.node? q
            · rw [← h₁] at hq ⊢
              exact hmade hmk hq
            · obtain ⟨hne, hprefix, hnone, hdir⟩ := ih hrest hrest' h₁
              have hkeep := (makeDir_addsDirs hmk).keepsDirs q hdir
              exact ⟨hne, hprefix.trans hpre, hnone, hkeep⟩
          next =>
            split at h
            · cases h
              obtain ⟨hne, hprefix, hnone, hdir⟩ := ih hrest hrest' hq
              exact ⟨hne, hprefix.trans hpre, hnone, hdir⟩
            · cases h
        next => cases h
      next =>
        split at h
        · cases h
          exact absurd rfl hq
        · cases h

/-- `makeDirs` of a path with no `..` changes only the entries at the path's non-empty prefixes,
each from nothing to a directory. -/
theorem makeDirs_changes {p : RelPath} (hp : ".." ∉ p) (h : w.makeDirs p = .ok w') (q : RelPath)
    (hq : w'.node? q ≠ w.node? q) :
    q ≠ [] ∧ q <+: p ∧ w.node? q = none ∧ w'.node? q = some .dir := by
  have hrs : ".." ∉ p.reverse := by
    rw [List.mem_reverse]
    exact hp
  simpa using makeDirsRev_changes hrs h q hq

/-- A path that resolves past a component resolved that component to a directory. -/
theorem node?_of_resolveFrom_cons {here d : RelPath} {c : String} {rest : RelPath} {n : Node}
    (hc : c ≠ "..") (hrest : rest ≠ []) (h : w.resolveFrom here (c :: rest) = .found d n) :
    w.node? (here ++ [c]) = some .dir := by
  have hc' : (c == "..") = false := by simpa using hc
  rw [resolveFrom] at h
  simp only [hc', Bool.false_and, Bool.false_eq_true, if_false] at h
  split at h
  next => cases h
  next hn => exact hn
  next =>
    split at h
    next hempty => exact absurd (List.isEmpty_iff.1 hempty) hrest
    next => cases h

/-- A resolution that ends at a directory other than where it started ends at an entry that is
a directory. -/
theorem node?_of_resolveFrom_dir {here d p : RelPath} (h : w.resolveFrom here p = .found d .dir) :
    d = here ∨ w.node? d = some .dir := by
  induction p generalizing here with
  | nil =>
    cases h
    exact .inl rfl
  | cons c rest ih =>
    rw [resolveFrom] at h
    split at h
    · cases h
    · split at h
      next => cases h
      next hn =>
        rcases ih h with rfl | hd
        · exact .inr hn
        · exact .inr hd
      next => split at h <;> cases h

end Workspace

/-! ## The directory of a new strategy -/

/-- A call that answers a directory was given a name the name check accepts. -/
theorem isStrategyName_of_createStrategy {w w' : Workspace} {root dir : RelPath} {name : String}
    {force : Bool} (h : createStrategy w root name force = (w', .ok dir)) :
    isStrategyName name = true := by
  unfold createStrategy at h
  split at h
  next => cases (Prod.mk.inj h).2
  next hname => simpa using hname

/-- A call that answers a directory wrote all three files into it, into a tree that only
gained directories before. -/
theorem createStrategy_ok {w w' : Workspace} {root dir : RelPath} {name : String} {force : Bool}
    (h : createStrategy w root name force = (w', .ok dir)) :
    dir = strategyDir root name ∧ ∃ w₁ d, Workspace.AddsDirs w w₁ ∧
      w₁.lookup dir = .found d .dir ∧ w' = putFiles d w₁ (strategyFiles name) ∧
      ∀ fc ∈ strategyFiles name, w₁.node? (d ++ [fc.1]) ≠ some .dir := by
  rcases createStrategy_cases h with ⟨-, hr | ⟨e, hr⟩⟩ |
    ⟨w₁, d, pre, post, s, hadds, hd, hsplit, hw', hfresh, hstop, hr⟩
  · cases hr
  · cases hr
  · -- only a run that wrote every file answers the directory
    cases hstop with
    | done =>
      rw [List.append_nil] at hsplit
      cases hr
      refine ⟨rfl, w₁, d, hadds, hd, hsplit ▸ hw', fun fc hfc => (hfresh fc (hsplit ▸ hfc)).1⟩
    | refused => cases hr
    | blocked => cases hr

/-- A directory that holds the three files of a strategy name, each with its template, passes
the directory check: no file is missing, and the manifest, read back, has no problem. -/
theorem strategyDirProblems_of_files {w : Workspace} {dir d : RelPath} {name : String}
    (hname : isStrategyName name = true) (hd : w.lookup dir = .found d .dir)
    (hfiles : ∀ fc ∈ strategyFiles name,
      w.node? (d ++ [fc.1]) = some (.file (Utf8.encodeUtf8 fc.2))) :
    strategyDirProblems w dir = .ok [] := by
  -- the required files are the files written, in another order
  have hentry : ∀ f ∈ requiredStrategyFiles, w.hasEntry (dir ++ [f]) = true := by
    intro f hf
    have hwritten : f ∈ (strategyFiles name).map (·.1) := by
      rw [strategyFiles_names]
      simp only [requiredStrategyFiles, List.mem_cons, List.not_mem_nil, or_false] at hf
      rcases hf with rfl | rfl | rfl <;> simp
    obtain ⟨⟨f, c⟩, hfc, rfl⟩ := List.mem_map.1 hwritten
    rw [Workspace.hasEntry_child hd (strategyFiles_ne_dotdot name _ hfc), hfiles _ hfc]
    rfl
  have hread := Workspace.readFile_child hd (show "manifest.json" ≠ ".." by decide)
    (hfiles ("manifest.json", manifestText name) (by simp [strategyFiles]))
  obtain ⟨htext, hdecode⟩ := Json.readText_encode (manifestTemplate_plain hname) (by decide)
    .indented (show ∀ c ∈ "\n".toList, Json.isSpace c = true from List.all_eq_true.1 (by decide))
    (by decide) hread
  have hmissing : (requiredStrategyFiles.filterMap fun f =>
      if w.hasEntry (dir ++ [f]) then none else some ("Missing " ++ f)) = [] := by
    rw [List.filterMap_eq_nil_iff]
    intro f hf
    rw [if_pos (hentry f hf)]
  have hmanifest : manifestFileProblems w (dir ++ ["manifest.json"]) = .ok [] := by
    rw [manifestFileProblems, htext]
    dsimp only
    rw [hdecode]
    dsimp only
    rw [manifestProblems_template hname]
  rw [strategyDirProblems, hmissing, if_pos (hentry _ (by simp [requiredStrategyFiles])),
    hmanifest]
  rfl

/-- The directory a call answers passes the directory check. -/
theorem strategyDirProblems_of_createStrategy {w w' : Workspace} {root dir : RelPath}
    {name : String} {force : Bool} (h : createStrategy w root name force = (w', .ok dir)) :
    strategyDirProblems w' dir = .ok [] := by
  obtain ⟨-, w₁, d, -, hd, rfl, hfree⟩ := createStrategy_ok h
  exact strategyDirProblems_of_files (isStrategyName_of_createStrategy h)
    (lookup_putFiles hd hfree) fun _ hfc =>
      node?_putFiles_of_mem (strategyFiles_nodup name) hfc

/-! ## What one call changes -/

/-- What a call under a project directory with no `..` did: nothing, or, for a strategy name,
it made directories at prefixes of the strategy's directory where nothing stood, after which
that directory resolves to itself, and it wrote files there until it stopped. -/
theorem createStrategy_plain_cases {w w' : Workspace} {root : RelPath} {name : String}
    {force : Bool} {r : Except ScaffoldError RelPath}
    (h : createStrategy w root name force = (w', r))
    (hroot : ".." ∉ root) :
    w' = w ∨ ∃ w₁ pre post s, isStrategyName name = true ∧
      (∀ q, w₁.node? q ≠ w.node? q →
        q ≠ [] ∧ q <+: strategyDir root name ∧ w.node? q = none ∧ w₁.node? q = some .dir) ∧
      w₁.lookup (strategyDir root name) = .found (strategyDir root name) .dir ∧
      strategyFiles name = pre ++ post ∧ w' = putFiles (strategyDir root name) w₁ pre ∧
      WriteStop w₁ (strategyDir root name) (strategyDir root name) force post s := by
  unfold createStrategy at h
  split at h
  case isTrue => exact .inl (Prod.mk.inj h).1.symm
  case isFalse hname =>
    rw [Bool.not_eq_true', Bool.not_eq_false] at hname
    have hplain : ".." ∉ strategyDir root name := by
      simp only [strategyDir, List.mem_append, List.mem_cons, List.not_mem_nil, or_false,
        not_or]
      exact ⟨hroot, by decide, (ne_dotdot_of_isStrategyName hname).symm⟩
    dsimp only at h
    split at h
    next => exact .inl (Prod.mk.inj h).1.symm
    next w₁ hmk =>
      have hlast : (strategyDir root name).getLast? ≠ some ".." := by
        simpa [strategyDir] using ne_dotdot_of_isStrategyName hname
      obtain ⟨d, hd⟩ := Workspace.isDir_iff.1 (Workspace.isDir_of_makeDirs hmk hlast)
      obtain rfl := Workspace.lookup_plain hplain hd
      obtain ⟨pre, post, hsplit, hput, -, hstop⟩ :=
        @writeFiles_spec w₁ _ _ force hd _ (strategyFiles_ne_dotdot name)
          (strategyFiles_nodup name)
      generalize writeFiles (strategyDir root name) force w₁ (strategyFiles name) = res
        at h hput hstop
      obtain ⟨w₂, s⟩ := res
      have hw : w' = w₂ := by
        rcases s with _ | ⟨⟩ <;> exact (congrArg Prod.fst h).symm
      exact .inr ⟨w₁, pre, post, s, hname, Workspace.makeDirs_changes hplain hmk, hd, hsplit,
        hw.trans hput, hstop⟩

/-! ## Trees built by new strategies alone -/

/-- The strategy directory of a name at the top of the project, with the three files of the
name, each holding its template. -/
def StrategyComplete (w : Workspace) (name : String) : Prop :=
  isStrategyName name = true ∧ w.node? ["strategies"] = some .dir ∧
    w.node? ["strategies", name] = some .dir ∧
    ∀ fc ∈ strategyFiles name,
      w.node? ["strategies", name, fc.1] = some (.file (Utf8.encodeUtf8 fc.2))

/-- Every entry is the strategies directory, or a complete strategy directory, or one of its
files: what new strategies alone make at the top of a project. -/
def Scaffolded (w : Workspace) : Prop :=
  ∀ q, q ≠ [] → w.node? q ≠ none →
    (q = ["strategies"] ∧ w.node? q = some .dir) ∨
      ∃ name, StrategyComplete w name ∧
        (q = ["strategies", name] ∨ ∃ fc ∈ strategyFiles name, q = ["strategies", name, fc.1])

/-- A complete strategy stays complete in a tree that keeps every entry that was there. -/
theorem StrategyComplete.keep {w w' : Workspace} {name : String} (h : StrategyComplete w name)
    (hkeep : ∀ q, w.node? q ≠ none → w'.node? q = w.node? q) : StrategyComplete w' name := by
  obtain ⟨hname, hroot, hdir, hfiles⟩ := h
  refine ⟨hname, ?_, ?_, fun fc hfc => ?_⟩
  · rw [hkeep _ (by simp [hroot]), hroot]
  · rw [hkeep _ (by simp [hdir]), hdir]
  · rw [hkeep _ (by simp [hfiles fc hfc]), hfiles fc hfc]

/-- A tree with the same entries as a scaffolded one is scaffolded. -/
theorem Scaffolded.keep {w w' : Workspace} (hw : Scaffolded w)
    (hsame : ∀ q, w'.node? q = w.node? q) : Scaffolded w' := by
  intro q hq hn
  rw [hsame] at hn ⊢
  rcases hw q hq hn with hroot | ⟨name, hcomplete, hat⟩
  · exact .inl hroot
  · exact .inr ⟨name, hcomplete.keep fun q _ => hsame q, hat⟩

/-- The empty tree is scaffolded: it has no entry. -/
theorem scaffolded_empty : Scaffolded Workspace.empty := by
  intro q hq hn
  exact absurd (by simp [Workspace.node?, Workspace.empty, hq]) hn

/-- The entries of a scaffolded tree below a strategy directory that is not there. -/
theorem Scaffolded.file_none {w : Workspace} (hw : Scaffolded w) {name : String}
    (hdir : w.node? ["strategies", name] ≠ some .dir) (f : String) :
    w.node? ["strategies", name, f] = none := by
  by_contra hn
  rcases hw _ (by simp) hn with ⟨heq, -⟩ | ⟨n, hcomplete, heq | ⟨fc, -, heq⟩⟩
  · cases heq
  · cases heq
  · obtain ⟨rfl, -⟩ : name = n ∧ f = fc.1 := by simpa using heq
    exact hdir hcomplete.2.2.1

/-- The non-empty prefixes of a path of two components are the first and the whole. -/
theorem prefix_pair {q : RelPath} {a b : String} (hq : q ≠ []) (hpre : q <+: [a, b]) :
    q = [a] ∨ q = [a, b] := by
  obtain ⟨t, ht⟩ := hpre
  match q, t, ht with
  | [x], _, ht => exact .inl (by simp at ht; rw [ht.1])
  | [x, y], _, ht => exact .inr (by simp at ht; rw [ht.1, ht.2.1])
  | [], _, _ => exact absurd rfl hq
  | _ :: _ :: _ :: _, _, ht => simp at ht

/-- Files put over files that already hold the same contents change nothing. -/
theorem putFiles_same {w : Workspace} {d : RelPath} {files : List (String × String)}
    (hsame : ∀ fc ∈ files, w.node? (d ++ [fc.1]) = some (.file (Utf8.encodeUtf8 fc.2)))
    (q : RelPath) : (putFiles d w files).node? q = w.node? q := by
  induction files generalizing w with
  | nil => rfl
  | cons fc rest ih =>
    have hput : ∀ q, (w.put (d ++ [fc.1]) (.file (Utf8.encodeUtf8 fc.2))).node? q = w.node? q := by
      intro q
      rw [Workspace.node?_put (by simp)]
      split
      next heq => rw [heq, hsame fc List.mem_cons_self]
      next => rfl
    rw [putFiles_cons, ih fun fc' hfc' => by
      rw [hput]
      exact hsame fc' (List.mem_cons_of_mem _ hfc'), hput]

/-- Over a complete strategy the directories are already there and every write repeats a
file, so the tree does not change. -/
theorem Scaffolded.putFiles_complete {w w₁ : Workspace} (hw : Scaffolded w) {name : String}
    (hcomplete : StrategyComplete w name)
    (hmade : ∀ q, w₁.node? q ≠ w.node? q →
      (q = ["strategies"] ∨ q = ["strategies", name]) ∧ w.node? q = none ∧
        w₁.node? q = some .dir)
    {pre : List (String × String)} (hpre : ∀ fc ∈ pre, fc ∈ strategyFiles name) :
    Scaffolded (putFiles ["strategies", name] w₁ pre) := by
  have hsame₁ : ∀ q, w₁.node? q = w.node? q := by
    intro q
    by_contra hne
    obtain ⟨hat, hnone, -⟩ := hmade q hne
    rcases hat with rfl | rfl
    · simp [hcomplete.2.1] at hnone
    · simp [hcomplete.2.2.1] at hnone
  refine hw.keep fun q => ?_
  rw [putFiles_same (fun fc hfc => ?_), hsame₁]
  rw [show ["strategies", name] ++ [fc.1] = ["strategies", name, fc.1] from rfl, hsame₁,
    hcomplete.2.2.2 fc (hpre fc hfc)]

/-- A new strategy: its two directories were made where nothing stood and all three files are
written below them, where nothing stood either, so every old entry stands and every new one
belongs to the now complete strategy. -/
theorem Scaffolded.putFiles_new {w w₁ : Workspace} (hw : Scaffolded w) {name : String}
    (hname : isStrategyName name = true) (hold : w.node? ["strategies", name] ≠ some .dir)
    (hmade : ∀ q, w₁.node? q ≠ w.node? q →
      (q = ["strategies"] ∨ q = ["strategies", name]) ∧ w.node? q = none ∧
        w₁.node? q = some .dir)
    (hroot₁ : w₁.node? ["strategies"] = some .dir)
    (hdir₁ : w₁.node? ["strategies", name] = some .dir) :
    Scaffolded (putFiles ["strategies", name] w₁ (strategyFiles name)) := by
  have hput_mem : ∀ fc ∈ strategyFiles name,
      (putFiles ["strategies", name] w₁ (strategyFiles name)).node? ["strategies", name, fc.1] =
        some (.file (Utf8.encodeUtf8 fc.2)) :=
    fun _ hfc => node?_putFiles_of_mem (strategyFiles_nodup name) hfc
  have hput_not : ∀ q, (∀ fc ∈ strategyFiles name, q ≠ ["strategies", name, fc.1]) →
      (putFiles ["strategies", name] w₁ (strategyFiles name)).node? q = w₁.node? q :=
    fun _ hq => node?_putFiles_of_not_mem hq
  have hcomplete : StrategyComplete (putFiles ["strategies", name] w₁ (strategyFiles name))
      name :=
    ⟨hname, by rw [hput_not _ (by simp)]; exact hroot₁,
      by rw [hput_not _ (by simp)]; exact hdir₁, hput_mem⟩
  -- every entry that was there stands: the files go where nothing stood
  have hkeep : ∀ q, w.node? q ≠ none →
      (putFiles ["strategies", name] w₁ (strategyFiles name)).node? q = w.node? q := by
    intro q hq
    have h₁ : w₁.node? q = w.node? q := by
      by_contra hne
      exact hq (hmade q hne).2.1
    rw [hput_not q ?_, h₁]
    rintro fc - rfl
    exact hq (hw.file_none hold fc.1)
  intro q hq hn
  by_cases hq₀ : w.node? q = none
  · by_cases hfile : ∃ fc ∈ strategyFiles name, q = ["strategies", name, fc.1]
    · exact .inr ⟨name, hcomplete, .inr hfile⟩
    · simp only [not_exists, not_and] at hfile
      rw [hput_not q hfile] at hn ⊢
      obtain ⟨hat, -, hdir⟩ := hmade q (by rw [hq₀]; exact hn)
      rcases hat with rfl | rfl
      · exact .inl ⟨rfl, hdir⟩
      · exact .inr ⟨name, hcomplete, .inl rfl⟩
  · rw [hkeep q hq₀]
    rcases hw q hq hq₀ with hroot | ⟨n, hc, hat⟩
    · exact .inl hroot
    · exact .inr ⟨n, hc.keep hkeep, hat⟩

/-- One call with the project at the root keeps a tree scaffolded: for a strategy already
there it only rewrites the same files, and a new strategy gets its directory and all three
files, for nothing stood below its directory to stop the writes. -/
theorem scaffolded_createStrategy {w : Workspace} (hw : Scaffolded w) (name : String)
    (force : Bool) : Scaffolded (createStrategy w [] name force).1 := by
  have hcall : createStrategy w [] name force =
      ((createStrategy w [] name force).1, (createStrategy w [] name force).2) := rfl
  rcases createStrategy_plain_cases hcall List.not_mem_nil with
    hsame | ⟨w₁, pre, post, s, hname, hchg, hd, hsplit, hw', hstop⟩
  · rw [hsame]
    exact hw
  simp only [strategyDir, List.nil_append] at hchg hd hstop hw'
  rw [hw']
  -- the directories made are the strategies directory and the strategy's own
  have hmade : ∀ q, w₁.node? q ≠ w.node? q →
      (q = ["strategies"] ∨ q = ["strategies", name]) ∧ w.node? q = none ∧
        w₁.node? q = some .dir := by
    intro q hq
    obtain ⟨hne, hpre, hnone, hdir⟩ := hchg q hq
    exact ⟨prefix_pair hne hpre, hnone, hdir⟩
  by_cases hold : w.node? ["strategies", name] = some .dir
  · -- a strategy already there is complete
    obtain ⟨n, hcomplete, heq | ⟨fc, -, heq⟩⟩ : ∃ n, StrategyComplete w n ∧
        (["strategies", name] = ["strategies", n] ∨
          ∃ fc ∈ strategyFiles n, ["strategies", name] = ["strategies", n, fc.1]) := by
      rcases hw ["strategies", name] (by simp) (by simp [hold]) with ⟨heq, -⟩ | h
      · cases heq
      · exact h
    · obtain rfl : name = n := by simpa using heq
      refine hw.putFiles_complete hcomplete hmade fun fc hfc => ?_
      rw [hsplit]
      exact List.mem_append_left _ hfc
    · simp at heq
  · -- a new strategy: nothing stands below its directory, so every file is written
    have hfree : ∀ f, w₁.node? ["strategies", name, f] = none := by
      intro f
      have hfile₁ : w₁.node? ["strategies", name, f] = w.node? ["strategies", name, f] := by
        by_contra hne
        rcases (hmade _ hne).1 with heq | heq <;> cases heq
      rw [hfile₁, hw.file_none hold]
    obtain rfl : post = [] := by
      cases hstop with
      | done => rfl
      | refused f c rest hsome => simp [hfree] at hsome
      | blocked f c rest hdir => simp [hfree] at hdir
    rw [List.append_nil] at hsplit
    subst hsplit
    -- the strategy's directory resolves, so it and the strategies directory are directories
    exact hw.putFiles_new hname hold hmade
      (Workspace.node?_of_resolveFrom_cons (by decide) (by simp) hd)
      ((Workspace.node?_of_resolveFrom_dir hd).resolve_left (by simp))

/-- The tree after calls in order, each creating a strategy with the project at the root. -/
def createAll (w : Workspace) (calls : List (String × Bool)) : Workspace :=
  calls.foldl (fun w call => (createStrategy w [] call.1 call.2).1) w

/-- Calls in order, each creating a strategy at the top of the project, keep a tree scaffolded. -/
theorem scaffolded_createAll {w : Workspace} (hw : Scaffolded w) (calls : List (String × Bool)) :
    Scaffolded (createAll w calls) := by
  induction calls generalizing w with
  | nil => exact hw
  | cons call calls ih => exact ih (scaffolded_createStrategy hw call.1 call.2)

/-! ## The strategies check -/

/-- A check run over a list that finds nothing in any member finds nothing in all. -/
theorem filterMapM_eq_nil {ε α β : Type} {f : α → Except ε (Option β)} {l : List α}
    (h : ∀ a ∈ l, f a = .ok none) : l.filterMapM f = .ok [] := by
  induction l with
  | nil => rfl
  | cons a l ih =>
    rw [List.filterMapM_cons, h a List.mem_cons_self]
    exact ih fun a ha => h a (List.mem_cons_of_mem _ ha)

/-- An entry listed in the tree is found at its path. -/
theorem Workspace.node?_of_mem {w : Workspace} {p : RelPath} {n : Node} (hp : p ≠ [])
    (hmem : (p, n) ∈ w.entries) : w.node? p ≠ none := by
  rw [Workspace.node?_of_ne_nil hp, ne_eq, Option.map_eq_none_iff, ← ne_eq,
    ← Option.isSome_iff_ne_none, List.find?_isSome]
  exact ⟨(p, n), hmem, by simp⟩

/-- Each directory listed below the strategies directory of a scaffolded tree is a complete
strategy directory. -/
theorem Scaffolded.complete_of_child {w : Workspace} (hw : Scaffolded w) {name : String}
    (hname : name ∈ w.childNames ["strategies"]) : StrategyComplete w name := by
  unfold Workspace.childNames at hname
  split at hname
  next real hreal =>
    obtain rfl := Workspace.lookup_plain (by decide) hreal
    obtain ⟨⟨p, n⟩, hmem, hp⟩ := List.mem_filterMap.1 hname
    simp only [Bool.and_eq_true, beq_iff_eq] at hp
    split at hp
    next hshape =>
      obtain ⟨hdrop, hlen⟩ := hshape
      -- the entry is at `strategies/name`
      have hne : p ≠ [] := by
        rintro rfl
        simp at hlen
      have hlast : p.getLast hne = name := by
        rw [List.getLast?_eq_some_getLast hne] at hp
        exact Option.some.inj hp
      have hpath : p = ["strategies", name] := by
        rw [← List.dropLast_concat_getLast hne, hdrop, hlast]
        rfl
      rcases hw p (by simp [hpath]) (Workspace.node?_of_mem (by simp [hpath]) hmem) with
        ⟨heq, -⟩ | ⟨m, hcomplete, heq | ⟨fc, -, heq⟩⟩
      · rw [hpath] at heq
        cases heq
      · rw [hpath] at heq
        obtain rfl : name = m := by simpa using heq
        exact hcomplete
      · rw [hpath] at heq
        simp at heq
    next => cases hp
  next => cases hname

/-- The strategies check of a scaffolded tree finds no failure. -/
theorem strategyFailures_of_scaffolded {w : Workspace} (hw : Scaffolded w) :
    strategyFailures w [] = .ok [] := by
  unfold strategyFailures
  split
  · rfl
  · apply filterMapM_eq_nil
    intro name hmem
    have hcomplete := hw.complete_of_child (List.mem_mergeSort.1 hmem)
    rw [show strategiesDir [] ++ [name] = ["strategies", name] from rfl]
    by_cases hdir : w.isDir ["strategies", name] = true
    · obtain ⟨d, hd⟩ := Workspace.isDir_iff.1 hdir
      have hplain : ".." ∉ ["strategies", name] := by
        simp [(ne_dotdot_of_isStrategyName hcomplete.1).symm]
      obtain rfl := Workspace.lookup_plain hplain hd
      rw [if_neg (by simp [hdir]), strategyDirProblems_of_files hcomplete.1 hd hcomplete.2.2.2]
      rfl
    · rw [if_pos (by simpa using hdir)]
      rfl

/-! ## New strategies pass the checks -/

/-- A directory that a call answers passes the directory check: its three files are there, and
its manifest, read back from the tree, has no problem. The manifest of a new strategy has no
problem for any accepted name. And a project whose tree was built from nothing by creating
strategies alone passes the strategies check. -/
theorem new_strategy_passes_checks :
    (∀ (w w' : Workspace) (root dir : RelPath) (name : String) (force : Bool),
      createStrategy w root name force = (w', .ok dir) → strategyDirProblems w' dir = .ok []) ∧
    (∀ name, isStrategyName name = true →
      manifestProblems (manifestTemplate name).toValue = []) ∧
    ∀ calls, strategyFailures (createAll Workspace.empty calls) [] = .ok [] :=
  ⟨fun _ _ _ _ _ _ h => strategyDirProblems_of_createStrategy h,
    fun _ h => manifestProblems_template h,
    fun calls => strategyFailures_of_scaffolded (scaffolded_createAll scaffolded_empty calls)⟩

/-- `new_strategy_passes_checks` on the strategy "demo" created in an empty tree, and on the
manifest of the name "demo" with a line feed, which the name check accepts. -/
theorem new_strategy_passes_checks_demo :
    strategyDirProblems (createStrategy Workspace.empty [] "demo" false).1
        ["strategies", "demo"] = .ok [] ∧
      manifestProblems (manifestTemplate "demo\n").toValue = [] :=
  ⟨new_strategy_passes_checks.1 Workspace.empty _ [] ["strategies", "demo"] "demo" false
      (by rfl),
    new_strategy_passes_checks.2.1 "demo\n" (by decide)⟩

end PineCheck
