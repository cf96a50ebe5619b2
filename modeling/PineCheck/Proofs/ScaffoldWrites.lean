import PineCheck.Scaffold
import PineCheck.Proofs.TreeChanges
/-!
# What creating a strategy writes

`createStrategy` checks the name, makes the strategy's directory and writes the three
template files one at a time. The writes are not atomic: each file is checked and written
before the next one is looked at, so a refusal leaves the files before it in place.

Over the tree of resolved paths the effect is described exactly. `writeFiles_spec` says how a
run of writes ends: the files `pre` written in order (`putFiles`), each at a path that held
nothing (or, with `force`, no directory), and then either nothing left or a stop at one file
(`WriteStop`). With `makeDirs_addsDirs` this gives the effect of a whole call: apart from new
directories, only the template files in the strategy's directory change, an existing entry
never changes without `force`, and a refusal at a file has written exactly the files before
it, none of which existed.
-/

namespace PineCheck

variable {w : Workspace} {dir d : RelPath} {force : Bool}

/-- The tree with files put into the resolved directory `d`, in order. -/
def putFiles (d : RelPath) (w : Workspace) (files : List (String × String)) : Workspace :=
  files.foldl (fun w fc => w.put (d ++ [fc.1]) (.file (Utf8.encodeUtf8 fc.2))) w

/-- Putting files is putting the first, then the rest. -/
theorem putFiles_cons (w : Workspace) (fc : String × String) (rest : List (String × String)) :
    putFiles d w (fc :: rest) =
      putFiles d (w.put (d ++ [fc.1]) (.file (Utf8.encodeUtf8 fc.2))) rest := rfl

/-- Paths that no file of the list names keep their entry. -/
theorem node?_putFiles_of_not_mem {files : List (String × String)} {q : RelPath}
    (hq : ∀ fc ∈ files, q ≠ d ++ [fc.1]) : (putFiles d w files).node? q = w.node? q := by
  induction files generalizing w with
  | nil => rfl
  | cons fc rest ih =>
    rw [putFiles_cons, ih fun fc' hfc' => hq fc' (List.mem_cons_of_mem _ hfc')]
    exact Workspace.node?_put_of_ne (by simp) _ (hq fc List.mem_cons_self)

/-- With distinct names, every file of the list ends with its own content. -/
theorem node?_putFiles_of_mem {files : List (String × String)} (hnd : (files.map (·.1)).Nodup)
    {f c : String} (hmem : (f, c) ∈ files) :
    (putFiles d w files).node? (d ++ [f]) = some (.file (Utf8.encodeUtf8 c)) := by
  induction files generalizing w with
  | nil => cases hmem
  | cons fc rest ih =>
    rw [List.map_cons, List.nodup_cons] at hnd
    rw [putFiles_cons]
    rcases List.mem_cons.1 hmem with rfl | hrest
    · have hlater : ∀ fc' ∈ rest, d ++ [f] ≠ d ++ [fc'.1] := by
        intro fc' hfc' heq
        exact hnd.1 (List.mem_map.2 ⟨fc', hfc', (List.append_cancel_left heq |> List.singleton_inj.1).symm⟩)
      rw [node?_putFiles_of_not_mem hlater, Workspace.node?_put (by simp), if_pos rfl]
    · exact ih hnd.2 hrest

/-- Putting files where no directory stood keeps the resolution of a directory. -/
theorem lookup_putFiles {files : List (String × String)} (h : w.lookup dir = .found d .dir)
    (hfree : ∀ fc ∈ files, w.node? (d ++ [fc.1]) ≠ some .dir) :
    (putFiles d w files).lookup dir = .found d .dir := by
  induction files generalizing w with
  | nil => exact h
  | cons fc rest ih =>
    rw [putFiles_cons]
    have hkeeps := Workspace.keepsDirs_put (hfree fc List.mem_cons_self) (.file (Utf8.encodeUtf8 fc.2))
    refine ih (Workspace.resolveFrom_of_keepsDirs h hkeeps) fun fc' hfc' hdir => ?_
    by_cases heq : d ++ [fc'.1] = d ++ [fc.1]
    · rw [heq, Workspace.node?_put (by simp), if_pos rfl] at hdir
      cases hdir
    · rw [Workspace.node?_put_of_ne (by simp) _ heq] at hdir
      exact hfree fc' (List.mem_cons_of_mem _ hfc') hdir

/-- Writing one file into a resolved directory: refused where an entry stands and `force` is
off, failed where a directory stands, and otherwise put there before the rest. -/
theorem writeFiles_cons (h : w.lookup dir = .found d .dir) {f : String} (hf : f ≠ "..")
    (c : String) (rest : List (String × String)) :
    writeFiles dir force w ((f, c) :: rest) =
      if (w.node? (d ++ [f])).isSome && !force then (w, .error (.refusing (dir ++ [f]).render))
      else if w.node? (d ++ [f]) = some .dir then
        (w, .error (.os ⟨.isDirectory, (dir ++ [f]).render⟩))
      else writeFiles dir force (w.put (d ++ [f]) (.file (Utf8.encodeUtf8 c))) rest := by
  rw [writeFiles, Workspace.hasEntry_child h hf, Workspace.writeText,
    Workspace.writeFile_child h]
  split
  · rfl
  · by_cases hdir : w.node? (d ++ [f]) = some .dir
    · rw [if_pos hdir, if_pos hdir]
    · rw [if_neg hdir, if_neg hdir]

/-- Where a run of writes stops, and what it answers there: after the last file, or at a file
that is refused (an entry stands there and `force` is off) or that cannot be written (a
directory stands there, with `force` on). -/
inductive WriteStop (w : Workspace) (dir d : RelPath) (force : Bool) :
    List (String × String) → Except ScaffoldError Unit → Prop
  | done : WriteStop w dir d force [] (.ok ())
  | refused (f c : String) (rest : List (String × String)) :
      (w.node? (d ++ [f])).isSome → force = false →
      WriteStop w dir d force ((f, c) :: rest) (.error (.refusing (dir ++ [f]).render))
  | blocked (f c : String) (rest : List (String × String)) :
      w.node? (d ++ [f]) = some .dir → force = true →
      WriteStop w dir d force ((f, c) :: rest) (.error (.os ⟨.isDirectory, (dir ++ [f]).render⟩))

/-- A stop only reads the entry of the file it stops at. -/
theorem WriteStop.congr {w' : Workspace} {files : List (String × String)}
    {r : Except ScaffoldError Unit} (hstop : WriteStop w dir d force files r)
    (hsame : ∀ fc ∈ files, w'.node? (d ++ [fc.1]) = w.node? (d ++ [fc.1])) :
    WriteStop w' dir d force files r := by
  cases hstop with
  | done => exact .done
  | refused f c rest hsome hforce =>
    exact .refused f c rest (by rw [hsame (f, c) List.mem_cons_self]; exact hsome) hforce
  | blocked f c rest hdir hforce =>
    exact .blocked f c rest (by rw [hsame (f, c) List.mem_cons_self]; exact hdir) hforce

/-- How writing files in order ends: the files `pre` are put in order, each where no directory
stood (and, without `force`, where nothing stood), and then the run stops at the rest. -/
theorem writeFiles_spec (h : w.lookup dir = .found d .dir) {files : List (String × String)}
    (hnames : ∀ fc ∈ files, fc.1 ≠ "..") (hnd : (files.map (·.1)).Nodup) :
    ∃ pre post, files = pre ++ post ∧
      (writeFiles dir force w files).1 = putFiles d w pre ∧
      (∀ fc ∈ pre, w.node? (d ++ [fc.1]) ≠ some .dir ∧
        (force = false → w.node? (d ++ [fc.1]) = none)) ∧
      WriteStop w dir d force post (writeFiles dir force w files).2 := by
  induction files generalizing w with
  | nil => exact ⟨[], [], rfl, rfl, by simp, .done⟩
  | cons fc rest ih =>
    obtain ⟨f, c⟩ := fc
    rw [List.map_cons, List.nodup_cons] at hnd
    have hf : f ≠ ".." := hnames (f, c) List.mem_cons_self
    rw [writeFiles_cons h hf]
    split
    case isTrue hrefuse =>
      rw [Bool.and_eq_true, Bool.not_eq_true'] at hrefuse
      exact ⟨[], _, rfl, rfl, by simp, .refused f c rest hrefuse.1 hrefuse.2⟩
    case isFalse hgo =>
      split
      case isTrue hdir =>
        have hforce : force = true := by
          cases force
          · simp [hdir] at hgo
          · rfl
        exact ⟨[], _, rfl, rfl, by simp, .blocked f c rest hdir hforce⟩
      case isFalse hdir =>
        -- the file is put; the rest runs on the new tree, where the other names read as before
        have hother : ∀ fc ∈ rest,
            (w.put (d ++ [f]) (.file (Utf8.encodeUtf8 c))).node? (d ++ [fc.1]) =
              w.node? (d ++ [fc.1]) := by
          intro fc hfc
          refine Workspace.node?_put_of_ne (by simp) _ fun heq => hnd.1 ?_
          exact List.mem_map.2 ⟨fc, hfc, List.singleton_inj.1 (List.append_cancel_left heq)⟩
        have h' := Workspace.resolveFrom_of_keepsDirs h
          (Workspace.keepsDirs_put hdir (.file (Utf8.encodeUtf8 c)))
        obtain ⟨pre, post, rfl, hput, hfresh, hstop⟩ :=
          ih h' (fun fc hfc => hnames fc (List.mem_cons_of_mem _ hfc)) hnd.2
        refine ⟨(f, c) :: pre, post, rfl, hput, ?_, hstop.congr fun fc hfc => ?_⟩
        · intro fc hfc
          rcases List.mem_cons.1 hfc with rfl | hpre
          · refine ⟨hdir, fun hoff => ?_⟩
            subst hoff
            simpa using hgo
          · rw [← hother fc (List.mem_append_left _ hpre)]
            exact hfresh fc hpre
        · exact (hother fc (List.mem_append_right _ hfc)).symm

/-- After new directories and files put into `d`, a path reads differently only where a
directory is new or where a file was put. -/
theorem changed_of_putFiles {w₁ : Workspace} {files : List (String × String)}
    (hadds : Workspace.AddsDirs w w₁) (q : RelPath)
    (hq : (putFiles d w₁ files).node? q ≠ w.node? q) :
    (w.node? q = none ∧ (putFiles d w₁ files).node? q = some .dir) ∨
      ∃ fc ∈ files, q = d ++ [fc.1] := by
  by_cases hin : ∃ fc ∈ files, q = d ++ [fc.1]
  · exact .inr hin
  · simp only [not_exists, not_and] at hin
    rw [node?_putFiles_of_not_mem hin] at hq ⊢
    exact .inl ((hadds q).resolve_left hq)

/-- A strategy name is never `..`, so its directory is a new level below `strategies`. -/
theorem ne_dotdot_of_isStrategyName {name : String} (h : isStrategyName name = true) :
    name ≠ ".." := by
  rintro rfl
  exact absurd h (by decide)

/-- The files of a strategy are its script, its manifest and its read-me, whatever its name. -/
theorem strategyFiles_names (name : String) :
    (strategyFiles name).map (·.1) = ["strategy.pine", "manifest.json", "README.md"] := rfl

/-- The three files of a strategy have distinct names. -/
theorem strategyFiles_nodup (name : String) : ((strategyFiles name).map (·.1)).Nodup := by
  rw [strategyFiles_names]
  decide

/-- No file of a strategy is named `..`. -/
theorem strategyFiles_ne_dotdot (name : String) : ∀ fc ∈ strategyFiles name, fc.1 ≠ ".." := by
  intro fc hfc
  have hname : fc.1 ∈ (strategyFiles name).map (·.1) := List.mem_map_of_mem hfc
  rw [strategyFiles_names] at hname
  intro heq
  rw [heq] at hname
  exact absurd hname (by decide)

variable {w' : Workspace} {root : RelPath} {name : String} {r : Except ScaffoldError RelPath}

/-- The files written before a run stopped have distinct names. -/
theorem nodup_of_strategyFiles_eq {pre post : List (String × String)}
    (hsplit : strategyFiles name = pre ++ post) : (pre.map (·.1)).Nodup := by
  have hall := strategyFiles_nodup name
  rw [hsplit, List.map_append] at hall
  exact (List.nodup_append.1 hall).1

/-- What a call did, read off its outcome: nothing at all (a bad name, or a directory that
could not be made), or it made directories (`w₁`) and then wrote the files `pre` into the
strategy's resolved directory `d` until it stopped at `post`. -/
theorem createStrategy_cases (h : createStrategy w root name force = (w', r)) :
    (w' = w ∧ (r = .error .invalidName ∨ ∃ e, r = .error (.os e))) ∨
    ∃ w₁ d pre post s, Workspace.AddsDirs w w₁ ∧
      w₁.lookup (strategyDir root name) = .found d .dir ∧
      strategyFiles name = pre ++ post ∧ w' = putFiles d w₁ pre ∧
      (∀ fc ∈ pre, w₁.node? (d ++ [fc.1]) ≠ some .dir ∧
        (force = false → w₁.node? (d ++ [fc.1]) = none)) ∧
      WriteStop w₁ (strategyDir root name) d force post s ∧
      r = s.map fun _ => strategyDir root name := by
  unfold createStrategy at h
  split at h
  case isTrue => exact .inl ⟨(Prod.mk.inj h).1.symm, .inl (Prod.mk.inj h).2.symm⟩
  case isFalse hname =>
    rw [Bool.not_eq_true', Bool.not_eq_false] at hname
    dsimp only at h
    split at h
    next e _ => exact .inl ⟨(Prod.mk.inj h).1.symm, .inr ⟨e, (Prod.mk.inj h).2.symm⟩⟩
    next w₁ hmk =>
      have hlast : (strategyDir root name).getLast? ≠ some ".." := by
        simpa [strategyDir] using ne_dotdot_of_isStrategyName hname
      obtain ⟨d, hd⟩ := Workspace.isDir_iff.1 (Workspace.isDir_of_makeDirs hmk hlast)
      obtain ⟨pre, post, hsplit, hput, hfresh, hstop⟩ :=
        @writeFiles_spec w₁ _ d force hd _ (strategyFiles_ne_dotdot name)
          (strategyFiles_nodup name)
      generalize writeFiles (strategyDir root name) force w₁ (strategyFiles name) = res
        at h hput hstop
      obtain ⟨w₂, s⟩ := res
      -- the call answers the directory where the writes answer `()`, and their error otherwise
      have hres : (w', r) = (w₂, s.map fun _ => strategyDir root name) := by
        rw [← h]
        cases s <;> rfl
      obtain ⟨rfl, rfl⟩ := Prod.mk.inj hres
      exact .inr ⟨w₁, d, pre, post, s, Workspace.makeDirs_addsDirs hmk, hd, hsplit, hput,
        hfresh, hstop, rfl⟩

/-- Without `force`, a call changes no entry that was there before it. -/
theorem createStrategy_keeps_entries (h : createStrategy w root name false = (w', r))
    (q : RelPath) (hq : w.node? q ≠ none) : w'.node? q = w.node? q := by
  rcases createStrategy_cases h with ⟨rfl, -⟩ | ⟨w₁, d, pre, _, _, hadds, -, -, rfl, hfresh, -, -⟩
  · rfl
  · have hq₁ := hadds.node?_eq hq
    by_cases hin : ∃ fc ∈ pre, q = d ++ [fc.1]
    · obtain ⟨fc, hfc, rfl⟩ := hin
      have hnone := (hfresh fc hfc).2 rfl
      rw [hq₁] at hnone
      exact absurd hnone hq
    · simp only [not_exists, not_and] at hin
      rw [node?_putFiles_of_not_mem hin, hq₁]

/-- A call rejected for its name leaves the tree as it was. -/
theorem createStrategy_invalidName (h : createStrategy w root name force = (w', r))
    (hr : r = .error .invalidName) : w' = w := by
  rcases createStrategy_cases h with ⟨rfl, -⟩ | ⟨_, _, _, _, _, -, -, -, -, -, hstop, rfl⟩
  · rfl
  · cases hstop <;> cases hr

/-- Every entry a call changes is a new directory or a template file, with its content, in
the strategy's directory: no call writes a file anywhere else. -/
theorem createStrategy_changes (h : createStrategy w root name force = (w', r)) (q : RelPath)
    (hq : w'.node? q ≠ w.node? q) :
    (w.node? q = none ∧ w'.node? q = some .dir) ∨
      ∃ d, w'.lookup (strategyDir root name) = .found d .dir ∧
        ∃ fc ∈ strategyFiles name, q = d ++ [fc.1] ∧
          w'.node? q = some (.file (Utf8.encodeUtf8 fc.2)) := by
  rcases createStrategy_cases h with ⟨rfl, -⟩ | ⟨w₁, d, pre, post, _, hadds, hd, hsplit, rfl,
    hfresh, -, -⟩
  · exact absurd rfl hq
  · rcases changed_of_putFiles hadds q hq with hdir | ⟨fc, hfc, rfl⟩
    · exact .inl hdir
    · refine .inr ⟨d, lookup_putFiles hd fun fc hfc => (hfresh fc hfc).1, fc, ?_, rfl,
        node?_putFiles_of_mem (nodup_of_strategyFiles_eq hsplit) hfc⟩
      rw [hsplit]
      exact List.mem_append_left _ hfc

/-- A refusal at a template file `f` comes without `force`, after the strategy's directory
was made, and after the files before `f` were written: each new, each with its template,
and nothing else changed but new directories. -/
theorem createStrategy_refusal (h : createStrategy w root name force = (w', r)) {path : String}
    (hr : r = .error (.refusing path)) :
    ∃ pre f c post d, strategyFiles name = pre ++ (f, c) :: post ∧
      path = (strategyDir root name ++ [f]).render ∧ force = false ∧
      w'.lookup (strategyDir root name) = .found d .dir ∧
      (∀ fc ∈ pre, w.node? (d ++ [fc.1]) = none ∧
        w'.node? (d ++ [fc.1]) = some (.file (Utf8.encodeUtf8 fc.2))) ∧
      ∀ q, w'.node? q ≠ w.node? q →
        (w.node? q = none ∧ w'.node? q = some .dir) ∨ ∃ fc ∈ pre, q = d ++ [fc.1] := by
  rcases createStrategy_cases h with ⟨-, hbad | ⟨e, hbad⟩⟩ | ⟨w₁, d, pre, post, s, hadds, hd,
    hsplit, rfl, hfresh, hstop, rfl⟩
  · rw [hr] at hbad
    cases hbad
  · rw [hr] at hbad
    cases hbad
  · cases hstop with
    | done => cases hr
    | blocked => cases hr
    | refused f c rest _ hforce =>
      cases hr
      refine ⟨pre, f, c, rest, d, hsplit, rfl, hforce,
        lookup_putFiles hd fun fc hfc => (hfresh fc hfc).1, fun fc hfc => ⟨?_, ?_⟩,
        changed_of_putFiles hadds⟩
      · exact hadds.node?_eq_none ((hfresh fc hfc).2 hforce)
      · exact node?_putFiles_of_mem (nodup_of_strategyFiles_eq hsplit) hfc

/-- Creating a strategy is confined to its directory. Without `force` no entry that was there
changes; a call rejected for its name changes nothing; a refusal at a template file has made
the strategy's directory and written exactly the template files before that one, none of which
existed; and apart from new directories, every entry a call changes is a template file in the
strategy's directory. -/
theorem create_strategy_confined (w : Workspace) (root : RelPath) (name : String)
    (force : Bool) {w' : Workspace} {r : Except ScaffoldError RelPath}
    (h : createStrategy w root name force = (w', r)) :
    (force = false → ∀ q, w.node? q ≠ none → w'.node? q = w.node? q) ∧
    (r = .error .invalidName → w' = w) ∧
    (∀ path, r = .error (.refusing path) →
      ∃ pre f c post d, strategyFiles name = pre ++ (f, c) :: post ∧
        path = (strategyDir root name ++ [f]).render ∧ force = false ∧
        w'.lookup (strategyDir root name) = .found d .dir ∧
        (∀ fc ∈ pre, w.node? (d ++ [fc.1]) = none ∧
          w'.node? (d ++ [fc.1]) = some (.file (Utf8.encodeUtf8 fc.2))) ∧
        ∀ q, w'.node? q ≠ w.node? q →
          (w.node? q = none ∧ w'.node? q = some .dir) ∨ ∃ fc ∈ pre, q = d ++ [fc.1]) ∧
    ∀ q, w'.node? q ≠ w.node? q →
      (w.node? q = none ∧ w'.node? q = some .dir) ∨
        ∃ d, w'.lookup (strategyDir root name) = .found d .dir ∧
          ∃ fc ∈ strategyFiles name, q = d ++ [fc.1] := by
  refine ⟨?_, createStrategy_invalidName h, fun _ hr => createStrategy_refusal h hr,
    fun q hq => ?_⟩
  · rintro rfl
    exact createStrategy_keeps_entries h
  · rcases createStrategy_changes h q hq with hdir | ⟨d, hd, fc, hfc, hq', -⟩
    · exact .inl hdir
    · exact .inr ⟨d, hd, fc, hfc, hq'⟩

/-- A tree that already holds `strategies/demo/manifest.json`. -/
def demoTree : Workspace :=
  ⟨[(["strategies"], .dir), (["strategies", "demo"], .dir),
    (["strategies", "demo", "manifest.json"], .file [])]⟩

/-- `create_strategy_confined` on a tree that already holds `strategies/demo/manifest.json`: without
force the call refuses at the manifest, and every entry that was there stands. -/
theorem create_strategy_confined_refused_manifest :
    (createStrategy demoTree [] "demo" false).2 =
        .error (.refusing "strategies/demo/manifest.json") ∧
      ∀ q, demoTree.node? q ≠ none →
        (createStrategy demoTree [] "demo" false).1.node? q = demoTree.node? q :=
  ⟨rfl, (create_strategy_confined demoTree [] "demo" false rfl).1 rfl⟩

end PineCheck
