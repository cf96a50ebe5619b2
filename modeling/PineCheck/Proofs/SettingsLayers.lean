import PineCheck.Settings.Basic
/-!
# Laying overrides over settings

`Settings.merge` writes a sequence of overrides over the settings, the later of two keys for
one setting winning (`written_append`), and checks every setting again. Each setting is
checked on its own (`checkField`), and checking a setting's own value gives it back
(`checkField_get`): the values of settings are already read and within their bounds. So a
merge reads only the checked value of each setting (`ofRaw_congr`), and a merge that succeeds
leaves every setting with the value its check gave (`checkField_of_ofRaw`).

From these: merging nothing changes nothing (`merge_nil`), and merging `b` over the settings
that merging `a` gave is merging `a ++ b` at once, to the same settings or the same failures
(`merge_merge`). When merging `a` fails, each failure belongs to one setting, and merging
`a ++ b` fails with it too unless `b` gives that setting a value (`merge_append_of_error`). A
later value can repair an earlier bad one, so the two sides need not fail together
(`later_key_repairs_failed_merge`).

Main statement: `merge_layers`.
-/

namespace PineCheck

/-- Two outcomes whose results are mapped by an injective function to the same outcome are the same.
-/
theorem Except.eq_of_map_eq {ε α β : Type} {g : α → β} (hg : Function.Injective g)
    {x y : Except ε α} (h : x.map g = y.map g) : x = y := by
  cases x <;> cases y <;> simp only [Except.map, Except.error.injEq, Except.ok.injEq,
    reduceCtorEq] at h ⊢
  · exact h
  · exact hg h

/-- Mapping the result of an outcome keeps its error. -/
theorem Except.map_eq_error_iff {ε α β : Type} {g : α → β} {x : Except ε α} {e : ε} :
    x.map g = .error e ↔ x = .error e := by
  cases x <;> simp [Except.map]

/-- Every setting is in the list of all settings. -/
theorem Field.mem_all (f : Field) : f ∈ Field.all := by
  cases f <;> simp [Field.all]

namespace Settings

/-! ## Checking one setting -/

/-- A setting's value as the merge checks it, read back as a value: a count read leniently and
held to its least value, or a flag read leniently. -/
def checkField (f : Field) (v : Value) : Except SchemaError Value :=
  match f.least? with
  | some least => (checkCount f least v).map fun n => .int n.1
  | none => (checkFlag f v).map .bool

/-- A count at least the least value passes its check as itself. -/
theorem checkCount_int {f : Field} {least n : Nat} (h : least ≤ n) :
    checkCount f least (.int n) = .ok ⟨n, h⟩ := by
  have hnot : ¬ (n : Int) < least := by omega
  simp [checkCount, Coerce.toInt, hnot]

/-- A flag passes its check as itself. -/
theorem checkFlag_bool (f : Field) (b : Bool) : checkFlag f (.bool b) = .ok b := rfl

/-- Checking a setting's own value gives it back. -/
theorem checkField_get (s : Settings) (f : Field) : checkField f (s.get f) = .ok (s.get f) := by
  cases f <;>
    simp [checkField, Field.least?, get, checkFlag_bool, checkCount_int, Except.map,
      Nat.succ_le_of_lt s.version_pos, Nat.succ_le_of_lt s.maxLineLength_pos,
      Nat.succ_le_of_lt s.indentUnit_pos]

/-! ## The merge reads the checked settings -/

/-- Two assignments of values to the settings whose checks agree are merged alike. -/
theorem ofRaw_congr {raw₁ raw₂ : Field → Value}
    (h : ∀ f, checkField f (raw₁ f) = checkField f (raw₂ f)) : ofRaw raw₁ = ofRaw raw₂ := by
  -- a count's check is read back through an injective map, and so is a flag's
  have hcount : ∀ f least, f.least? = some least →
      checkCount f least (raw₁ f) = checkCount f least (raw₂ f) := by
    intro f least hleast
    have hf := h f
    simp only [checkField, hleast] at hf
    refine Except.eq_of_map_eq (fun m n hmn => Subtype.ext ?_) hf
    exact Int.ofNat_inj.1 (Value.int.inj hmn)
  have hflag : ∀ f, f.least? = none → checkFlag f (raw₁ f) = checkFlag f (raw₂ f) := by
    intro f hleast
    have hf := h f
    simp only [checkField, hleast] at hf
    exact Except.eq_of_map_eq (fun _ _ h => Value.bool.inj h) hf
  simp only [ofRaw, hcount .version 1 rfl, hflag .disallowLookahead rfl, hflag .requireLimitOrders rfl,
    hcount .maxInputs 0 rfl, hcount .maxRequestSecurity 0 rfl, hcount .maxLineLength 1 rfl,
    hflag .oneInputPerLine rfl, hflag .disallowTabs rfl, hflag .strictIndent rfl,
    hflag .disallowEveryTick rfl, hcount .indentUnit 1 rfl, hcount .entryGuardWindow 0 rfl]

/-- A check reports no failure exactly when it gives a value. -/
theorem failure?_eq_nil_iff {α : Type} {x : Except SchemaError α} :
    failure? x = [] ↔ ∃ a, x = .ok a := by
  cases x <;> simp [failure?]

/-- The failure a check reports is its error. -/
theorem mem_failure?_iff {α : Type} {x : Except SchemaError α} {e : SchemaError} :
    e ∈ failure? x ↔ x = .error e := by
  cases x <;> simp [failure?, eq_comm]

/-- A merge that succeeds leaves every setting with the value its check gave. -/
theorem checkField_of_ofRaw {raw : Field → Value} {s : Settings} (h : ofRaw raw = .ok s)
    (f : Field) : checkField f (raw f) = .ok (s.get f) := by
  unfold ofRaw at h
  dsimp only at h
  split at h
  · cases h
  · -- no check failed: each gave a value, and the settings hold those values
    rename_i hok
    simp only [Bool.not_eq_true', List.isEmpty_eq_false_iff, ne_eq, Classical.not_not,
      List.append_eq_nil_iff, failure?_eq_nil_iff] at hok
    obtain ⟨⟨⟨⟨⟨⟨⟨⟨⟨⟨⟨⟨v, hv⟩, ⟨dl, hdl⟩⟩, ⟨rl, hrl⟩⟩, ⟨mi, hmi⟩⟩, ⟨ms, hms⟩⟩, ⟨ml, hml⟩⟩,
      ⟨oi, hoi⟩⟩, ⟨dt, hdt⟩⟩, ⟨si, hsi⟩⟩, ⟨de, hde⟩⟩, ⟨iu, hiu⟩⟩, ⟨gw, hgw⟩⟩ := hok
    simp only [hv, hdl, hrl, hmi, hms, hml, hoi, hdt, hsi, hde, hiu, hgw, valueOr] at h
    cases h
    cases f <;> simp [checkField, Field.least?, get, Except.map, *]

/-- The failures of a merge that fails are the failures of the settings' checks. -/
theorem mem_of_ofRaw_eq_error {raw : Field → Value} {es : List SchemaError}
    (h : ofRaw raw = .error es) (e : SchemaError) :
    e ∈ es ↔ ∃ f, checkField f (raw f) = .error e := by
  unfold ofRaw at h
  dsimp only at h
  split at h
  · cases h
    -- one check per setting, in declared order on both sides
    have hall : (∃ f, checkField f (raw f) = .error e) ↔
        ∃ f ∈ Field.all, checkField f (raw f) = .error e :=
      ⟨fun ⟨f, hf⟩ => ⟨f, Field.mem_all f, hf⟩, fun ⟨f, _, hf⟩ => ⟨f, hf⟩⟩
    rw [hall]
    simp only [Field.all, List.mem_cons, List.not_mem_nil, or_false, or_and_right, exists_or,
      exists_eq_left, checkField, Field.least?, Except.map_eq_error_iff, List.mem_append,
      mem_failure?_iff, or_assoc]
  · cases h

/-! ## Overrides in sequence -/

/-- Reading overrides after a value already found: the last of them for the setting, else the
value found. -/
theorem foldl_override (b : List (Value × Value)) (f : Field) (found : Option Value) :
    b.foldl (fun found kv => if Field.ofKey? kv.1 == some f then some kv.2 else found) found =
      (overrideOf b f).or found := by
  induction b generalizing found with
  | nil => rfl
  | cons kv rest ih =>
    unfold overrideOf
    rw [List.foldl_cons, List.foldl_cons, ih, ih]
    split <;> simp

/-- Of two override sequences in turn, the later one's value for a setting wins. -/
theorem overrideOf_append (a b : List (Value × Value)) (f : Field) :
    overrideOf (a ++ b) f = (overrideOf b f).or (overrideOf a f) := by
  unfold overrideOf
  rw [List.foldl_append, foldl_override]
  rfl

/-- Of two override sequences in turn, the later one's value for a setting is written, and the
earlier one's where it has none. -/
theorem written_append (s : Settings) (a b : List (Value × Value)) (f : Field) :
    s.written (a ++ b) f = (overrideOf b f).getD (s.written a f) := by
  unfold written
  rw [overrideOf_append]
  cases overrideOf b f <;> rfl

/-! ## Merging -/

/-- Merging nothing leaves the settings as they are. -/
theorem merge_nil (s : Settings) : s.merge [] = .ok s := by
  have hget : ofRaw s.get = .ok s := by
    cases s
    simp [ofRaw, get, checkCount_int, checkFlag_bool, failure?, valueOr, Nat.succ_le_of_lt, *]
  exact hget

/-- **Merging in layers.** Merging `b` over the settings that merging `a` gave is merging
`a ++ b` at once: the same settings, or the same failures. -/
theorem merge_merge {s s' : Settings} {a : List (Value × Value)} (h : s.merge a = .ok s')
    (b : List (Value × Value)) : s'.merge b = s.merge (a ++ b) := by
  apply ofRaw_congr
  intro f
  rw [written_append]
  show checkField f ((overrideOf b f).getD (s'.get f)) = _
  -- a setting that `b` sets is checked on that value on both sides; any other setting on the
  -- value merging `a` gave it, which checks as the value `a` left
  cases overrideOf b f with
  | some v => rfl
  | none => rw [Option.getD_none, Option.getD_none, checkField_get, checkField_of_ofRaw h]

/-- When merging `a` fails, each failure is the failure of one setting's check, and merging
`a ++ b` fails with it too unless `b` sets that setting. -/
theorem merge_append_of_error {s : Settings} {a : List (Value × Value)} {es : List SchemaError}
    (h : s.merge a = .error es) (b : List (Value × Value)) :
    ∀ e ∈ es, ∃ f, checkField f (s.written a f) = .error e ∧
      (overrideOf b f = none → ∃ es', s.merge (a ++ b) = .error es' ∧ e ∈ es') := by
  intro e he
  obtain ⟨f, hf⟩ := (mem_of_ofRaw_eq_error h e).1 he
  refine ⟨f, hf, fun hb => ?_⟩
  -- the setting keeps the value `a` gave it, whose check fails; so the merge fails with it
  have hkeep : checkField f (s.written (a ++ b) f) = .error e := by
    rw [written_append, hb, Option.getD_none, hf]
  cases hmerge : s.merge (a ++ b) with
  | ok s'' =>
    have hok := checkField_of_ofRaw hmerge f
    rw [hkeep] at hok
    cases hok
  | error es' => exact ⟨es', rfl, (mem_of_ofRaw_eq_error hmerge e).2 ⟨f, hkeep⟩⟩

/-- **Overrides laid over settings in layers.** Merging nothing changes nothing. When merging
`a` succeeds, merging `b` over its result is merging `a ++ b` at once, to the same settings or
the same failures. When merging `a` fails, each failure is that of one setting's check, and
merging `a ++ b` fails with that failure too unless `b` gives the setting a value. -/
theorem merge_layers (s : Settings) (a b : List (Value × Value)) :
    s.merge [] = .ok s ∧
      (∀ s', s.merge a = .ok s' → s'.merge b = s.merge (a ++ b)) ∧
      ∀ es, s.merge a = .error es →
        ∀ e ∈ es, ∃ f, checkField f (s.written a f) = .error e ∧
          (overrideOf b f = none → ∃ es', s.merge (a ++ b) = .error es' ∧ e ∈ es') :=
  ⟨merge_nil s, fun _ h => merge_merge h b, fun _ h => merge_append_of_error h b⟩

/-- `merge_layers` on a settings file that raises the input ceiling and a request that raises
it again, by the field's other name. -/
theorem merge_layers_request_over_file :
    ∃ s', Settings.default.merge [(.str "maxInputs", .int 50)] = .ok s' ∧
      s'.merge [(.str "max_inputs", .int 60)] =
        Settings.default.merge ([(.str "maxInputs", .int 50)] ++ [(.str "max_inputs", .int 60)]) :=
  ⟨_, rfl, (merge_layers Settings.default _ _).2.1 _ rfl⟩

/-- A later key repairs a bad value: an indent unit of 0 fails, but an indent unit of 4 after
it, by its camelCase alias, wins and the merge succeeds. -/
theorem later_key_repairs_failed_merge :
    (∃ es, Settings.default.merge [(.str "indent_unit", .int 0)] = .error es) ∧
      ∃ s, Settings.default.merge ([(.str "indent_unit", .int 0)] ++ [(.str "indentUnit", .int 4)]) =
        .ok s ∧ s.indentUnit = 4 := by
  refine ⟨⟨_, rfl⟩, _, rfl, rfl⟩

end Settings

end PineCheck
