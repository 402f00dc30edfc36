import SchemaGrammar.Plugin.Registry

/-!
# Calls of plugins

A call succeeds if the plugin is switched on, its options are accepted and its work gives a
result.  A chain of transformers succeeds if all of its calls do, one on the result of the
other.

**Results.**
* `Plugin.result_run_ofShape_eq_ok_iff`: when a plugin with decoded options succeeds.
* `Registry.entry?_eq_some_iff`: which entries are found.
* `Registry.call_eq_ok_iff`: when a call succeeds.
* `Registry.transform_cons_eq_ok_iff`: when a chain of at least one call succeeds.
-/

namespace SchemaGrammar

/-- Errors that are renamed leave success as it is. -/
theorem mapError_eq_ok_iff
    {ε δ α : Type}
    {f : ε → δ}
    {x : Except ε α}
    {a : α} :
    x.mapError f = .ok a ↔ x = .ok a := by
  cases x with
  | error e =>
      constructor
      · intro h
        cases h
      · intro h
        cases h
  | ok b =>
      constructor
      · intro h
        cases h
        rfl
      · intro h
        cases h
        rfl

theorem mapError_eq_error_iff
    {ε δ α : Type}
    {f : ε → δ}
    {x : Except ε α}
    {d : δ} :
    x.mapError f = .error d ↔ ∃ e, x = .error e ∧ f e = d := by
  cases x with
  | error e =>
      constructor
      · intro h
        exact ⟨e, rfl, Except.error.inj h⟩
      · rintro ⟨_, ⟨⟩, rfl⟩
        rfl
  | ok a =>
      constructor
      · intro h
        cases h
      · rintro ⟨_, ⟨⟩, -⟩

/-- Where errors are told apart afterwards, nothing is lost. -/
theorem mapError_inj
    {ε δ α : Type}
    {f : ε → δ}
    (hf : ∀ e e', f e = f e' → e = e')
    {x y : Except ε α} :
    x.mapError f = y.mapError f ↔ x = y := by
  constructor
  · intro h
    cases hy : y with
    | error e =>
        rw [hy] at h
        obtain ⟨e', rfl, he'⟩ := mapError_eq_error_iff.mp h
        rw [hf e' e he']
    | ok a =>
        rw [hy] at h
        exact mapError_eq_ok_iff.mp h
  · rintro rfl
    rfl

/-- A plugin with decoded options succeeds if its options can be decoded and its work on them
succeeds. -/
theorem Plugin.result_run_ofShape_eq_ok_iff
    {kind : PluginKind}
    {σ : Type}
    {metadata : PluginMetadata}
    {format : Option String}
    {shape : Shape σ}
    {problems : σ → List String}
    {run : kind.Input → σ → Except Failure kind.Result}
    {input : kind.Input}
    {options : OptionMap}
    {result : kind.Result} :
    ((Plugin.ofShape metadata format shape problems run).run input options).result = .ok result ↔
      ∃ s, options.decode shape = .ok s ∧ run input s = .ok result := by
  unfold Plugin.ofShape
  dsimp only
  cases options.decode shape with
  | error e => simp [Outcome.result]
  | ok s => simp [Outcome.result_ofExcept]

namespace Registry

variable {r : Registry}

/-- An entry is found on its shelf if it is switched on. -/
theorem entry?_eq_some_iff
    {kind : PluginKind}
    {id : String}
    {e : Entry kind} :
    r.entry? kind id = some e ↔ (r.shelf kind).get? id = some e ∧ e.enabled = true :=
  Option.filter_eq_some_iff

/-- A call succeeds if its options are accepted and the work succeeds. -/
theorem call_eq_ok_iff
    {kind : PluginKind}
    {id : String}
    {input : kind.Input}
    {supplied : OptionMap}
    {result : kind.Result} :
    r.call kind id input supplied = .ok result ↔
      ∃ e, r.entry? kind id = some e ∧
        ((Entry.effective e supplied).isEmpty = true ∨
          e.plugin.problems (Entry.effective e supplied) = []) ∧
        (e.plugin.run input (Entry.effective e supplied)).result = .ok result := by
  unfold call
  cases r.entry? kind id with
  | none => simp
  | some e =>
      simp only [Option.some.injEq, exists_eq_left']
      generalize Entry.effective e supplied = options
      cases options.isEmpty with
      | true => simp [mapError_eq_ok_iff]
      | false => cases e.plugin.problems options <;> simp [mapError_eq_ok_iff]

/-- A chain succeeds if its first stage does, and then the rest. -/
theorem transform_cons_eq_ok_iff
    {g : Grammar}
    {id : String}
    {ids : List String}
    {options : KeyMap OptionMap}
    {t : Transformed} :
    r.transform g (id :: ids) options = .ok t ↔
      ∃ next rest,
        r.call .transformer id g ((options.get? id).getD .empty) = .ok next ∧
        r.transform next ids options = .ok rest ∧
        t = ⟨rest.grammar, id :: rest.applied⟩ := by
  rw [transform]
  cases r.call .transformer id g ((options.get? id).getD .empty) with
  | error e => simp
  | ok next =>
      simp only [Except.ok.injEq, exists_and_left, exists_eq_left']
      cases r.transform next ids options with
      | error e => simp
      | ok rest => simp [eq_comm]

end Registry

end SchemaGrammar
