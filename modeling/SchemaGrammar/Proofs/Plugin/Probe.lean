import SchemaGrammar.Plugin.Probe
import SchemaGrammar.Proofs.Plugin.Chain
import SchemaGrammar.Proofs.Plugin.Integrity

/-!
# What trials show

The work of a plugin may end in a result, in a failure, or be broken off with a message or
without one.  A call makes a result or an error of each of these ends, and no two of them are
taken for one another; a chain goes on behind the results only.  Probes show this for every
kind of plugin, since they end in each of these ways.

**Results.**
* `Probe.call_eq_ok_iff`: when the call of a probe succeeds, and with what.
* `Probe.call_eq_call_iff`: calls of probes that end differently return something different.
* `Probe.exists_transform_eq_ok_iff`: when a chain of probes succeeds.
* `Probe.upholds_transform`: what a chain of probes keeps of a grammar.
-/

namespace SchemaGrammar.Probe

section Modes

variable {α : Type} {mode other : Mode} {a b : α}

/-- Nothing but success gives a result. -/
theorem Mode.result_outcome_eq_ok_iff :
    (mode.outcome a).result = .ok b ↔ mode = .succeed ∧ b = a := by
  cases mode with
  | succeed => simp [outcome, Outcome.result, eq_comm]
  | fail => simp [outcome, Outcome.result]
  | panic => simp [outcome, Outcome.result]
  | panicOwned => simp [outcome, Outcome.result]
  | panicAny => simp [outcome, Outcome.result]

/-- No two modes end alike, also where the work is broken off. -/
theorem Mode.result_outcome_inj :
    (mode.outcome a).result = (other.outcome a).result ↔ mode = other := by
  cases mode <;> cases other <;> simp [outcome, Outcome.result]

/-- The name is a text, if one is given. -/
def NamedByText (o : OptionMap) : Prop :=
  ∀ value, o.get? "name" = some value → ∃ name, value = .str name

theorem problems_eq_nil_iff
    {o : OptionMap} :
    problems o = [] ↔ NamedByText o := by
  unfold problems NamedByText
  cases o.get? "name" with
  | none => simp
  | some value => cases value <;> simp

theorem namedByText_of_isEmpty
    {o : OptionMap}
    (h : o.isEmpty = true) :
    NamedByText o := by
  rw [KeyMap.isEmpty_eq_true_iff.mp h]
  exact nofun

end Modes

section Calls

variable {r : Registry} {kind : PluginKind} {id mode : String} {defaults supplied : OptionMap}
  {input : kind.Input}

/-- The call of a probe succeeds if its options are accepted and its mode is that of success. -/
theorem call_eq_ok_iff
    {result : kind.Result}
    (h : (r.shelf kind).get? id = some ⟨plugin kind mode, true, defaults⟩) :
    r.call kind id input supplied = .ok result ↔
      NamedByText (supplied.mergedOver defaults) ∧ Mode.ofName mode = .succeed ∧
        result = work kind input (supplied.mergedOver defaults) := by
  have hentry := Registry.entry?_eq_some_iff.mpr ⟨h, rfl⟩
  rw [Registry.call_eq_ok_iff, hentry]
  simp only [Option.some.injEq, exists_eq_left', Registry.Entry.effective]
  have haccepted (o : OptionMap) : o.isEmpty = true ∨ problems o = [] ↔ NamedByText o := by
    rw [problems_eq_nil_iff]
    exact or_iff_right_of_imp namedByText_of_isEmpty
  exact and_congr (haccepted _) Mode.result_outcome_eq_ok_iff

/-- With options that are accepted, the call of a probe ends as its work does. -/
theorem call_eq_mapError
    (h : (r.shelf kind).get? id = some ⟨plugin kind mode, true, defaults⟩)
    (haccepted : NamedByText (supplied.mergedOver defaults)) :
    r.call kind id input supplied =
      ((Mode.ofName mode).outcome
        (work kind input (supplied.mergedOver defaults))).result.mapError (.ofFailure kind id) := by
  have hproblems : (plugin kind mode).problems (supplied.mergedOver defaults) = [] :=
    problems_eq_nil_iff.mpr haccepted
  rw [Registry.call, Registry.entry?_eq_some_iff.mpr ⟨h, rfl⟩]
  dsimp only
  rw [Registry.Entry.effective, hproblems, ite_self]
  rfl

/-- What a call returns tells how the work has ended: two probes whose options are accepted give
the same only if they end alike. -/
theorem call_eq_call_iff
    {r' : Registry}
    {other : String}
    (h : (r.shelf kind).get? id = some ⟨plugin kind mode, true, defaults⟩)
    (h' : (r'.shelf kind).get? id = some ⟨plugin kind other, true, defaults⟩)
    (haccepted : NamedByText (supplied.mergedOver defaults)) :
    r.call kind id input supplied = r'.call kind id input supplied ↔
      Mode.ofName mode = Mode.ofName other := by
  have hsource (e e' : Failure)
      (heq : PluginError.ofFailure kind id e = PluginError.ofFailure kind id e') : e = e' :=
    (PluginError.failed.inj heq).2.2.2
  rw [call_eq_mapError h haccepted, call_eq_mapError h' haccepted, mapError_inj hsource,
    Mode.result_outcome_inj]

end Calls

section Chains

variable {r : Registry} {options : KeyMap OptionMap} {mode : String → String}
  {defaults : String → OptionMap}

/-- The names stand for probes that are switched on. -/
def Tries (r : Registry) (mode : String → String) (defaults : String → OptionMap)
    (ids : List String) : Prop :=
  ∀ id ∈ ids, (r.shelf .transformer).get? id =
    some ⟨plugin .transformer (mode id), true, defaults id⟩

/-- **Chains of probes.**  Whether a chain succeeds does not depend on the grammar: all options
must be accepted, and every mode must be that of success. -/
theorem exists_transform_eq_ok_iff
    {ids : List String}
    (h : Tries r mode defaults ids)
    (g : Grammar) :
    (∃ t, r.transform g ids options = .ok t) ↔
      ∀ id ∈ ids,
        NamedByText (((options.get? id).getD .empty).mergedOver (defaults id)) ∧
          Mode.ofName (mode id) = .succeed := by
  induction ids generalizing g with
  | nil => exact iff_of_true ⟨_, rfl⟩ nofun
  | cons id ids ih =>
      obtain ⟨hid, hids⟩ := List.forall_mem_cons.mp h
      rw [List.forall_mem_cons]
      constructor
      · rintro ⟨t, ht⟩
        obtain ⟨next, rest, hnext, hrest, -⟩ := Registry.transform_cons_eq_ok_iff.mp ht
        obtain ⟨haccepted, hmode, -⟩ := (call_eq_ok_iff hid).mp hnext
        exact ⟨⟨haccepted, hmode⟩, (ih hids next).mp ⟨rest, hrest⟩⟩
      · rintro ⟨⟨haccepted, hmode⟩, hall⟩
        obtain ⟨rest, hrest⟩ := (ih hids _).mpr hall
        refine ⟨_, Registry.transform_cons_eq_ok_iff.mpr ⟨_, rest, ?_, hrest, rfl⟩⟩
        exact (call_eq_ok_iff hid).mpr ⟨haccepted, hmode, rfl⟩

/-- The rule that a probe adds refers to nothing. -/
theorem upholds_work
    (g : Grammar)
    (o : OptionMap) :
    Grammar.Upholds (work .transformer g o) g where
  wellFormed hg :=
    Grammar.wellFormed_withRule hg.root hg.name (fun hold hname => .inr (hg.closed hold hname))
      nofun
  root := rfl
  metadata := rfl
  keys := Grammar.contains_withRule_of_contains

/-- A chain of probes loses nothing of what its grammar promises. -/
theorem upholds_transform
    {ids : List String}
    (h : Tries r mode defaults ids)
    {g : Grammar}
    {t : Registry.Transformed}
    (ht : r.transform g ids options = .ok t) :
    t.grammar.Upholds g := by
  refine Registry.upholds_transform_of_call (fun id hid supplied g next hnext => ?_) ht
  obtain ⟨-, -, rfl⟩ := (call_eq_ok_iff (h id hid)).mp hnext
  exact upholds_work g _

end Chains

end SchemaGrammar.Probe
