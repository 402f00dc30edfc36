import SchemaGrammar.Plugin.BuiltIn
import SchemaGrammar.Proofs.Grammar.WellFormed
import SchemaGrammar.Proofs.Json.Fields
import SchemaGrammar.Proofs.Transform.FieldParts

/-!
# Accepted options

A plugin looks at its options twice: once when it is asked for their problems and once when it
runs.  A built-in plugin that has nothing against its options fails for a reason of its input if
it fails at all, and each of them for a reason of its own.

**Results.**
* `Plugin.Accepts`: the plugin finds no problems; `Plugin.exists_decode_of_accepts`: then it runs
  on the options that it has decoded.
* `Plugin.NeverFails`, `Plugin.FailsOnly`, `Plugin.BlamesInput`: how it may end then.
* `OptionMap.Stops`, `Grammar.checkpoint_eq`: which grammars are stopped at a checkpoint.
* `BuiltIn.blamesInput_of_mem_all`: accepted options are never at fault.
* `BuiltIn.run_of_accepts`: how every built-in plugin ends on accepted options.
-/

namespace SchemaGrammar

namespace Plugin

variable {kind : PluginKind}

/-- The plugin has nothing against the options. -/
def Accepts (p : Plugin kind) (o : OptionMap) : Prop := p.problems o = []

/-- With options that it accepts, the plugin has a result for every input. -/
def NeverFails (p : Plugin kind) : Prop :=
  ∀ input o, p.Accepts o → ∃ result, p.run input o = .done result

/-- With options that it accepts, the plugin has a result or fails in one way only. -/
def FailsOnly {ε : Type} (p : Plugin kind) (cause : ε → Failure) : Prop :=
  ∀ input o, p.Accepts o →
    (∃ result, p.run input o = .done result) ∨ ∃ e, p.run input o = .failed (cause e)

/-- With options that it accepts, the plugin does not fail because they cannot be decoded, and
does not break off. -/
def BlamesInput (p : Plugin kind) : Prop :=
  ∀ input o, p.Accepts o →
    (∀ e, p.run input o ≠ .failed (.options e)) ∧ ∀ message, p.run input o ≠ .panicked message

theorem NeverFails.blamesInput
    {p : Plugin kind}
    (h : p.NeverFails) :
    p.BlamesInput := by
  intro input o ho
  obtain ⟨result, hresult⟩ := h input o ho
  rw [hresult]
  exact ⟨nofun, nofun⟩

theorem FailsOnly.blamesInput
    {ε : Type}
    {p : Plugin kind}
    {cause : ε → Failure}
    (h : p.FailsOnly cause)
    (hcause : ∀ e e', cause e ≠ .options e') :
    p.BlamesInput := by
  intro input o ho
  rcases h input o ho with ⟨result, hresult⟩ | ⟨e, hfailed⟩
  · rw [hresult]
    exact ⟨nofun, nofun⟩
  · rw [hfailed]
    exact ⟨fun e' he' => hcause e e' (Outcome.failed.inj he'), nofun⟩

section Decoded

variable
  {σ : Type}
  {metadata : PluginMetadata}
  {format : Option String}
  {shape : Shape σ}
  {problems : σ → List String}

/-- A plugin with decoded options accepts those that it can decode and finds no problems with,
and runs on them as decoded. -/
theorem exists_decode_of_accepts
    {run : kind.Input → σ → Except Failure kind.Result}
    {o : OptionMap}
    (h : (ofShape metadata format shape problems run).Accepts o) :
    ∃ s, o.decode shape = .ok s ∧ problems s = [] ∧
      ∀ input, (ofShape metadata format shape problems run).run input o =
        .ofExcept (run input s) := by
  unfold Accepts ofShape OptionMap.check at h
  unfold ofShape
  dsimp only at h ⊢
  cases hdecode : o.decode shape with
  | ok s =>
      rw [hdecode] at h
      exact ⟨s, rfl, h, fun _ => rfl⟩
  | error e =>
      rw [hdecode] at h
      cases h

/-- Once its options are decoded, pure work never fails. -/
theorem neverFails_ofShape
    {work : kind.Input → σ → kind.Result} :
    (ofShape metadata format shape problems fun input s => .ok (work input s)).NeverFails := by
  intro input o h
  obtain ⟨s, -, -, hrun⟩ := exists_decode_of_accepts h
  exact ⟨work input s, hrun input⟩

/-- Once its options are decoded, work fails as it does by itself. -/
theorem failsOnly_ofShape
    {ε : Type}
    {work : kind.Input → σ → Except ε kind.Result}
    {cause : ε → Failure} :
    (ofShape metadata format shape problems fun input s =>
      (work input s).mapError cause).FailsOnly cause := by
  intro input o h
  obtain ⟨s, -, -, hrun⟩ := exists_decode_of_accepts h
  rw [hrun]
  cases work input s with
  | ok result => exact .inl ⟨result, rfl⟩
  | error e => exact .inr ⟨e, rfl⟩

end Decoded

end Plugin

theorem FieldOptions.owns_ruleName :
    shape.Owns "ruleName" .string FieldOptions.ruleName where
  field := ⟨_, rfl, .mandatory fun _ _ => rfl⟩
  others := by
    simp only [shape, List.forall_mem_cons]
    exact ⟨fun h => absurd rfl h, fun _ => .mandatory fun _ _ => rfl,
      fun _ => .mandatory fun _ _ => rfl, fun _ => .withDefault fun _ _ => rfl,
      fun _ => .withDefault fun _ _ => rfl, fun _ => .withDefault fun _ _ => rfl, nofun⟩

theorem CheckpointOptions.owns_failOnError :
    shape.Owns "failOnError" .boolean CheckpointOptions.failOnError where
  field := ⟨_, rfl, .withDefault fun _ _ => rfl⟩
  others := by
    simp only [shape, List.forall_mem_cons]
    exact ⟨fun h => absurd rfl h, fun _ => .withDefault fun _ _ => rfl, nofun⟩

theorem CheckpointOptions.owns_treatWarningsAsErrors :
    shape.Owns "treatWarningsAsErrors" .boolean CheckpointOptions.treatWarningsAsErrors where
  field := ⟨_, rfl, .withDefault fun _ _ => rfl⟩
  others := by
    simp only [shape, List.forall_mem_cons]
    exact ⟨fun _ => .withDefault fun _ _ => rfl, fun h => absurd rfl h, nofun⟩

/-- The options tell to stop a grammar with the report: errors stop it if `failOnError` is set, and
warnings if `treatWarningsAsErrors` is set as well. -/
def OptionMap.Stops (o : OptionMap) (report : Report) : Prop :=
  o.IsSet "failOnError" ∧
    (report.errors ≠ [] ∨ o.IsSet "treatWarningsAsErrors" ∧ report.warnings ≠ [])

/-- When the decoded options stop a grammar. -/
theorem OptionMap.stops_iff
    {o : OptionMap}
    {s : CheckpointOptions}
    (h : o.decode CheckpointOptions.shape = .ok s)
    {report : Report} :
    o.Stops report ↔
      s.failOnError = true ∧
        (report.errors ≠ [] ∨ s.treatWarningsAsErrors = true ∧ report.warnings ≠ []) := by
  rw [Stops, isSet_iff CheckpointOptions.owns_failOnError rfl h,
    isSet_iff CheckpointOptions.owns_treatWarningsAsErrors rfl h]

namespace Grammar

variable {g : Grammar}

theorem addField_of_contains_eq_false
    {s : FieldOptions}
    (hrule : g.contains s.ruleName = false) :
    g.addField s = .error (.unknownRule s.ruleName) := by
  unfold addField
  rw [contains_eq_false_iff.mp hrule]

/-- A checkpoint that counts nothing lets every grammar pass; otherwise errors count, and warnings
if they are to. -/
theorem checkpoint_eq
    (s : CheckpointOptions) :
    g.checkpoint s =
      if s.failOnError = true ∧
          (g.validate.errors ≠ [] ∨
            s.treatWarningsAsErrors = true ∧ g.validate.warnings ≠ []) then
        .error (.validationFailed g.validate)
      else .ok g := by
  unfold checkpoint Report.result
  generalize g.validate = report
  obtain ⟨failOnError, treatWarningsAsErrors⟩ := s
  obtain ⟨errors, warnings⟩ := report
  cases failOnError with
  | false => simp
  | true =>
      cases errors with
      | cons => simp [Except.map]
      | nil => cases treatWarningsAsErrors <;> cases warnings <;> simp [Except.map]

end Grammar

namespace BuiltIn

section Ends

variable {o : OptionMap} (g : Grammar)

/-- An added field fails only for a rule that is not there. -/
theorem run_fieldAdder
    (h : fieldAdder.Accepts o) :
    ∃ name, o.get? "ruleName" = some (.str name) ∧
      (g.contains name = true → ∃ g', fieldAdder.run g o = .done g') ∧
      (g.contains name = false → fieldAdder.run g o = .failed (.field (.unknownRule name))) := by
  obtain ⟨s, hs, hproblems, hrun⟩ := Plugin.exists_decode_of_accepts h
  have hname : o.get? "ruleName" = some (.str s.ruleName) :=
    OptionMap.get?_eq_str FieldOptions.owns_ruleName List.mem_cons_self rfl rfl hs
  refine ⟨s.ruleName, hname, fun hrule => ?_, fun hrule => ?_⟩
  · obtain ⟨g', hg'⟩ := Grammar.exists_addField_of_contains hproblems hrule
    refine ⟨g', (hrun g).trans ?_⟩
    rw [hg']
    rfl
  · refine (hrun g).trans ?_
    rw [Grammar.addField_of_contains_eq_false hrule]
    rfl

/-- A checkpoint fails exactly where its options stop the grammar. -/
theorem run_validator
    (h : validator.Accepts o) :
    (o.Stops g.validate →
      validator.run g o = .failed (.grammar (.validationFailed g.validate))) ∧
    (¬ o.Stops g.validate → validator.run g o = .done g) := by
  obtain ⟨s, hs, -, hrun⟩ := Plugin.exists_decode_of_accepts h
  rw [OptionMap.stops_iff hs]
  refine ⟨fun hstops => (hrun g).trans ?_, fun hpasses => (hrun g).trans ?_⟩
  · rw [Grammar.checkpoint_eq, if_pos hstops]
    rfl
  · rw [Grammar.checkpoint_eq, if_neg hpasses]
    rfl

end Ends

/-- Accepted options are never at fault, whichever built-in plugin gets them. -/
theorem blamesInput_of_mem_all :
    ∀ p ∈ all, p.plugin.BlamesInput := by
  have hreader : jsonReader.FailsOnly .grammar := Plugin.failsOnly_ofShape
  have hnormalizer : normalizer.NeverFails := Plugin.neverFails_ofShape
  have hsimplifier : simplifier.NeverFails := Plugin.neverFails_ofShape
  have hadder : fieldAdder.FailsOnly .field := Plugin.failsOnly_ofShape
  have hdescriber : describer.FailsOnly .unknownRules := Plugin.failsOnly_ofShape
  have hvalidator : validator.FailsOnly .grammar := Plugin.failsOnly_ofShape
  have hrenderer : renderer.FailsOnly .render := Plugin.failsOnly_ofShape
  have hwriter : jsonWriter.NeverFails := Plugin.neverFails_ofShape
  simp only [all, List.forall_mem_cons]
  exact ⟨hreader.blamesInput (by simp), fun _ _ _ => ⟨nofun, nofun⟩, hnormalizer.blamesInput,
    hsimplifier.blamesInput, hadder.blamesInput (by simp), hdescriber.blamesInput (by simp),
    hvalidator.blamesInput (by simp), hrenderer.blamesInput (by simp), hwriter.blamesInput,
    fun _ _ _ => ⟨nofun, nofun⟩, nofun⟩

/-- **Accepted options.**  To normalise, to simplify, to write and to list never fails.  A field is
added unless the rule is unknown, descriptions are unless some rules are, and a grammar passes
unless the options tell to stop it.  Rendering and reading fail for the grammar and for the text
only, and schema text is always refused.  The options are never at fault. -/
theorem run_of_accepts :
    normalizer.NeverFails ∧ simplifier.NeverFails ∧ jsonWriter.NeverFails ∧
      typeLister.NeverFails ∧
    (∀ (g : Grammar) o, fieldAdder.Accepts o →
      ∃ name, o.get? "ruleName" = some (.str name) ∧
        (g.contains name = true → ∃ g', fieldAdder.run g o = .done g') ∧
        (g.contains name = false →
          fieldAdder.run g o = .failed (.field (.unknownRule name)))) ∧
    describer.FailsOnly .unknownRules ∧
    (∀ (g : Grammar) o, validator.Accepts o →
      (o.Stops g.validate →
        validator.run g o = .failed (.grammar (.validationFailed g.validate))) ∧
      (¬ o.Stops g.validate → validator.run g o = .done g)) ∧
    renderer.FailsOnly .render ∧
    jsonReader.FailsOnly .grammar ∧
    (∀ text o, schemaReader.Accepts o →
      schemaReader.run text o = .failed (.unsupportedInput "GraphQL SDL")) ∧
    (∀ p ∈ all, p.plugin.BlamesInput) :=
  ⟨Plugin.neverFails_ofShape, Plugin.neverFails_ofShape, Plugin.neverFails_ofShape,
    fun _ _ _ => ⟨_, rfl⟩, fun g _ h => run_fieldAdder g h, Plugin.failsOnly_ofShape,
    fun g _ h => run_validator g h, Plugin.failsOnly_ofShape, Plugin.failsOnly_ofShape,
    fun _ _ _ => rfl, blamesInput_of_mem_all⟩

/-- Options that are accepted, and a grammar without the rule that they name. -/
theorem run_fieldAdder_unknownRule :
    ∃ o, fieldAdder.Accepts o ∧
      fieldAdder.run (Grammar.ofRules "Site" []) o = .failed (.field (.unknownRule "Page")) := by
  let o : OptionMap :=
    .ofList [("fieldName", .str "title"), ("fieldType", .str "Text"), ("ruleName", .str "Page")]
  have haccepts : fieldAdder.Accepts o := by
    unfold Plugin.Accepts
    decide +kernel
  obtain ⟨-, -, -, -, hends, -⟩ := run_of_accepts
  obtain ⟨name, hname, -, hunknown⟩ := hends (Grammar.ofRules "Site" []) o haccepts
  obtain rfl : "Page" = name := Json.str.inj (Option.some.inj hname)
  exact ⟨o, haccepts, hunknown rfl⟩

end BuiltIn

end SchemaGrammar
