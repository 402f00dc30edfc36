import SchemaGrammar.Proofs.Grammar.Cycle
import SchemaGrammar.Proofs.Grammar.WellFormed
import SchemaGrammar.Proofs.Render.Stepwise
import SchemaGrammar.Render.Document

/-!
# How rendering fails

Rendering fails at a rule that is entered: the rule is undefined, or the allowance is spent.
A rule is entered from a definition that refers to it, so that what is undefined for the
renderer is undefined for validation.  Without cycles the rules entered inside one another are
different, and an allowance for all rules is never spent.

**Results.**
* `Walk.fails_element`: an element fails where a rule that it refers to does.
* `Walk.fails_rule`: the errors of a rule.
* `Walk.not_fails_rule_of_acyclic`: an allowance for the rules below a rule is enough.
* `Grammar.render_agrees_with_validate`: rendering and validation agree on what can be rendered.
-/

namespace SchemaGrammar

namespace Render

namespace Walk

/-- Whether a step can fail with an error, whatever has happened before. -/
def Fails {α : Type} (step : Walk α) (err : RenderError) : Prop :=
  ∃ trace, step.run trace = .error err

section Steps

variable {α β : Type} {err : RenderError}

theorem not_fails_pure
    (a : α) :
    ¬ Fails (pure a) err := by
  rintro ⟨trace, h⟩
  cases h

theorem not_fails_note
    (event : Event) :
    ¬ Fails (note event) err := by
  rintro ⟨trace, h⟩
  cases h

/-- Two steps fail if the first does, or the second behind it. -/
theorem fails_bind
    {step : Walk α}
    {next : α → Walk β}
    (h : Fails (step >>= next) err) :
    Fails step err ∨ ∃ a, Fails (next a) err := by
  obtain ⟨trace, h⟩ := h
  rw [StateT.run_bind] at h
  cases hstep : step.run trace with
  | error e =>
      rw [hstep] at h
      exact .inl ⟨trace, hstep.trans (congrArg _ (Except.error.inj h))⟩
  | ok p =>
      rw [hstep] at h
      exact .inr ⟨p.1, p.2, h⟩

theorem fails_map
    {step : Walk α}
    {f : α → β}
    (h : Fails (step >>= fun a => pure (f a)) err) :
    Fails step err := by
  rcases fails_bind h with h | ⟨a, h⟩
  · exact h
  · exact absurd h (not_fails_pure (f a))

theorem not_fails_terminal
    (name : String)
    (pattern : Option Pattern)
    (c : Context) :
    ¬ Fails (terminal name pattern c) err := by
  intro h
  unfold terminal at h
  generalize terminalText name pattern c = written at h
  obtain ⟨text, event⟩ := written
  dsimp only at h
  cases event with
  | none => exact not_fails_pure _ h
  | some event => exact not_fails_note event (fails_map h)

end Steps

section Elements

variable {o : Options} {enter : String → Context → Walk String} {err : RenderError}

/-- One of some rules fails, entered from the body of a rule. -/
def FailsIn (enter : String → Context → Walk String) (names : List String)
    (rule : Option String) (err : RenderError) : Prop :=
  ∃ name ∈ names, ∃ c : Context, c.rule = rule ∧ Fails (enter name c) err

/-- What follows from the failures of two steps follows from the failures of both in a row. -/
theorem stepwise_fails
    (err : RenderError)
    (p : Prop) :
    Stepwise fun _ step _ => Fails step err → p where
  pure a h := absurd h (not_fails_pure a)
  terminal name pattern c h := absurd h (not_fails_terminal name pattern c)
  bind hstep hnext h := by
    rcases fails_bind h with h | ⟨a, h⟩
    · exact hstep h
    · exact hnext a h

/-- An element fails where a rule that it refers to fails. -/
theorem fails_element
    (e : Element)
    {c : Context}
    (h : Fails (element o enter e c) err) :
    FailsIn enter e.references c.rule err := by
  have hsteps := stepwise_fails err (FailsIn enter e.references c.rule err)
  refine hsteps.element_of_property (fun name hname c' hc hfails => ?_) h
  exact ⟨name, hname, c', hc.rule, hfails⟩

end Elements

section Rules

variable {g : Grammar} {o : Options} {err : RenderError}

/-- The errors of a rule: it is undefined, the allowance is spent, or a rule fails that its
definition refers to. -/
theorem fails_rule
    {allowance : Nat}
    {key : String}
    {c : Context}
    (h : Fails (rule g o allowance key c) err) :
    (g.rule? key = none ∧ err = .undefinedRule key (c.rule.getD g.root)) ∨
      ∃ r, g.rule? key = some r ∧
        match allowance with
        | 0 => err = .depthExceeded r.name o.maxDepth
        | allowance + 1 =>
            FailsIn (rule g o allowance) r.definition.references (some r.name) err := by
  unfold rule at h
  split at h
  · next hnone =>
      obtain ⟨trace, h⟩ := h
      cases h
      exact .inl ⟨hnone, rfl⟩
  · next r hr =>
      refine .inr ⟨r, hr, ?_⟩
      cases allowance with
      | zero =>
          obtain ⟨trace, h⟩ := h
          cases h
          rfl
      | succ allowance =>
          dsimp only at h ⊢
          split at h
          · exact absurd h (not_fails_pure _)
          · rcases fails_bind h with ⟨trace, h⟩ | ⟨trace, h⟩
            · cases h
            · split at h
              · exact absurd (fails_map h) (not_fails_note _)
              · rcases fails_bind h with h | ⟨_, h⟩
                · exact absurd h (not_fails_note _)
                · have hin := fails_element r.definition h
                  rwa [Context.rule_enteringRule] at hin

end Rules

end Walk

end Render

namespace Render.Walk

variable {g : Grammar} {o : Options} {err : RenderError}

/-- What fails behind a key is the depth, or a name without a rule in a definition. -/
theorem fails_rule_of_contains
    {allowance : Nat}
    {key : String}
    {c : Context}
    (hkey : g.contains key = true)
    (h : Fails (rule g o allowance key c) err) :
    (∃ name limit, err = .depthExceeded name limit) ∨
      ∃ k r name, g.rule? k = some r ∧ name ∈ r.definition.references ∧
        g.contains name = false ∧ err = .undefinedRule name r.name := by
  induction allowance generalizing key c with
  | zero =>
      rcases fails_rule h with ⟨hnone, -⟩ | ⟨r, -, herr⟩
      · rw [Grammar.contains_eq_false_iff.mpr hnone] at hkey
        cases hkey
      · exact .inl ⟨r.name, o.maxDepth, herr⟩
  | succ allowance ih =>
      rcases fails_rule h with ⟨hnone, -⟩ | ⟨r, hr, name, hname, c', hc', h⟩
      · rw [Grammar.contains_eq_false_iff.mpr hnone] at hkey
        cases hkey
      · cases hdefined : g.contains name with
        | true => exact ih hdefined h
        | false =>
            refine .inr ⟨key, r, name, hr, hname, hdefined, ?_⟩
            rcases fails_rule h with ⟨-, rfl⟩ | ⟨r', hr', -⟩
            · rw [hc', Option.getD_some]
            · rw [Grammar.contains_eq_false_iff.mp hdefined] at hr'
              cases hr'

/-- Without cycles, an allowance for all rules below a key is never spent. -/
theorem not_fails_rule_of_acyclic
    (hg : g.WellFormed)
    (hacyclic : g.Acyclic)
    {allowance : Nat}
    {key : String}
    {c : Context}
    (hkey : g.contains key = true)
    (hallowance : (g.below key).length ≤ allowance) :
    ¬ Fails (rule g o allowance key c) err := by
  induction allowance generalizing key c with
  | zero =>
      have := Grammar.length_below_pos hkey
      omega
  | succ allowance ih =>
      intro h
      rcases fails_rule h with ⟨hnone, -⟩ | ⟨r, hr, name, hname, c', -, h⟩
      · rw [Grammar.contains_eq_false_iff.mpr hnone] at hkey
        cases hkey
      · have hlt := Grammar.length_below_lt hacyclic hkey ⟨r, hr, hname⟩
        exact ih (hg.closed hr hname) (by omega) h

end Render.Walk

namespace Grammar

open Render

variable {g : Grammar} {o : Render.Options} {err : RenderError}

/-- Rendering fails without a root, or at the root or the schema definition. -/
theorem fails_of_render_eq_error
    (h : g.render o = .error err) :
    (g.contains g.root = false ∧ err = .missingRoot g.root) ∨
      g.contains g.root = true ∧ ∃ key, (key = g.root ∨ key = RuleName.schemaDefinition) ∧
        g.contains key = true ∧ Walk.Fails (Walk.rule g o o.maxDepth key .start) err := by
  unfold render outline at h
  split at h
  · next hroot =>
      refine .inr ⟨hroot, ?_⟩
      have hblocks : Walk.Fails (Render.blocks g o) err := by
        split at h
        · cases h
        · next e he =>
            cases h
            exact ⟨[], he⟩
      rcases Walk.fails_bind hblocks with hmain | ⟨main, hblocks⟩
      · exact ⟨g.root, .inl rfl, hroot, hmain⟩
      · rcases Walk.fails_bind hblocks with ⟨trace, hget⟩ | ⟨trace, hblocks⟩
        · cases hget
        · split at hblocks
          · next hschema =>
              rw [Bool.and_eq_true] at hschema
              exact ⟨_, .inr rfl, hschema.2, Walk.fails_map hblocks⟩
          · exact absurd hblocks (Walk.not_fails_pure _)
  · next hroot =>
      cases h
      exact .inl ⟨Bool.of_not_eq_true hroot, rfl⟩

/-- Only a root that has no rule is missing. -/
theorem contains_root_of_render_eq_missingRoot
    {root : String}
    (h : g.render o = .error (.missingRoot root)) :
    root = g.root ∧ g.contains g.root = false := by
  rcases fails_of_render_eq_error h with ⟨hroot, herr⟩ | ⟨-, key, -, hkey, hfails⟩
  · cases herr
    exact ⟨rfl, hroot⟩
  · rcases Walk.fails_rule_of_contains hkey hfails with ⟨_, _, herr⟩ | ⟨_, _, _, -, -, -, herr⟩
    · cases herr
    · cases herr

/-- A rule that rendering does not find is referred to in a definition. -/
theorem exists_rule_of_render_eq_undefinedRule
    {name source : String}
    (h : g.render o = .error (.undefinedRule name source)) :
    ∃ key rule, g.rule? key = some rule ∧ rule.name = source ∧
      name ∈ rule.definition.references ∧ g.contains name = false := by
  rcases fails_of_render_eq_error h with ⟨-, herr⟩ | ⟨-, key, -, hkey, hfails⟩
  · cases herr
  · rcases Walk.fails_rule_of_contains hkey hfails with ⟨_, _, herr⟩ |
      ⟨k, r, missing, hr, href, habsent, herr⟩
    · cases herr
    · cases herr
      exact ⟨k, r, hr, rfl, href, habsent⟩

section WellFormed

variable (hg : g.WellFormed)
include hg

theorem WellFormed.fails_of_render_eq_error
    (h : g.render o = .error err) :
    ∃ key, g.contains key = true ∧
      Walk.Fails (Walk.rule g o o.maxDepth key .start) err := by
  rcases Grammar.fails_of_render_eq_error h with ⟨hroot, -⟩ | ⟨-, key, -, hfails⟩
  · rw [hg.root] at hroot
    cases hroot
  · exact ⟨key, hfails⟩

/-- A well-formed grammar fails only at the limit of the depth. -/
theorem WellFormed.render_eq_error
    (h : g.render o = .error err) :
    ∃ rule limit, err = .depthExceeded rule limit := by
  obtain ⟨key, hkey, hfails⟩ := hg.fails_of_render_eq_error h
  rcases Walk.fails_rule_of_contains hkey hfails with hdepth |
    ⟨k, r, missing, hr, href, habsent, -⟩
  · exact hdepth
  · rw [hg.closed hr href] at habsent
    cases habsent

/-- Without cycles there is a limit that is never exceeded. -/
theorem WellFormed.render_ne_error
    (hacyclic : g.Acyclic)
    (hdepth : g.rules.size ≤ o.maxDepth) :
    g.render o ≠ .error err := by
  intro h
  obtain ⟨key, hkey, hfails⟩ := hg.fails_of_render_eq_error h
  have hallowance := Nat.le_trans (length_below_le key) hdepth
  exact Walk.not_fails_rule_of_acyclic hg hacyclic hkey hallowance hfails

end WellFormed

/-- **Agreement of rendering and validation.**  Rendering finds no root or no rule only where
validation does.  A grammar without errors is rendered unless it is too deep, and without
cycles it is not too deep for an allowance of all of its rules. -/
theorem render_agrees_with_validate
    (g : Grammar)
    (o : Render.Options) :
    (∀ root, g.render o = .error (.missingRoot root) →
        Issue.missingRoot root ∈ g.validate.errors) ∧
      (∀ name source, g.render o = .error (.undefinedRule name source) →
        ∃ key rule, g.rule? key = some rule ∧ rule.name = source ∧
          Issue.undefinedReference key name ∈ g.validate.errors) ∧
      (g.validate.isValid = true →
        (∃ text, g.render o = .ok text) ∨
          ∃ rule limit, g.render o = .error (.depthExceeded rule limit)) ∧
      (g.validate.isValid = true → g.Acyclic → g.rules.size ≤ o.maxDepth →
        ∃ text, g.render o = .ok text) := by
  refine ⟨?_, ?_, ?_, ?_⟩
  · intro root h
    exact missingRoot_mem_errors_iff.mpr (contains_root_of_render_eq_missingRoot h)
  · intro name source h
    obtain ⟨key, rule, hrule, hsource, hname, habsent⟩ :=
      exists_rule_of_render_eq_undefinedRule h
    exact ⟨key, rule, hrule, hsource,
      undefinedReference_mem_errors_iff.mpr ⟨rule, hrule, hname, habsent⟩⟩
  · intro hvalid
    have hg := isValid_validate_iff.mp hvalid
    cases h : g.render o with
    | ok text => exact .inl ⟨text, rfl⟩
    | error err =>
        obtain ⟨rule, limit, rfl⟩ := hg.render_eq_error h
        exact .inr ⟨rule, limit, rfl⟩
  · intro hvalid hacyclic hdepth
    have hg := isValid_validate_iff.mp hvalid
    cases h : g.render o with
    | ok text => exact ⟨text, rfl⟩
    | error err => exact absurd h (hg.render_ne_error hacyclic hdepth)

def pageGrammar : Grammar :=
  .ofRules "Page"
    [⟨"Page", .sequence [.nonTerminal "Title", .optional (.nonTerminal "Title")]⟩,
      ⟨"Title", .token "title"⟩]

/-- A rule whose definition refers to no rule. -/
def brokenPageGrammar : Grammar := .ofRules "Page" [⟨"Page", .list (.nonTerminal "Title")⟩]

theorem acyclic_pageGrammar : pageGrammar.Acyclic := by
  refine acyclic_of_rank (fun key => if key = "Page" then 1 else 0) fun {key name} h => ?_
  obtain ⟨rule, hrule, hname⟩ := h
  have hentries : (key, rule) ∈ pageGrammar.rules.entries := rule?_eq_some_iff.mp hrule
  simp only [pageGrammar, ofRules, withRule, List.foldl, Table.insert, Table.insertEntry, empty,
    Table.empty, String.reduceEq, if_false, List.mem_cons, Prod.mk.injEq, List.not_mem_nil,
    or_false] at hentries
  rcases hentries with ⟨rfl, rfl⟩ | ⟨rfl, rfl⟩
  · have hname : name = "Title" := by simpa using hname
    simp [hname]
  · simp at hname

theorem render_agrees_with_validate_page :
    Issue.missingRoot "Page" ∈ (Grammar.empty "Page").validate.errors ∧
      (∃ key rule, brokenPageGrammar.rule? key = some rule ∧ rule.name = "Page" ∧
        Issue.undefinedReference key "Title" ∈ brokenPageGrammar.validate.errors) ∧
      ((∃ text, pageGrammar.render { maxDepth := 1 } = .ok text) ∨
        ∃ rule limit, pageGrammar.render { maxDepth := 1 } =
          .error (.depthExceeded rule limit)) ∧
      pageGrammar.validate.isValid = true ∧ pageGrammar.Acyclic ∧
      ∃ text, pageGrammar.render { maxDepth := 2 } = .ok text := by
  have hvalid : pageGrammar.validate.isValid = true := by decide
  obtain ⟨hroot, -, -, -⟩ := render_agrees_with_validate (.empty "Page") {}
  obtain ⟨-, hrule, -, -⟩ := render_agrees_with_validate brokenPageGrammar {}
  obtain ⟨-, -, hshallow, -⟩ := render_agrees_with_validate pageGrammar { maxDepth := 1 }
  obtain ⟨-, -, -, hdeep⟩ := render_agrees_with_validate pageGrammar { maxDepth := 2 }
  exact ⟨hroot "Page" rfl, hrule "Title" "Page" rfl, hshallow hvalid, hvalid,
    acyclic_pageGrammar, hdeep hvalid acyclic_pageGrammar (by decide)⟩

end Grammar

end SchemaGrammar
