import SchemaGrammar.Proofs.Render.Literal
import SchemaGrammar.Proofs.Render.OneLine
import SchemaGrammar.Proofs.Render.Stepwise
import SchemaGrammar.Proofs.Render.Success

/-!
# The schema definition is entered once

While an element is rendered, the schema definition is entered only if it has not been entered
before, whoever refers to it: another rule, a repetition, the schema definition itself.  So the
number of its entries never falls, and rises to one at most.  It is one in the end, since what has
not been entered from the root is rendered behind it.

**Results.**
* `Walk.entersUpTo_rule`: how often a rule enters the schema definition.
* `Walk.entries_pos_of_run_rule`: behind the schema definition it has been entered.
* `Grammar.schema_entered_once`: the entries of the schema definition in a whole document.
-/

namespace SchemaGrammar

namespace Render

namespace Trace

/-- How often a rule has been entered. -/
def entries (t : Trace) (rule : String) : Nat := t.count (.entered rule)

variable {t : Trace} {rule : String}

@[simp] theorem entries_nil : entries [] rule = 0 := rfl

@[simp] theorem entries_cons_entered :
    entries (.entered rule :: t) rule = t.entries rule + 1 :=
  List.count_cons_self

@[simp] theorem entries_cons_of_ne
    {event : Event}
    (h : event ≠ .entered rule) :
    entries (event :: t) rule = t.entries rule :=
  List.count_cons_of_ne h

/-- A rule has entries if it was entered. -/
theorem entries_pos_iff : 0 < t.entries rule ↔ .entered rule ∈ t := List.count_pos_iff

theorem entries_eq_zero_iff : t.entries rule = 0 ↔ .entered rule ∉ t := List.count_eq_zero

end Trace

namespace Walk

section Steps

variable {α β : Type} {rule : String} {bound : Nat}

/-- A step does not take entries of a rule back, and adds some only up to a bound. -/
def EntersUpTo (rule : String) (bound : Nat) (step : Walk α) : Prop :=
  ∀ ⦃s : Trace⦄ ⦃a : α⦄ ⦃t : Trace⦄, step.run s = .ok (a, t) →
    s.entries rule ≤ t.entries rule ∧ t.entries rule ≤ max (s.entries rule) bound

theorem entersUpTo_pure
    (a : α) :
    EntersUpTo rule bound (pure a) := by
  intro s b t hrun
  cases hrun
  exact ⟨Nat.le_refl _, Nat.le_max_left _ _⟩

/-- Two steps keep to the bound if each of them does. -/
theorem EntersUpTo.bind
    {step : Walk α}
    {next : α → Walk β}
    (h : EntersUpTo rule bound step)
    (hnext : ∀ a, EntersUpTo rule bound (next a)) :
    EntersUpTo rule bound (step >>= next) := by
  intro s b t hrun
  rw [StateT.run_bind] at hrun
  obtain ⟨⟨a, u⟩, hstep, hrun⟩ := Except.bind_eq_ok_iff.mp hrun
  have hfirst := h hstep
  have hsecond := hnext a (s := u) hrun
  omega

/-- What is noted down for a terminal is a name that has been written. -/
theorem ne_entered_of_mem_terminalText
    {name : String}
    {pattern : Option Pattern}
    {c : Context}
    {event : Event}
    (h : event ∈ (terminalText name pattern c).2)
    (rule : String) :
    event ≠ .entered rule := by
  rintro rfl
  unfold terminalText at h
  split at h
  · cases h
  · dsimp only at h
    split at h
    · cases written?_of_mem_event? h
    · cases h

/-- Terminals enter no rule. -/
theorem entersUpTo_terminal
    (name : String)
    (pattern : Option Pattern)
    (c : Context) :
    EntersUpTo rule bound (terminal name pattern c) := by
  intro s text t hrun
  rw [says_terminal name pattern c s] at hrun
  cases hrun
  have hsame : Trace.entries ((terminalText name pattern c).2.toList.reverse ++ s) rule =
      s.entries rule := by
    cases hevent : (terminalText name pattern c).2 with
    | none => rfl
    | some event => exact Trace.entries_cons_of_ne (ne_entered_of_mem_terminalText hevent rule)
  rw [hsame]
  exact ⟨Nat.le_refl _, Nat.le_max_left _ _⟩

/-- To keep to a number of entries is a matter of single steps. -/
theorem stepwise_entersUpTo
    (rule : String)
    (bound : Nat) :
    Stepwise fun _ step _ => EntersUpTo rule bound step where
  pure := entersUpTo_pure
  terminal := entersUpTo_terminal
  bind := EntersUpTo.bind

end Steps

section Rules

variable {g : Grammar} {o : Options} {bound : Nat}

/-- **Rules.**  A rule enters the schema definition once at most, and never if there is none. -/
theorem entersUpTo_rule
    (hbound : ∀ key r, g.rule? key = some r → r.name = RuleName.schemaDefinition → 1 ≤ bound)
    (allowance : Nat)
    (key : String)
    (c : Context) :
    EntersUpTo RuleName.schemaDefinition bound (rule g o allowance key c) := by
  induction allowance generalizing key c with
  | zero =>
      intro s text t hrun
      obtain ⟨r, n, -, hn, -⟩ := run_rule_cases hrun
      cases hn
  | succ allowance ih =>
      intro s text t hrun
      obtain ⟨r, n, hr, hn, hcases⟩ := run_rule_cases hrun
      cases hn
      rcases hcases with ⟨-, -, -, rfl⟩ | ⟨-, -, -, rfl⟩ | ⟨hfirst, hbody⟩
      · exact ⟨Nat.le_refl _, Nat.le_max_left _ _⟩
      · rw [Trace.entries_cons_of_ne (by simp)]
        exact ⟨Nat.le_refl _, Nat.le_max_left _ _⟩
      · have hentries := (stepwise_entersUpTo _ _).element_of_property
          (fun name _ c' _ => ih name c') hbody
        by_cases hname : r.name = RuleName.schemaDefinition
        · have hone := hbound key r hr hname
          have hzero := Trace.entries_eq_zero_iff.mpr (hfirst hname)
          rw [hname] at hentries hzero
          rw [Trace.entries_cons_entered] at hentries
          omega
        · have hother : Event.entered r.name ≠ .entered RuleName.schemaDefinition :=
            fun h => hname (Event.entered.inj h)
          rwa [Trace.entries_cons_of_ne hother] at hentries

/-- Behind the schema definition it has been entered, there or before. -/
theorem entries_pos_of_run_rule
    {allowance : Nat}
    {key : String}
    {c : Context}
    {r : Rule}
    (hr : g.rule? key = some r)
    (hname : r.name = RuleName.schemaDefinition)
    {s t : Trace}
    {text : String}
    (hrun : (rule g o allowance key c).run s = .ok (text, t)) :
    0 < t.entries RuleName.schemaDefinition := by
  obtain ⟨r', n, hr', -, hcases⟩ := run_rule_cases hrun
  cases hr.symm.trans hr'
  rcases hcases with ⟨-, hdescription, -, -⟩ | ⟨-, hentered, -, rfl⟩ | ⟨-, hbody⟩
  · rw [hname] at hdescription
    exact absurd hdescription (by decide)
  · rw [hname] at hentered
    exact Trace.entries_pos_iff.mpr (List.mem_cons_of_mem _ hentered)
  · have hentries := (stepwise_entersUpTo RuleName.schemaDefinition 1).element_of_property
      (fun name _ c' _ => entersUpTo_rule (fun _ _ _ _ => Nat.le_refl 1) n name c') hbody
    rw [hname, Trace.entries_cons_entered] at hentries
    omega

end Rules

end Walk

end Render

namespace Grammar

open Render

variable {g : Grammar} {o : Render.Options}

/-- **The schema definition.**  In a grammar that stores rules under their names, the schema
definition is entered once while a document is rendered, if there is one: on the way from the root,
or else in a block of its own.  If there is none, it is not entered and has no block. -/
theorem schema_entered_once
    (hnames : ∀ key rule, g.rule? key = some rule → rule.name = key)
    {text : String}
    (h : g.render o = .ok text) :
    ∃ (outline : Render.Outline) (main : String) (t : Trace) (rest : List String),
      g.outline o = .ok outline ∧ outline.text o.layout = text ∧
        (Walk.rule g o o.maxDepth g.root .start).run [] = .ok (main, t) ∧
        outline.blocks = main :: rest ∧
        (g.contains RuleName.schemaDefinition = true →
          outline.trace.entries RuleName.schemaDefinition = 1 ∧
            t.entries RuleName.schemaDefinition + rest.length = 1) ∧
        (g.contains RuleName.schemaDefinition = false →
          outline.trace.entries RuleName.schemaDefinition = 0 ∧ rest = []) := by
  obtain ⟨outline, houtline, htext⟩ := render_eq_ok_iff.mp h
  obtain ⟨main, t, hmain, hcases⟩ := run_blocks_cases (run_blocks_of_outline_eq_ok houtline)
  have honce : ∀ key, Walk.EntersUpTo RuleName.schemaDefinition 1
      (Walk.rule g o o.maxDepth key .start) :=
    fun key => Walk.entersUpTo_rule (fun _ _ _ _ => Nat.le_refl 1) _ key .start
  have hroot := (honce g.root hmain).2
  rw [Trace.entries_nil] at hroot
  rcases hcases with ⟨hmissing, hdefined, schema, hblocks, hschema⟩ | ⟨hdone, hblocks, htrace⟩
  · refine ⟨outline, main, t, [schema], houtline, htext, hmain, hblocks, fun _ => ?_, fun h => ?_⟩
    · obtain ⟨r, hr⟩ := contains_eq_true_iff.mp hdefined
      have hpos := Walk.entries_pos_of_run_rule hr (hnames _ r hr) hschema
      have hle := (honce _ hschema).2
      rw [Trace.entries_eq_zero_iff.mpr hmissing] at hle ⊢
      exact ⟨by omega, rfl⟩
    · rw [hdefined] at h
      cases h
  · refine ⟨outline, main, t, [], houtline, htext, hmain, hblocks, fun h => ?_, fun h => ?_⟩
    · have hpos := Trace.entries_pos_iff.mpr (hdone h)
      rw [htrace]
      rw [List.length_nil]
      exact ⟨by omega, by omega⟩
    · have hnone : ∀ key r, g.rule? key = some r → r.name = RuleName.schemaDefinition → 1 ≤ 0 := by
        intro key r hr hname
        rw [contains_eq_false_iff] at h
        rw [← hname, hnames key r hr, hr] at h
        cases h
      have hzero := (Walk.entersUpTo_rule hnone _ g.root .start hmain).2
      rw [htrace]
      exact ⟨by simpa using hzero, rfl⟩

/-- A schema definition that repeats itself, a document that refers to it twice, and a page that
does not. -/
def echoGrammar (root : String) : Grammar :=
  .ofRules root
    [⟨"Page", .token "page"⟩,
      ⟨RuleName.document,
        .sequence
          [.nonTerminal RuleName.schemaDefinition, .nonTerminal RuleName.schemaDefinition]⟩,
      ⟨RuleName.schemaDefinition,
        .sequence [.token "schema", .list (.nonTerminal RuleName.schemaDefinition)]⟩]

theorem schema_entered_once_echo :
    (∃ outline, (echoGrammar RuleName.document).outline {} = .ok outline ∧
        outline.text (Render.Options.layout {}) = "schema" ∧
        outline.trace.entries RuleName.schemaDefinition = 1) ∧
      ∃ outline, (echoGrammar "Page").outline {} = .ok outline ∧
        outline.text (Render.Options.layout {}) = "page\n\nschema" ∧
        outline.trace.entries RuleName.schemaDefinition = 1 := by
  have hnames : ∀ root key rule, (echoGrammar root).rule? key = some rule → rule.name = key := by
    intro root key rule hrule
    have hall : ∀ e ∈ (echoGrammar root).rules.entries, e.2.name = e.1 := by
      show ∀ e ∈ (echoGrammar "Page").rules.entries, e.2.name = e.1
      decide
    exact hall _ (rule?_eq_some_iff.mp hrule)
  have hdocument : (echoGrammar RuleName.document).render {} = .ok "schema" := by decide +kernel
  have hpage : (echoGrammar "Page").render {} = .ok "page\n\nschema" := by decide +kernel
  obtain ⟨outline, _, _, _, houtline, htext, -, -, honce, -⟩ :=
    schema_entered_once (hnames RuleName.document) hdocument
  obtain ⟨outline', _, _, _, houtline', htext', -, -, honce', -⟩ :=
    schema_entered_once (hnames "Page") hpage
  exact ⟨⟨outline, houtline, htext, (honce rfl).1⟩, outline', houtline', htext', (honce' rfl).1⟩

end Grammar

end SchemaGrammar
