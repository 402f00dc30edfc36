import SchemaGrammar.Proofs.Grammar.Reachability
import SchemaGrammar.Proofs.Render.Stepwise
import SchemaGrammar.Proofs.Render.Success

/-!
# Rules that rendering does not need

Rendering looks up names only: the root, the schema definition, and what the definitions refer
to that it comes through.  These are reachable keys and names without a rule, so that a grammar
may lose every other rule.

**Results.**
* `Grammar.rule_congr`: two grammars that agree on names closed under references render the
  rules under these names in the same way.
* `Grammar.render_without`: rendering does without the unreferenced rules.
-/

namespace SchemaGrammar

namespace Table

variable {α : Type}

/-- The keys that are kept have their values. -/
theorem get?_filterKeys
    (keep : String → Bool)
    (t : Table α)
    (key : String) :
    (t.filterKeys keep).get? key = if keep key then t.get? key else none := by
  refine Option.ext fun value => ?_
  have hentries : (t.filterKeys keep).entries = t.entries.filter fun e => keep e.1 := rfl
  rw [get?_eq_some_iff, hentries, List.mem_filter, ← get?_eq_some_iff]
  split
  · next hkeep => simp [hkeep]
  · next hkeep => simp [hkeep]

end Table

namespace Grammar

open Render

/-- The grammar without the rules under some keys. -/
def without (g : Grammar) (removed : List String) : Grammar :=
  { g with rules := g.rules.filterKeys fun key => !removed.contains key }

/-- Rules that are not removed stay. -/
theorem rule?_without
    {g : Grammar}
    {removed : List String}
    {key : String}
    (hkey : key ∈ removed → g.rule? key = none) :
    (g.without removed).rule? key = g.rule? key := by
  refine (Table.get?_filterKeys _ g.rules key).trans ?_
  split
  · rfl
  · next hremoved =>
      refine (hkey ?_).symm
      simpa using hremoved

section Agreement

variable {g h : Grammar} {o : Render.Options}

/-- Two grammars with one root that have the same rules under some names, which are closed under
references. -/
structure AgreeOn (K : String → Prop) (h g : Grammar) : Prop where
  root : h.root = g.root
  rule? : ∀ key, K key → h.rule? key = g.rule? key
  closed : ∀ {key name : String}, K key → g.RefersTo key name → K name

variable {K : String → Prop}

theorem AgreeOn.contains
    (hK : AgreeOn K h g)
    {key : String}
    (hkey : K key) :
    h.contains key = g.contains key :=
  congrArg Option.isSome (hK.rule? key hkey)

/-- The rules under the names are rendered in the same way. -/
theorem rule_congr
    (hK : AgreeOn K h g)
    (allowance : Nat)
    {key : String}
    (hkey : K key)
    (c : Context) :
    Walk.rule h o allowance key c = Walk.rule g o allowance key c := by
  induction allowance generalizing key c with
  | zero =>
      unfold Walk.rule
      rw [hK.rule? key hkey, hK.root]
  | succ allowance ih =>
      unfold Walk.rule
      rw [hK.rule? key hkey, hK.root]
      cases hrule : g.rule? key with
      | none => rfl
      | some r =>
          have hbody : Walk.element o (Walk.rule h o allowance) r.definition
                (c.enteringRule r.name) =
              Walk.element o (Walk.rule g o allowance) r.definition (c.enteringRule r.name) :=
            Walk.stepwise_eq.element (.refl o) fun name hname c' _ =>
              ih (hK.closed hkey ⟨r, hrule, hname⟩) c'
          dsimp only
          rw [hbody]

/-- Grammars that agree on the root and on the schema definition are rendered in the same way. -/
theorem render_congr_of_agreeOn
    (hK : AgreeOn K h g)
    (hroot : K g.root)
    (hschema : K RuleName.schemaDefinition) :
    h.render o = g.render o := by
  refine render_congr_of_rules hK.root fun key hkey => ?_
  have hkey : K key := by
    rcases hkey with rfl | rfl
    · exact hroot
    · exact hschema
  exact ⟨hK.contains hkey, rule_congr hK o.maxDepth hkey .start⟩

end Agreement

section Removal

variable {g : Grammar} {removed : List String}

/-- Without some unreferenced rules a grammar is the same on the reachable keys and on names
that are no keys. -/
theorem agreeOn_without
    (hremoved : ∀ key ∈ removed, Issue.unreferencedRule key ∈ g.validate.warnings) :
    AgreeOn (fun name => g.contains name = true → g.Reachable name) (g.without removed) g where
  root := rfl
  rule? key hkey := by
    refine rule?_without fun hmem => ?_
    obtain ⟨hdefined, hunreachable⟩ := unreferencedRule_mem_warnings_iff.mp (hremoved key hmem)
    exact absurd (hkey hdefined) hunreachable
  closed hkey href hdefined := by
    obtain ⟨rule, hrule, hname⟩ := href
    have hreachable := hkey (contains_eq_true_iff.mpr ⟨rule, hrule⟩)
    exact .step hreachable hrule hname hdefined

/-- **Unreferenced rules.**  What validation calls unreferenced may be removed without changing
what is rendered, or how rendering fails.  The schema definition is rendered though nothing may
refer to it, and is an exception. -/
theorem render_without
    (g : Grammar)
    (o : Render.Options)
    (hschema : g.contains RuleName.schemaDefinition = false ∨
      Issue.unreferencedRule RuleName.schemaDefinition ∉ g.validate.warnings)
    (hremoved : ∀ key ∈ removed, Issue.unreferencedRule key ∈ g.validate.warnings) :
    (g.without removed).render o = g.render o := by
  refine render_congr_of_agreeOn (agreeOn_without hremoved) .root fun hdefined => ?_
  rcases hschema with habsent | hreferenced
  · rw [hdefined] at habsent
    cases habsent
  · refine Classical.byContradiction fun hunreachable => hreferenced ?_
    exact unreferencedRule_mem_warnings_iff.mpr ⟨hdefined, hunreachable⟩

/-- Two rules that refer to each other, and to the page, but not the other way round. -/
def draftGrammar : Grammar :=
  .ofRules "Page"
    [⟨"Page", .sequence [.optional (.nonTerminal RuleName.schemaDefinition), .token "page"]⟩,
      ⟨RuleName.schemaDefinition, .token "schema"⟩,
      ⟨"Draft", .list (.nonTerminal "Note")⟩,
      ⟨"Note", .sequence [.nonTerminal "Draft", .nonTerminal "Page", .nonTerminal "Nowhere"]⟩]

/-- One of the two rules is removed, the other is left with a reference to it. -/
theorem render_without_draft :
    Issue.unreferencedRule RuleName.schemaDefinition ∉ draftGrammar.validate.warnings ∧
      Issue.unreferencedRule "Draft" ∈ draftGrammar.validate.warnings ∧
      (draftGrammar.without ["Draft"]).render {} = draftGrammar.render {} := by
  have hschema : Issue.unreferencedRule RuleName.schemaDefinition ∉
      draftGrammar.validate.warnings := by
    rw [unreferencedRule_mem_warnings_iff]
    rintro ⟨-, hunreachable⟩
    exact hunreachable (.step (.root rfl) rfl (by decide) rfl)
  have hdraft : Issue.unreferencedRule "Draft" ∈ draftGrammar.validate.warnings := by
    rw [unreferencedRule_mem_warnings_iff]
    refine ⟨rfl, fun hreachable => ?_⟩
    have hmem : "Draft" ∈ ["Page", RuleName.schemaDefinition] :=
      hreachable.mem_of_closed (by decide) (by decide)
    revert hmem
    decide
  refine ⟨hschema, hdraft, ?_⟩
  refine render_without draftGrammar {} (.inr hschema) fun key hkey => ?_
  rw [List.mem_singleton.mp hkey]
  exact hdraft

end Removal

end Grammar

end SchemaGrammar
