import SchemaGrammar.Proofs.Grammar.Address
import SchemaGrammar.Proofs.Grammar.WellFormed
import Mathlib.Data.List.Perm.Basic

/-!
# What validation reports

Three things can be broken in a grammar: its root names no rule, a rule carries another name
than its key, or a reference leads nowhere.  A report tells the root first, then the names in
the order of the rules, then the references rule by rule, those of one rule in the order in which
they are met.  The order is laid down here without regard to how a report is made.

**Results.**
* `Grammar.Broken`, `Grammar.Precedes`: the broken things and their order.
* `Grammar.mem_errors_iff_broken`, `Grammar.pairwise_errors`: what a report tells and in which
  order.
* `Grammar.errors_exact`: these two facts leave one list only.
-/

namespace SchemaGrammar.Grammar

section Order

variable (g : Grammar)

/-- What is broken in a grammar.  It does not matter whether a rule can be reached. -/
inductive Broken : Issue → Prop
  | root :
      g.rule? g.root = none →
      Broken (.missingRoot g.root)
  | name {key : String} {rule : Rule} :
      g.rule? key = some rule →
      key ≠ rule.name →
      Broken (.nameMismatch key rule.name)
  | reference {key name : String} {rule : Rule} {address : List Nat} :
      g.rule? key = some rule →
      rule.definition.RefersAt name address →
      g.rule? name = none →
      Broken (.undefinedReference key name)

/-- One rule stands before another. -/
def RuleBefore (first second : String) : Prop := [first, second].Sublist g.keys

/-- The order in which broken things are told. -/
inductive Precedes : Issue → Issue → Prop
  | root_name {root key name : String} :
      Precedes (.missingRoot root) (.nameMismatch key name)
  | root_reference {root key name : String} :
      Precedes (.missingRoot root) (.undefinedReference key name)
  | name_name {first second name name' : String} :
      g.RuleBefore first second →
      Precedes (.nameMismatch first name) (.nameMismatch second name')
  | name_reference {key name key' name' : String} :
      Precedes (.nameMismatch key name) (.undefinedReference key' name')
  | rules {first second name name' : String} :
      g.RuleBefore first second →
      Precedes (.undefinedReference first name) (.undefinedReference second name')
  | references {key first second : String} {rule : Rule} :
      g.rule? key = some rule →
      rule.definition.RefersBefore first second →
      Precedes (.undefinedReference key first) (.undefinedReference key second)

end Order

variable {g : Grammar}

theorem RuleBefore.ne
    {first second : String}
    (h : g.RuleBefore first second) :
    first ≠ second :=
  List.pairwise_iff_forall_sublist.mp g.rules.nodup_keys h

theorem RuleBefore.asymm
    {first second : String}
    (h : g.RuleBefore first second) :
    ¬ g.RuleBefore second first :=
  Distinct.not_sublist_swap g.rules.nodup_keys h

theorem Precedes.asymm
    {issue other : Issue}
    (h : g.Precedes issue other) :
    ¬ g.Precedes other issue := by
  intro h'
  cases h with
  | root_name | root_reference | name_reference => cases h'
  | name_name hbefore =>
      cases h' with
      | name_name hbefore' => exact hbefore.asymm hbefore'
  | rules hbefore =>
      cases h' with
      | rules hbefore' => exact hbefore.asymm hbefore'
      | references => exact hbefore.ne rfl
  | references hrule hbefore =>
      cases h' with
      | rules hbefore' => exact hbefore'.ne rfl
      | references hrule' hbefore' =>
          cases hrule.symm.trans hrule'
          exact hbefore.asymm hbefore'

section Report

/-- The rules stand in the order of their keys. -/
theorem pairwise_ruleBefore :
    g.rules.entries.Pairwise fun a b => g.RuleBefore a.1 b.1 := by
  rw [List.pairwise_iff_forall_sublist]
  intro a b hsub
  exact hsub.map Prod.fst

/-- Findings about names come in the order of the rules. -/
theorem pairwise_nameIssues :
    g.nameIssues.Pairwise g.Precedes := by
  refine pairwise_ruleBefore.filterMap _ ?_
  rintro ⟨key, rule⟩ ⟨key', rule'⟩ hbefore issue hissue issue' hissue'
  dsimp only at hissue hissue'
  split at hissue
  · cases hissue
  · split at hissue'
    · cases hissue'
    · cases hissue
      cases hissue'
      exact .name_name hbefore

/-- Findings about references come in the order of rules and places. -/
theorem pairwise_referenceIssues :
    g.referenceIssues.Pairwise g.Precedes := by
  refine List.pairwise_flatMap.mpr ⟨?_, ?_⟩
  · rintro ⟨key, rule⟩ hentry
    have hrule : g.rule? key = some rule := rule?_eq_some_iff.mpr hentry
    rw [List.pairwise_map]
    exact (rule.definition.pairwise_refersBefore _).imp (.references hrule)
  · refine pairwise_ruleBefore.imp ?_
    rintro ⟨key, rule⟩ ⟨key', rule'⟩ hbefore issue hissue issue' hissue'
    obtain ⟨name, -, rfl⟩ := List.mem_map.mp hissue
    obtain ⟨name', -, rfl⟩ := List.mem_map.mp hissue'
    exact .rules hbefore

/-- Broken things are told in their order. -/
theorem pairwise_errors :
    g.validate.errors.Pairwise g.Precedes := by
  show (g.rootIssues ++ g.nameIssues ++ g.referenceIssues).Pairwise g.Precedes
  rw [List.pairwise_append, List.pairwise_append]
  refine ⟨⟨?_, pairwise_nameIssues, ?_⟩, pairwise_referenceIssues, ?_⟩
  · unfold rootIssues
    split
    · exact .nil
    · exact List.pairwise_singleton _ _
  · intro issue hissue issue' hissue'
    obtain ⟨rfl, -⟩ := mem_rootIssues.mp hissue
    obtain ⟨key, rule, -, -, rfl⟩ := mem_nameIssues.mp hissue'
    exact .root_name
  · intro issue hissue issue' hissue'
    obtain ⟨key', rule', name', -, -, -, rfl⟩ := mem_referenceIssues.mp hissue'
    rcases List.mem_append.mp hissue with hissue | hissue
    · obtain ⟨rfl, -⟩ := mem_rootIssues.mp hissue
      exact .root_reference
    · obtain ⟨key, rule, -, -, rfl⟩ := mem_nameIssues.mp hissue
      exact .name_reference

/-- Everything that is broken is told, and nothing else. -/
theorem mem_errors_iff_broken
    {issue : Issue} :
    issue ∈ g.validate.errors ↔ g.Broken issue := by
  rw [mem_errors, mem_rootIssues, mem_nameIssues, mem_referenceIssues]
  simp only [contains_eq_false_iff, Element.mem_references_iff]
  constructor
  · rintro (⟨rfl, habsent⟩ | ⟨key, rule, hrule, hne, rfl⟩ |
      ⟨key, rule, name, hrule, ⟨address, hat⟩, habsent, rfl⟩)
    · exact .root habsent
    · exact .name hrule hne
    · exact .reference hrule hat habsent
  · rintro (habsent | ⟨hrule, hne⟩ | ⟨hrule, hat, habsent⟩)
    · exact .inl ⟨rfl, habsent⟩
    · exact .inr (.inl ⟨_, _, hrule, hne, rfl⟩)
    · exact .inr (.inr ⟨_, _, _, hrule, ⟨_, hat⟩, habsent, rfl⟩)

/-- What stands in order stands there once. -/
theorem nodup_of_pairwise_precedes
    {issues : List Issue}
    (h : issues.Pairwise g.Precedes) :
    issues.Nodup := by
  refine h.imp fun hprecedes heq => ?_
  subst heq
  exact hprecedes.asymm hprecedes

/-- The order leaves one list of given issues only. -/
theorem eq_of_pairwise_precedes
    {issues issues' : List Issue}
    (h : issues.Pairwise g.Precedes)
    (h' : issues'.Pairwise g.Precedes)
    (hmem : ∀ issue, issue ∈ issues ↔ issue ∈ issues') :
    issues = issues' := by
  have hperm : issues.Perm issues' :=
    (List.perm_ext_iff_of_nodup (nodup_of_pairwise_precedes h)
      (nodup_of_pairwise_precedes h')).mpr hmem
  exact hperm.eq_of_pairwise (fun _ _ _ _ hab hba => absurd hba hab.asymm) h h'

/-- **Exact reports.**  The errors of a grammar are what is broken in it, each told once and in
order, and no other list is; a grammar is valid if nothing is broken. -/
theorem errors_exact
    (g : Grammar) :
    (∀ issues : List Issue,
      issues = g.validate.errors ↔
        issues.Nodup ∧ issues.Pairwise g.Precedes ∧
          ∀ issue, issue ∈ issues ↔ g.Broken issue) ∧
      (g.validate.isValid = true ↔ ∀ issue, ¬ g.Broken issue) := by
  refine ⟨fun issues => ⟨?_, ?_⟩, ?_⟩
  · rintro rfl
    exact ⟨nodup_of_pairwise_precedes pairwise_errors, pairwise_errors,
      fun issue => mem_errors_iff_broken⟩
  · rintro ⟨-, hordered, hbroken⟩
    exact eq_of_pairwise_precedes hordered pairwise_errors fun issue =>
      (hbroken issue).trans mem_errors_iff_broken.symm
  · simp only [← mem_errors_iff_broken]
    exact List.isEmpty_iff.trans List.eq_nil_iff_forall_not_mem

example :
    (Grammar.ofRules "Page"
      [⟨"Site", .sequence
        [.list (.nonTerminal "Footer"), .nonTerminal "Header", .nonTerminal "Footer"]⟩]
      ).validate.errors =
      [.missingRoot "Page", .undefinedReference "Site" "Footer",
        .undefinedReference "Site" "Header"] := by
  decide

end Report

end SchemaGrammar.Grammar
