import SchemaGrammar.Grammar.Validation
import SchemaGrammar.Proofs.Collection.Distinct
import SchemaGrammar.Proofs.Collection.Table

/-!
# Well-formed grammars

A grammar is well formed if its root is a key, every rule is stored under its own name, and
every reference names a key.  Validation finds no error in exactly these grammars.

**Results.**
* `Grammar.rule?_withSortedRules` and its companions: what the operations on grammars do to
  rules and keys.
* `Grammar.missingRoot_mem_errors_iff`, `Grammar.undefinedReference_mem_errors_iff`: when an
  error is reported.
* `Grammar.isValid_validate_iff`: validation and well-formedness agree.
-/

namespace SchemaGrammar.Grammar

section Access

variable {g : Grammar}

theorem contains_eq_true_iff
    {key : String} :
    g.contains key = true ↔ ∃ rule, g.rule? key = some rule :=
  Option.isSome_iff_exists

theorem contains_eq_false_iff
    {key : String} :
    g.contains key = false ↔ g.rule? key = none :=
  Option.isSome_eq_false_iff.trans Option.isNone_iff_eq_none

theorem contains_iff_mem_keys
    {key : String} :
    g.contains key = true ↔ key ∈ g.keys :=
  Table.contains_eq_true_iff

theorem rule?_eq_some_iff
    {key : String}
    {rule : Rule} :
    g.rule? key = some rule ↔ (key, rule) ∈ g.rules.entries :=
  Table.get?_eq_some_iff

/-- A rule that is put in adds its name to the keys. -/
theorem contains_withRule
    (g : Grammar)
    (rule : Rule)
    (key : String) :
    (g.withRule rule).contains key = (key == rule.name || g.contains key) :=
  Table.contains_insert g.rules rule.name key rule

/-- New definitions stand under the old keys. -/
theorem rule?_mapRules_eq_some_iff
    {f : Rule → Element}
    {key : String}
    {rule : Rule} :
    (g.mapRules f).rule? key = some rule ↔
      ∃ old, g.rule? key = some old ∧ old.withDefinition (f old) = rule := by
  rw [rule?_mapRules, Option.map_eq_some_iff]

@[simp] theorem contains_mapRules
    (f : Rule → Element)
    (g : Grammar)
    (key : String) :
    (g.mapRules f).contains key = g.contains key := by
  show ((g.mapRules f).rule? key).isSome = (g.rule? key).isSome
  rw [rule?_mapRules, Option.isSome_map]

/-- Of two definitions of one rule that are stored the second one stays. -/
theorem withRule_withRule
    (g : Grammar)
    (rule : Rule)
    (d d' : Element) :
    (g.withRule (rule.withDefinition d)).withRule (rule.withDefinition d') =
      g.withRule (rule.withDefinition d') :=
  congrArg (fun rules => { g with rules }) (Table.insert_insert g.rules rule.name _ _)

theorem mapRules_withRule
    (f : Rule → Element)
    (g : Grammar)
    (rule : Rule) :
    (g.withRule rule).mapRules f = (g.mapRules f).withRule (rule.withDefinition (f rule)) :=
  congrArg (fun rules => { g with rules }) (Table.mapValues_insert _ g.rules rule.name rule)

/-- Definitions that are their own images stay. -/
theorem mapRules_eq_self
    {f : Rule → Element}
    (h : ∀ {key : String} {rule : Rule}, g.rule? key = some rule → f rule = rule.definition) :
    g.mapRules f = g := by
  refine congrArg (fun rules => { g with rules }) (Table.mapValues_eq_self fun e he => ?_)
  exact congrArg e.2.withDefinition (h (rule?_eq_some_iff.mpr he))

/-- Sorting leaves every rule under its key. -/
@[simp] theorem rule?_withSortedRules
    (g : Grammar)
    (key : String) :
    g.withSortedRules.rule? key = g.rule? key :=
  Table.get?_sortKeys g.rules key

@[simp] theorem contains_withSortedRules
    (g : Grammar)
    (key : String) :
    g.withSortedRules.contains key = g.contains key :=
  congrArg Option.isSome (rule?_withSortedRules g key)

end Access

/-- The keys of a grammar are the names of its rules, and whatever is named is a key. -/
structure WellFormed (g : Grammar) : Prop where
  root : g.contains g.root = true
  name : ∀ {key : String} {rule : Rule}, g.rule? key = some rule → rule.name = key
  closed : ∀ {key name : String} {rule : Rule},
    g.rule? key = some rule → name ∈ rule.definition.references → g.contains name = true

section Findings

variable {g : Grammar} {issue : Issue}

theorem mem_undefinedNames
    {definition : Element}
    {name : String} :
    name ∈ g.undefinedNames definition ↔
      name ∈ definition.references ∧ g.contains name = false := by
  unfold undefinedNames
  rw [Distinct.mem_foldl_appendIfNew, List.mem_filter]
  simp

/-- A root that is no key is missing. -/
theorem mem_rootIssues :
    issue ∈ g.rootIssues ↔ issue = .missingRoot g.root ∧ g.contains g.root = false := by
  unfold rootIssues
  cases h : g.contains g.root <;> simp

/-- A rule whose name is not its key is a mismatch. -/
theorem mem_nameIssues :
    issue ∈ g.nameIssues ↔
      ∃ key rule, g.rule? key = some rule ∧ key ≠ rule.name ∧
        issue = .nameMismatch key rule.name := by
  unfold nameIssues
  rw [List.mem_filterMap]
  constructor
  · rintro ⟨⟨key, rule⟩, hmem, hissue⟩
    refine ⟨key, rule, rule?_eq_some_iff.mpr hmem, ?_⟩
    by_cases h : key = rule.name
    · simp [h] at hissue
    · exact ⟨h, by simpa [h] using hissue.symm⟩
  · rintro ⟨key, rule, hrule, hne, rfl⟩
    exact ⟨(key, rule), rule?_eq_some_iff.mp hrule, if_neg hne⟩

/-- A reference to what is no key is undefined. -/
theorem mem_referenceIssues :
    issue ∈ g.referenceIssues ↔
      ∃ key rule name, g.rule? key = some rule ∧ name ∈ rule.definition.references ∧
        g.contains name = false ∧ issue = .undefinedReference key name := by
  unfold referenceIssues
  rw [List.mem_flatMap]
  constructor
  · rintro ⟨⟨key, rule⟩, hmem, hissue⟩
    obtain ⟨name, hname, rfl⟩ := List.mem_map.mp hissue
    obtain ⟨href, habsent⟩ := mem_undefinedNames.mp hname
    exact ⟨key, rule, name, rule?_eq_some_iff.mpr hmem, href, habsent, rfl⟩
  · rintro ⟨key, rule, name, hrule, href, habsent, rfl⟩
    exact ⟨(key, rule), rule?_eq_some_iff.mp hrule,
      List.mem_map.mpr ⟨name, mem_undefinedNames.mpr ⟨href, habsent⟩, rfl⟩⟩

/-- Errors are about the root, about names or about references. -/
theorem mem_errors :
    issue ∈ g.validate.errors ↔
      issue ∈ g.rootIssues ∨ issue ∈ g.nameIssues ∨ issue ∈ g.referenceIssues := by
  show issue ∈ g.rootIssues ++ g.nameIssues ++ g.referenceIssues ↔ _
  rw [List.mem_append, List.mem_append, or_assoc]

theorem missingRoot_mem_errors_iff
    {root : String} :
    Issue.missingRoot root ∈ g.validate.errors ↔
      root = g.root ∧ g.contains g.root = false := by
  rw [mem_errors, mem_rootIssues, mem_nameIssues, mem_referenceIssues]
  simp

theorem nameMismatch_mem_errors_iff
    {key name : String} :
    Issue.nameMismatch key name ∈ g.validate.errors ↔
      ∃ rule, g.rule? key = some rule ∧ key ≠ name ∧ name = rule.name := by
  rw [mem_errors, mem_rootIssues, mem_nameIssues, mem_referenceIssues]
  constructor
  · rintro (⟨h, -⟩ | ⟨k, rule, hrule, hne, h⟩ | ⟨k, rule, n, -, -, -, h⟩)
    · cases h
    · cases h
      exact ⟨rule, hrule, hne, rfl⟩
    · cases h
  · rintro ⟨rule, hrule, hne, rfl⟩
    exact .inr (.inl ⟨key, rule, hrule, hne, rfl⟩)

theorem undefinedReference_mem_errors_iff
    {key name : String} :
    Issue.undefinedReference key name ∈ g.validate.errors ↔
      ∃ rule, g.rule? key = some rule ∧ name ∈ rule.definition.references ∧
        g.contains name = false := by
  rw [mem_errors, mem_rootIssues, mem_nameIssues, mem_referenceIssues]
  constructor
  · rintro (⟨h, -⟩ | ⟨k, rule, -, -, h⟩ | ⟨k, rule, n, hrule, href, habsent, h⟩)
    · cases h
    · cases h
    · cases h
      exact ⟨rule, hrule, href, habsent⟩
  · rintro ⟨rule, hrule, href, habsent⟩
    exact .inr (.inr ⟨key, rule, name, hrule, href, habsent, rfl⟩)

/-- Validation finds no error in a grammar exactly if the grammar is well formed. -/
theorem isValid_validate_iff :
    g.validate.isValid = true ↔ g.WellFormed := by
  unfold Report.isValid
  rw [List.isEmpty_iff, List.eq_nil_iff_forall_not_mem]
  constructor
  · intro h
    refine ⟨?_, ?_, ?_⟩
    · refine Bool.of_not_eq_false fun hroot => ?_
      exact h _ (missingRoot_mem_errors_iff.mpr ⟨rfl, hroot⟩)
    · intro key rule hrule
      refine Decidable.byContradiction fun hne => ?_
      exact h _ (nameMismatch_mem_errors_iff.mpr ⟨rule, hrule, Ne.symm hne, rfl⟩)
    · intro key name rule hrule href
      refine Bool.of_not_eq_false fun habsent => ?_
      exact h _ (undefinedReference_mem_errors_iff.mpr ⟨rule, hrule, href, habsent⟩)
  · intro hg issue hissue
    rw [mem_errors, mem_rootIssues, mem_nameIssues, mem_referenceIssues] at hissue
    rcases hissue with ⟨-, hroot⟩ | ⟨key, rule, hrule, hne, -⟩ |
      ⟨key, rule, name, hrule, href, habsent, -⟩
    · exact absurd (hg.root.symm.trans hroot) (by simp)
    · exact hne (hg.name hrule).symm
    · exact absurd ((hg.closed hrule href).symm.trans habsent) (by simp)

end Findings

end SchemaGrammar.Grammar
