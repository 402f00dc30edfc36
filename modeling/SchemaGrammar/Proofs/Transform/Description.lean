import SchemaGrammar.Proofs.Grammar.Address
import SchemaGrammar.Proofs.Grammar.WellFormed
import SchemaGrammar.Transform.Describe

/-!
# Descriptions are added once

A rule waits for a description if it is selected, is not the description rule itself, and does
not start with an optional reference to that rule.  Adding descriptions leaves no rule waiting:
a definition that got one starts with it, and a description rule that had to be made carries the
name that is never selected.  So there is nothing to do the second time, whatever the keys are
under which the rules are stored.

**Results.**
* `Grammar.Waits`: what speaks for a description in front of a rule.
* `Grammar.addDescriptions_eq_error_iff`, `Grammar.addDescriptions_eq_ok_iff`: how descriptions
  are refused and added.
* `Grammar.addDescriptions_eq_self`: nothing is done where no rule waits.
* `Grammar.addDescriptions_exact`: what is refused, what changes, and that it changes once.
-/

namespace SchemaGrammar

namespace Element

/-- The forms that start with an optional reference to the description rule. -/
theorem isDescribed_eq_true_iff
    {description : String}
    {e : Element} :
    e.isDescribed description = true ↔
      ∃ rest, e = .sequence (.optional (.nonTerminal description) :: rest) := by
  constructor
  · intro h
    unfold isDescribed at h
    split at h
    · next d rest =>
        obtain rfl : d = .nonTerminal description :=
          nonTerminal?_eq_some_iff.mp (eq_of_beq h)
        exact ⟨rest, rfl⟩
    · cases h
  · rintro ⟨rest, rfl⟩
    simp [isDescribed, refersTo, nonTerminal?]

end Element

namespace Grammar

/-- What speaks for a description in front of a rule. -/
structure Waits (o : DescribeOptions) (rule : Rule) : Prop where
  other : rule.name ≠ o.descriptionRule
  selected : ∀ names, o.ruleNames = some names → rule.name ∈ names
  bare : ∀ rest, rule.definition ≠ .sequence (.optional (.nonTerminal o.descriptionRule) :: rest)

/-- Some rule waits for a description, and there is no description rule. -/
def LacksDescriptionRule (o : DescribeOptions) (g : Grammar) : Prop :=
  (∃ key rule, g.rule? key = some rule ∧ Waits o rule) ∧ g.contains o.descriptionRule = false

/-- The grammar with a description in front of every definition that waits for one. -/
def describedRules (o : DescribeOptions) (g : Grammar) : Grammar :=
  g.mapRules fun rule =>
    if needsDescription o rule then rule.definition.described o.descriptionRule
    else rule.definition

variable {o : DescribeOptions} {g h : Grammar}

section Selection

/-- Which rules are selected: the named ones, or all, and never that of descriptions. -/
theorem selects_eq_true_iff
    {rule : Rule} :
    o.selects rule = true ↔
      rule.name ≠ o.descriptionRule ∧ ∀ names, o.ruleNames = some names → rule.name ∈ names := by
  unfold DescribeOptions.selects
  cases o.ruleNames <;> simp

/-- A rule is wrapped if it waits for a description. -/
theorem needsDescription_eq_true_iff
    {rule : Rule} :
    needsDescription o rule = true ↔ Waits o rule := by
  rw [needsDescription, Bool.and_eq_true, selects_eq_true_iff, Bool.not_eq_true',
    ← Bool.not_eq_true, Element.isDescribed_eq_true_iff, not_exists]
  constructor
  · rintro ⟨⟨hother, hselected⟩, hbare⟩
    exact ⟨hother, hselected, hbare⟩
  · rintro ⟨hother, hselected, hbare⟩
    exact ⟨⟨hother, hselected⟩, hbare⟩

/-- The rule of descriptions is added if a rule waits and it is not there. -/
theorem lacksDescriptionRule_iff :
    (g.rules.values.any (needsDescription o) &&
      !(g.describedRules o).contains o.descriptionRule) = true ↔ g.LacksDescriptionRule o := by
  rw [Bool.and_eq_true, Bool.not_eq_true', describedRules, contains_mapRules, List.any_eq_true]
  refine and_congr_left fun _ => ?_
  constructor
  · rintro ⟨rule, hrule, hneeds⟩
    obtain ⟨⟨key, rule⟩, hentry, rfl⟩ := List.mem_map.mp hrule
    exact ⟨key, rule, rule?_eq_some_iff.mpr hentry, needsDescription_eq_true_iff.mp hneeds⟩
  · rintro ⟨key, rule, hrule, hwaits⟩
    exact ⟨rule, List.mem_map.mpr ⟨_, rule?_eq_some_iff.mp hrule, rfl⟩,
      needsDescription_eq_true_iff.mpr hwaits⟩

end Selection

section Outcomes

theorem addDescriptions_eq
    (o : DescribeOptions)
    (g : Grammar) :
    g.addDescriptions o =
      if (g.unknownNames o).isEmpty then
        if g.rules.values.any (needsDescription o) &&
            !(g.describedRules o).contains o.descriptionRule then
          .ok ((g.describedRules o).withRule (descriptionRule o))
        else .ok (g.describedRules o)
      else .error ⟨g.unknownNames o⟩ := rfl

/-- Descriptions are refused if a name was asked for that is no key. -/
theorem addDescriptions_eq_error_iff
    {e : UnknownRules} :
    g.addDescriptions o = .error e ↔ g.unknownNames o ≠ [] ∧ e.names = g.unknownNames o := by
  rw [addDescriptions_eq]
  split
  · next hnone =>
      rw [List.isEmpty_iff] at hnone
      constructor
      · intro h
        split at h <;> cases h
      · rintro ⟨hne, -⟩
        exact absurd hnone hne
  · next hne =>
      rw [List.isEmpty_iff] at hne
      constructor
      · rintro ⟨⟩
        exact ⟨hne, rfl⟩
      · rintro ⟨-, heq⟩
        rw [← heq]

/-- Descriptions are added to the rules that wait for one, and the description rule if it is
lacking. -/
theorem addDescriptions_eq_ok_iff :
    g.addDescriptions o = .ok h ↔
      g.unknownNames o = [] ∧
        (g.LacksDescriptionRule o ∧ (g.describedRules o).withRule (descriptionRule o) = h ∨
          ¬ g.LacksDescriptionRule o ∧ g.describedRules o = h) := by
  rw [addDescriptions_eq]
  split
  · next hnone =>
      rw [List.isEmpty_iff] at hnone
      split
      · next hlacks =>
          rw [lacksDescriptionRule_iff] at hlacks
          simp [hnone, hlacks]
      · next hlacks =>
          rw [lacksDescriptionRule_iff] at hlacks
          simp [hnone, hlacks]
  · next hne =>
      rw [List.isEmpty_iff] at hne
      simp [hne]

/-- A rule is wrapped if it waits, and stays otherwise. -/
theorem rule?_describedRules_eq_some_iff
    {key : String}
    {rule : Rule} :
    (g.describedRules o).rule? key = some rule ↔
      ∃ old, g.rule? key = some old ∧
        (Waits o old ∧ old.withDefinition (old.definition.described o.descriptionRule) = rule ∨
          ¬ Waits o old ∧ old = rule) := by
  rw [describedRules, rule?_mapRules_eq_some_iff]
  refine exists_congr fun old => and_congr_right fun _ => ?_
  rw [← needsDescription_eq_true_iff]
  split
  · next hneeds => simp [hneeds]
  · next hneeds => simp [hneeds, Rule.withDefinition]

end Outcomes

section Twice

/-- Nothing is done where no rule waits for a description. -/
theorem addDescriptions_eq_self
    (hnames : g.unknownNames o = [])
    (hrules : ∀ {key : String} {rule : Rule}, g.rule? key = some rule → ¬ Waits o rule) :
    g.addDescriptions o = .ok g := by
  refine addDescriptions_eq_ok_iff.mpr ⟨hnames, .inr ⟨?_, mapRules_eq_self fun hrule => ?_⟩⟩
  · rintro ⟨⟨key, rule, hrule, hwaits⟩, -⟩
    exact hrules hrule hwaits
  · exact if_neg (mt needsDescription_eq_true_iff.mp (hrules hrule))

/-- No rule waits for a description when every definition that did has got one. -/
theorem not_waits_of_rule?_describedRules
    {key : String}
    {rule : Rule}
    (hrule : (g.describedRules o).rule? key = some rule) :
    ¬ Waits o rule := by
  obtain ⟨old, -, ⟨-, rfl⟩ | ⟨hnot, rfl⟩⟩ := rule?_describedRules_eq_some_iff.mp hrule
  · exact fun hwaits => hwaits.bare _ rfl
  · exact hnot

theorem contains_describedRules
    (key : String) :
    (g.describedRules o).contains key = g.contains key :=
  contains_mapRules _ g key

/-- All keys are still there, so no name that was one is unknown. -/
theorem unknownNames_eq_nil
    (hnames : g.unknownNames o = [])
    (hkeys : ∀ name, g.contains name = true → h.contains name = true) :
    h.unknownNames o = [] := by
  unfold unknownNames at hnames ⊢
  rw [List.filter_eq_nil_iff] at hnames ⊢
  intro name hname
  have hcontains : g.contains name = true := by simpa using hnames name hname
  simp [hkeys name hcontains]

/-- A second time nothing is left to do. -/
theorem addDescriptions_addDescriptions
    (hadd : g.addDescriptions o = .ok h) :
    h.addDescriptions o = .ok h := by
  obtain ⟨hnames, ⟨-, rfl⟩ | ⟨-, rfl⟩⟩ := addDescriptions_eq_ok_iff.mp hadd
  · refine addDescriptions_eq_self (unknownNames_eq_nil hnames fun name hname => ?_)
      fun {key rule} hrule => ?_
    · rw [contains_withRule, contains_describedRules, hname, Bool.or_true]
    · rw [rule?_withRule] at hrule
      split at hrule
      · cases hrule
        exact fun hwaits => hwaits.other rfl
      · exact not_waits_of_rule?_describedRules hrule
  · refine addDescriptions_eq_self (unknownNames_eq_nil hnames fun name hname => ?_)
      not_waits_of_rule?_describedRules
    rw [contains_describedRules, hname]

end Twice

section Effect

/-- The names that are refused are those that were asked for and are no keys, in order. -/
theorem unknownNames_ne_nil_iff
    {names : List String} :
    g.unknownNames o ≠ [] ∧ names = g.unknownNames o ↔
      ∃ asked, o.ruleNames = some asked ∧ (∃ name ∈ asked, name ∉ g.keys) ∧
        names = asked.filter fun name => name ∉ g.keys := by
  have hkeys : (fun name => !g.contains name) = fun name => decide (name ∉ g.keys) := by
    funext name
    rw [Bool.eq_iff_iff, Bool.not_eq_true', ← Bool.not_eq_true, contains_iff_mem_keys,
      decide_eq_true_iff]
  unfold unknownNames
  rw [hkeys]
  cases o.ruleNames with
  | none => simp
  | some asked => simp

/-- What becomes of a rule does not depend on whether a description rule is added. -/
theorem rule?_of_addDescriptions
    (hadd : g.addDescriptions o = .ok h)
    {key : String}
    (hkey : g.contains key = true) :
    h.rule? key = (g.describedRules o).rule? key := by
  obtain ⟨-, ⟨⟨-, hlacks⟩, rfl⟩ | ⟨-, rfl⟩⟩ := addDescriptions_eq_ok_iff.mp hadd
  · refine (rule?_withRule _ _ _).trans (if_neg fun heq => ?_)
    rw [heq, show (descriptionRule o).name = o.descriptionRule from rfl, hlacks] at hkey
    cases hkey
  · rfl

/-- The description rule is put behind all others where it is lacking. -/
theorem keys_describedRules_withRule
    (hlacks : g.LacksDescriptionRule o) :
    ((g.describedRules o).withRule (descriptionRule o)).keys = g.keys ++ [o.descriptionRule] := by
  have hnew : o.descriptionRule ∉ (g.describedRules o).keys := by
    rw [← contains_iff_mem_keys, contains_describedRules, hlacks.2]
    exact Bool.false_ne_true
  have hkeys : (g.describedRules o).keys = g.keys := keys_mapRules _ g
  refine (Table.keys_insert _ _ _).trans ((if_neg hnew).trans ?_)
  exact congrArg (· ++ [o.descriptionRule]) hkeys

/-- **Descriptions.**  They are refused exactly if a name was asked for that is no key, and all
such names are told, in order.  Otherwise adding them to the result changes nothing; a rule that
waits for a description gets one in front of its definition, and every other rule stays; the keys
stay in their order, followed by the description rule if a rule waited and it was lacking; root
and metadata stay.  A rule is known by its own name here, whatever its key is. -/
theorem addDescriptions_exact
    (o : DescribeOptions)
    (g : Grammar) :
    (∀ e, g.addDescriptions o = .error e ↔
      ∃ asked, o.ruleNames = some asked ∧ (∃ name ∈ asked, name ∉ g.keys) ∧
        e.names = asked.filter fun name => name ∉ g.keys) ∧
    ∀ h, g.addDescriptions o = .ok h →
      h.addDescriptions o = .ok h ∧
      (∀ key rule, g.rule? key = some rule →
        (Waits o rule →
          h.rule? key = some (rule.withDefinition
            (.sequence [.optional (.nonTerminal o.descriptionRule), rule.definition]))) ∧
        (¬ Waits o rule → h.rule? key = some rule)) ∧
      (g.LacksDescriptionRule o →
        h.keys = g.keys ++ [o.descriptionRule] ∧
        h.rule? o.descriptionRule =
          some ⟨o.descriptionRule, .terminal "StringValue" none⟩) ∧
      (¬ g.LacksDescriptionRule o → h.keys = g.keys) ∧
      h.root = g.root ∧
      h.metadata = g.metadata := by
  refine ⟨fun e => addDescriptions_eq_error_iff.trans unknownNames_ne_nil_iff, fun h hadd => ?_⟩
  refine ⟨addDescriptions_addDescriptions hadd, fun key rule hrule => ?_, ?_⟩
  · rw [rule?_of_addDescriptions hadd (contains_eq_true_iff.mpr ⟨rule, hrule⟩)]
    exact ⟨fun hwaits => rule?_describedRules_eq_some_iff.mpr ⟨rule, hrule, .inl ⟨hwaits, rfl⟩⟩,
      fun hnot => rule?_describedRules_eq_some_iff.mpr ⟨rule, hrule, .inr ⟨hnot, rfl⟩⟩⟩
  · obtain ⟨-, ⟨hlacks, rfl⟩ | ⟨hnot, rfl⟩⟩ := addDescriptions_eq_ok_iff.mp hadd
    · refine ⟨fun _ => ⟨keys_describedRules_withRule hlacks, ?_⟩,
        fun hnot => absurd hlacks hnot, rfl, rfl⟩
      exact (rule?_withRule _ _ _).trans (if_pos rfl)
    · exact ⟨fun hlacks => absurd hlacks hnot, fun _ => keys_mapRules _ g, rfl, rfl⟩

example :
    ((Grammar.ofRules "Document"
      [⟨"Document", .list (.nonTerminal "Definition")⟩, ⟨"Definition", .terminal "Name" none⟩]
      ).addDescriptions {}).toOption.map keys =
      some ["Document", "Definition", "Description"] := by
  decide

end Effect

end Grammar

end SchemaGrammar
