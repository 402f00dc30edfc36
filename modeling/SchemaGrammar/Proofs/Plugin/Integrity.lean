import SchemaGrammar.Proofs.Grammar.WellFormed
import SchemaGrammar.Proofs.Plugin.Call
import SchemaGrammar.Proofs.Transform.Description
import SchemaGrammar.Proofs.Transform.References

/-!
# Well-formedness along chains of transformers

Each built-in transformer makes a well-formed grammar of a well-formed one, leaves root and
metadata alone and loses no key.  So does every chain of them, whatever their order, their
options and the number of times that one of them occurs.

**Results.**
* `Grammar.Upholds`: what a transformer may not lose, as a relation that can be chained.
* `BuiltIn.upholds`: every built-in transformer keeps it.
* `Registry.isValid_transform`: a chain of built-in transformers keeps it.
-/

namespace SchemaGrammar

/-- Whatever is promised of the grammar `g` holds of `h`, too. -/
structure Grammar.Upholds (h g : Grammar) : Prop where
  wellFormed : g.WellFormed → h.WellFormed
  root : h.root = g.root
  metadata : h.metadata = g.metadata
  keys : ∀ {key : String}, g.contains key = true → h.contains key = true

namespace Grammar

section Steps

variable {g h k : Grammar}

theorem Upholds.refl (g : Grammar) : g.Upholds g := ⟨id, rfl, rfl, id⟩

theorem Upholds.trans
    (hk : k.Upholds h)
    (hg : h.Upholds g) :
    k.Upholds g where
  wellFormed := hk.wellFormed ∘ hg.wellFormed
  root := hk.root.trans hg.root
  metadata := hk.metadata.trans hg.metadata
  keys := hk.keys ∘ hg.keys

/-- New definitions that refer to old names and to keys. -/
theorem upholds_mapRules
    {f : Rule → Element}
    (hf : ∀ {key name : String} {rule : Rule},
      g.rule? key = some rule → name ∈ (f rule).references →
        name ∈ rule.definition.references ∨ g.contains name = true) :
    (g.mapRules f).Upholds g where
  wellFormed hg := by
    refine ⟨?_, ?_, ?_⟩
    · rw [contains_mapRules]
      exact hg.root
    · intro key rule hrule
      obtain ⟨old, hold, rfl⟩ := rule?_mapRules_eq_some_iff.mp hrule
      show old.name = key
      exact hg.name hold
    · intro key name rule hrule hname
      obtain ⟨old, hold, rfl⟩ := rule?_mapRules_eq_some_iff.mp hrule
      rw [contains_mapRules]
      rcases hf hold hname with hname | hname
      · exact hg.closed hold hname
      · exact hname
  root := rfl
  metadata := rfl
  keys hkey := by rwa [contains_mapRules]

/-- A rule that is put in closes a grammar whose references are to keys and to that rule. -/
theorem wellFormed_withRule
    {added : Rule}
    (hroot : g.contains g.root = true)
    (hname : ∀ {key : String} {rule : Rule}, g.rule? key = some rule → rule.name = key)
    (hclosed : ∀ {key name : String} {rule : Rule},
      g.rule? key = some rule → name ∈ rule.definition.references →
        name = added.name ∨ g.contains name = true)
    (hadded : ∀ {name : String},
      name ∈ added.definition.references → name = added.name ∨ g.contains name = true) :
    (g.withRule added).WellFormed := by
  have hcontains : ∀ {name}, name = added.name ∨ g.contains name = true →
      (g.withRule added).contains name = true := fun h => by
    rwa [contains_withRule, Bool.or_eq_true_iff, beq_iff_eq]
  refine ⟨hcontains (.inr hroot), ?_, ?_⟩
  · intro key rule hrule
    rw [rule?_withRule] at hrule
    split at hrule
    · next hkey =>
        cases hrule
        exact hkey.symm
    · exact hname hrule
  · intro key name rule hrule href
    rw [rule?_withRule] at hrule
    split at hrule
    · cases hrule
      exact hcontains (hadded href)
    · exact hcontains (hclosed hrule href)

theorem contains_withRule_of_contains
    {added : Rule}
    {key : String}
    (hkey : g.contains key = true) :
    (g.withRule added).contains key = true := by
  rw [contains_withRule, hkey, Bool.or_true]

/-- New definitions that refer to old names and to a rule without references that is added. -/
theorem upholds_mapRules_withRule
    {f : Rule → Element}
    {added : Rule}
    (hf : ∀ {rule : Rule} {name : String},
      name ∈ (f rule).references → name ∈ rule.definition.references ∨ name = added.name)
    (hadded : added.definition.references = []) :
    ((g.mapRules f).withRule added).Upholds g where
  wellFormed hg := by
    refine wellFormed_withRule ?_ ?_ ?_ ?_
    · rw [contains_mapRules]
      exact hg.root
    · intro key rule hrule
      obtain ⟨old, hold, rfl⟩ := rule?_mapRules_eq_some_iff.mp hrule
      show old.name = key
      exact hg.name hold
    · intro key name rule hrule hname
      obtain ⟨old, hold, rfl⟩ := rule?_mapRules_eq_some_iff.mp hrule
      rw [contains_mapRules]
      rcases hf hname with hname | hname
      · exact .inr (hg.closed hold hname)
      · exact .inl hname
    · intro name hname
      rw [hadded] at hname
      cases hname
  root := rfl
  metadata := rfl
  keys hkey := contains_withRule_of_contains ((contains_mapRules f g _).trans hkey)

/-- A rule with another definition that refers to names of the old one. -/
theorem upholds_withRule
    {key : String}
    {rule : Rule}
    {definition : Element}
    (hrule : g.rule? key = some rule)
    (hdefinition : definition.references ⊆ rule.definition.references) :
    (g.withRule (rule.withDefinition definition)).Upholds g where
  wellFormed hg :=
    wellFormed_withRule hg.root hg.name (fun hold hname => .inr (hg.closed hold hname))
      fun hname => .inr (hg.closed hrule (hdefinition hname))
  root := rfl
  metadata := rfl
  keys := contains_withRule_of_contains

theorem upholds_withSortedRules (g : Grammar) : g.withSortedRules.Upholds g where
  wellFormed hg := by
    refine ⟨?_, ?_, ?_⟩
    · rw [contains_withSortedRules]
      exact hg.root
    · intro key rule hrule
      rw [rule?_withSortedRules] at hrule
      exact hg.name hrule
    · intro key name rule hrule hname
      rw [rule?_withSortedRules] at hrule
      rw [contains_withSortedRules]
      exact hg.closed hrule hname
  root := rfl
  metadata := rfl
  keys hkey := by rwa [contains_withSortedRules]

end Steps

section Transformations

variable {g h : Grammar}

/-- Simplified definitions refer to the same names. -/
theorem upholds_simplify
    (o : SimplifyOptions)
    (g : Grammar) :
    (g.simplify o).Upholds g := by
  refine upholds_mapRules fun _ hname => .inl ?_
  rwa [Element.references_simplify] at hname

/-- Normalised definitions refer to no new name. -/
theorem upholds_normalize
    (o : NormalizeOptions)
    (g : Grammar) :
    (g.normalize o).Upholds g := by
  refine normalize_induction o g (fun _ => .refl g) (fun _ => ?_) fun _ h hg => ?_
  · exact upholds_mapRules fun _ hname => .inl (Element.references_dedup_subset _ hname)
  · exact (upholds_withSortedRules h).trans hg

/-- A field that is added refers to no rule. -/
theorem upholds_addField
    {o : FieldOptions}
    (hadd : g.addField o = .ok h) :
    h.Upholds g := by
  unfold addField at hadd
  split at hadd
  · cases hadd
  · next rule hrule =>
      split at hadd
      · cases hadd
      · next field hfield =>
          cases hadd
          refine upholds_withRule hrule ?_
          have hnone : (Element.container field).references = [] := by
            rw [Element.references_container, FieldOptions.references_element hfield]
          have hsub : (rule.definition.withContainer (.container field)).references ⊆
              rule.definition.references ++ (Element.container field).references :=
            Element.references_withContainer_subset rule.definition
          rwa [hnone, List.append_nil] at hsub

/-- A wrapped definition refers to the rule of descriptions besides. -/
theorem mem_references_described
    {o : DescribeOptions}
    {rule : Rule}
    {name : String}
    (hname : name ∈ (if needsDescription o rule then rule.definition.described o.descriptionRule
      else rule.definition).references) :
    name ∈ rule.definition.references ∨ name = o.descriptionRule ∧ needsDescription o rule := by
  split at hname
  · next hneeds =>
      simp only [Element.described, Element.references_sequence, List.flatMap_cons,
        Element.references_optional, Element.references_nonTerminal, List.flatMap_nil,
        List.append_nil, List.cons_append, List.nil_append, List.mem_cons] at hname
      exact hname.symm.imp_right fun h => ⟨h, hneeds⟩
  · exact .inl hname

/-- Descriptions that are added refer to a rule that is there. -/
theorem upholds_addDescriptions
    {o : DescribeOptions}
    (hadd : g.addDescriptions o = .ok h) :
    h.Upholds g := by
  obtain ⟨-, ⟨-, rfl⟩ | ⟨hnot, rfl⟩⟩ := addDescriptions_eq_ok_iff.mp hadd
  · exact upholds_mapRules_withRule
      (fun hname => (mem_references_described hname).imp_right And.left) rfl
  · -- Either no rule is wrapped, or the rule that the wrapped ones refer to is there.
    refine upholds_mapRules fun {key name rule} hrule hname => ?_
    refine (mem_references_described hname).imp_right ?_
    rintro ⟨rfl, hneeds⟩
    refine Bool.of_not_eq_false fun habsent => hnot ⟨⟨key, rule, hrule, ?_⟩, habsent⟩
    exact needsDescription_eq_true_iff.mp hneeds

/-- A checkpoint passes its grammar on unchanged. -/
theorem upholds_checkpoint
    {o : CheckpointOptions}
    (hcheck : g.checkpoint o = .ok h) :
    h.Upholds g := by
  unfold checkpoint at hcheck
  split at hcheck
  · cases hresult : g.validate.result o.treatWarningsAsErrors with
    | error e =>
        rw [hresult] at hcheck
        cases hcheck
    | ok _ =>
        rw [hresult] at hcheck
        cases hcheck
        exact .refl g
  · cases hcheck
    exact .refl g

end Transformations

end Grammar

/-- Every built-in transformer upholds what the grammar promises. -/
theorem BuiltIn.upholds
    {id : String}
    {plugin : Plugin .transformer}
    (hplugin : (⟨.transformer, id, plugin⟩ : NamedPlugin) ∈ BuiltIn.all)
    {g h : Grammar}
    {options : OptionMap}
    (hrun : (plugin.run g options).result = .ok h) :
    h.Upholds g := by
  simp only [BuiltIn.all, List.mem_cons, NamedPlugin.mk.injEq, reduceCtorEq, false_and, or_false,
    false_or, true_and, heq_eq_eq, List.not_mem_nil] at hplugin
  rcases hplugin with ⟨-, rfl⟩ | ⟨-, rfl⟩ | ⟨-, rfl⟩ | ⟨-, rfl⟩ | ⟨-, rfl⟩ <;>
    obtain ⟨o, -, hdone⟩ := Plugin.result_run_ofShape_eq_ok_iff.mp hrun
  · cases hdone
    exact Grammar.upholds_normalize o g
  · cases hdone
    exact Grammar.upholds_simplify o g
  · exact Grammar.upholds_addField (mapError_eq_ok_iff.mp hdone)
  · exact Grammar.upholds_addDescriptions (mapError_eq_ok_iff.mp hdone)
  · exact Grammar.upholds_checkpoint (mapError_eq_ok_iff.mp hdone)

namespace Registry

/-- Every name of a list that is switched on stands for a built-in transformer. -/
def RunsBuiltIns (r : Registry) (ids : List String) : Prop :=
  ∀ id ∈ ids, ∀ e, r.entry? .transformer id = some e →
    ∃ name, (⟨.transformer, name, e.plugin⟩ : NamedPlugin) ∈ BuiltIn.all

section BuiltIns

/-- Only built-in transformers stand on the shelf. -/
def HoldsBuiltIns (r : Registry) : Prop :=
  ∀ id e, (r.shelf .transformer).get? id = some e →
    ∃ name, (⟨.transformer, name, e.plugin⟩ : NamedPlugin) ∈ BuiltIn.all

/-- To register a built-in plugin adds no other one. -/
theorem HoldsBuiltIns.register
    {r next : Registry}
    (hr : r.HoldsBuiltIns)
    {p : NamedPlugin}
    (hp : p ∈ BuiltIn.all)
    {defaults : OptionMap}
    (h : r.register p.kind p.id p.plugin defaults = .ok next) :
    next.HoldsBuiltIns := by
  unfold Registry.register at h
  split at h
  · cases h
  · cases h
    obtain ⟨kind, id, plugin⟩ := p
    intro id' e he
    by_cases hkind : kind = .transformer
    · subst hkind
      rw [shelf_withShelf_self, KeyMap.get?_insert] at he
      split at he
      · cases he
        exact ⟨id, hp⟩
      · exact hr id' e he
    · rw [shelf_withShelf_of_ne r (Ne.symm hkind)] at he
      exact hr id' e he

theorem HoldsBuiltIns.registerAll
    {ps : List NamedPlugin}
    (hps : ∀ p ∈ ps, p ∈ BuiltIn.all)
    {r : Registry}
    (hr : r.HoldsBuiltIns) :
    (r.registerAll ps).1.HoldsBuiltIns := by
  induction ps generalizing r with
  | nil => exact hr
  | cons p ps ih =>
      obtain ⟨hp, hps⟩ := List.forall_mem_cons.mp hps
      rw [Registry.registerAll]
      split
      · next next hnext => exact ih hps (hr.register hp hnext)
      · exact hr

theorem HoldsBuiltIns.runsBuiltIns
    {r : Registry}
    (hr : r.HoldsBuiltIns)
    (ids : List String) :
    r.RunsBuiltIns ids := by
  intro id _ e he
  exact hr id e (Option.eq_some_of_filter_eq_some he)

/-- The registry of the built-in plugins runs no other transformers. -/
theorem runsBuiltIns_builtIns (ids : List String) : builtIns.RunsBuiltIns ids := by
  have hempty : empty.HoldsBuiltIns := fun _ _ h => nomatch h
  exact (hempty.registerAll fun _ hp => hp).runsBuiltIns ids

end BuiltIns

section Chains

variable {r : Registry} {options : KeyMap OptionMap}

/-- A chain upholds what each of its stages upholds. -/
theorem upholds_transform_of_call
    {ids : List String}
    (hcall : ∀ id ∈ ids, ∀ (supplied : OptionMap) (g h : Grammar),
      r.call .transformer id g supplied = .ok h → h.Upholds g)
    {g : Grammar}
    {t : Transformed}
    (h : r.transform g ids options = .ok t) :
    t.grammar.Upholds g := by
  induction ids generalizing g t with
  | nil =>
      cases h
      exact .refl g
  | cons id ids ih =>
      obtain ⟨hid, hids⟩ := List.forall_mem_cons.mp hcall
      obtain ⟨next, rest, hnext, hrest, rfl⟩ := transform_cons_eq_ok_iff.mp h
      exact (ih hids hrest).trans (hid _ g next hnext)

/-- So does a chain of built-in transformers. -/
theorem upholds_transform
    {ids : List String}
    (hr : r.RunsBuiltIns ids)
    {g : Grammar}
    {t : Transformed}
    (h : r.transform g ids options = .ok t) :
    t.grammar.Upholds g := by
  refine upholds_transform_of_call (fun id hid supplied g next hnext => ?_) h
  obtain ⟨e, he, -, hrun⟩ := call_eq_ok_iff.mp hnext
  obtain ⟨name, hname⟩ := hr id hid e he
  exact BuiltIn.upholds hname hrun

/-- **Integrity along chains.**  A grammar without errors that goes through built-in
transformers comes out without errors, with its root, its metadata and all of its keys. -/
theorem isValid_transform
    {ids : List String}
    (hr : r.RunsBuiltIns ids)
    {g : Grammar}
    (hg : g.validate.isValid = true)
    {t : Transformed}
    (h : r.transform g ids options = .ok t) :
    t.grammar.validate.isValid = true ∧ t.grammar.root = g.root ∧
      t.grammar.metadata = g.metadata ∧ g.keys ⊆ t.grammar.keys := by
  have hup := upholds_transform hr h
  rw [Grammar.isValid_validate_iff] at hg ⊢
  refine ⟨hup.wellFormed hg, hup.root, hup.metadata, fun key hkey => ?_⟩
  rw [← Grammar.contains_iff_mem_keys] at hkey ⊢
  exact hup.keys hkey

/-- A type whose definition repeats an alternative. -/
def articleGrammar : Grammar :=
  .ofRules "Article"
    [⟨"Article", .sequence
        [.token "type", .oneOf [.nonTerminal "Title", .nonTerminal "Title"],
          .nonTerminal "FieldsDefinition"]⟩,
      ⟨"Title", .terminal "Name" none⟩,
      ⟨"FieldsDefinition", .token "-"⟩]

/-- All built-in transformers, one of them twice. -/
def articleChain : List String :=
  ["normalize", "simplify", "add-field", "add-description", "validate", "simplify"]

def articleOptions : KeyMap OptionMap :=
  .ofList
    [("normalize", .ofList [("sortRules", .bool false)]),
      ("add-field", .ofList
        [("ruleName", .str "Article"), ("fieldName", .str "author"),
          ("fieldType", .str "[User!]")]),
      ("validate", .ofList [("failOnError", .bool true)])]

theorem isValid_transform_article :
    builtIns.RunsBuiltIns articleChain ∧ articleGrammar.validate.isValid = true ∧
      ∃ t, builtIns.transform articleGrammar articleChain articleOptions = .ok t ∧
        t.grammar.validate.isValid = true ∧ t.grammar.root = articleGrammar.root ∧
        t.grammar.metadata = articleGrammar.metadata ∧
        articleGrammar.keys ⊆ t.grammar.keys := by
  have hr := runsBuiltIns_builtIns articleChain
  have hg : articleGrammar.validate.isValid = true := by decide
  have hsome :
      (builtIns.transform articleGrammar articleChain articleOptions).toOption.isSome = true := by
    decide +kernel
  refine ⟨hr, hg, ?_⟩
  cases h : builtIns.transform articleGrammar articleChain articleOptions with
  | error e =>
      rw [h] at hsome
      cases hsome
  | ok t => exact ⟨t, rfl, isValid_transform hr hg h⟩

end Chains

end Registry

end SchemaGrammar
