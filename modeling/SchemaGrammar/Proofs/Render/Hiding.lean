import SchemaGrammar.Proofs.Grammar.Cycle
import SchemaGrammar.Proofs.Render.Stepwise
import SchemaGrammar.Proofs.Render.Success

/-!
# Hidden descriptions

Without descriptions the renderer passes by whatever is called a description, before it looks at
what it is made of.  So the definition of the description rule may be any, and so may the rules be
that only lead on from there: nothing in them is written, noted down, counted or missed.

**Results.**
* `Walk.rule_congr_of_shown`: a rule that is shown, in two grammars that show the same.
* `Grammar.render_hides_descriptions`: documents and errors without descriptions.
-/

namespace SchemaGrammar

namespace Grammar

/-- The description rule is there, under its own name. -/
def HasDescription (g : Grammar) : Prop :=
  ∃ r, g.rule? RuleName.description = some r ∧ r.name = RuleName.description

/-- The names that rendering may come to from the root and the schema definition when it passes
the description rule by. -/
inductive Shown (g : Grammar) : String → Prop
  | root : Shown g g.root
  | schema : Shown g RuleName.schemaDefinition
  | step {key name : String} :
      Shown g key →
      key ≠ RuleName.description →
      g.RefersTo key name →
      Shown g name

/-- Names with the root and the schema definition among them, and all that their rules refer to,
the description rule apart, are the only ones shown. -/
theorem Shown.mem_of_closed
    {g : Grammar}
    {names : List String}
    {key : String}
    (h : g.Shown key)
    (hroot : g.root ∈ names)
    (hschema : RuleName.schemaDefinition ∈ names)
    (hclosed : ∀ e ∈ g.rules.entries, e.1 ∈ names → e.1 ≠ RuleName.description →
      e.2.definition.references ⊆ names) :
    key ∈ names := by
  induction h with
  | root => exact hroot
  | schema => exact hschema
  | step _ hne href ih =>
      obtain ⟨r, hr, hname⟩ := href
      exact hclosed _ (rule?_eq_some_iff.mp hr) ih hne hname

end Grammar

namespace Render.Walk

variable {g h : Grammar} {o : Options}

/-- The description rule is passed by. -/
theorem rule_description
    (ho : o.includeDescriptions = false)
    {key : String}
    {r : Rule}
    (hr : g.rule? key = some r)
    (hname : r.name = RuleName.description)
    (allowance : Nat)
    (c : Context) :
    rule g o allowance key c =
      if allowance = 0 then throw (.depthExceeded r.name o.maxDepth) else pure "" := by
  unfold rule
  rw [hr]
  cases allowance with
  | zero => rfl
  | succ n =>
      dsimp only
      rw [ho, hname]
      rfl

/-- A rule that is shown is rendered in the same way in two grammars that show the same. -/
theorem rule_congr_of_shown
    (ho : o.includeDescriptions = false)
    (hroot : h.root = g.root)
    (hg : g.HasDescription)
    (hh : h.HasDescription)
    (hrules : ∀ key, g.Shown key → key ≠ RuleName.description → h.rule? key = g.rule? key)
    (allowance : Nat)
    {key : String}
    (hkey : g.Shown key)
    (c : Context) :
    rule h o allowance key c = rule g o allowance key c := by
  have hpassed : ∀ allowance c, rule h o allowance RuleName.description c =
      rule g o allowance RuleName.description c := by
    intro allowance c
    obtain ⟨r, hr, hname⟩ := hg
    obtain ⟨r', hr', hname'⟩ := hh
    rw [rule_description ho hr hname, rule_description ho hr' hname', hname, hname']
  induction allowance generalizing key c with
  | zero =>
      by_cases hdescription : key = RuleName.description
      · rw [hdescription, hpassed]
      · unfold rule
        rw [hrules key hkey hdescription, hroot]
  | succ allowance ih =>
      by_cases hdescription : key = RuleName.description
      · rw [hdescription, hpassed]
      · unfold rule
        rw [hrules key hkey hdescription, hroot]
        cases hrule : g.rule? key with
        | none => rfl
        | some r =>
            have hbody : element o (rule h o allowance) r.definition (c.enteringRule r.name) =
                element o (rule g o allowance) r.definition (c.enteringRule r.name) :=
              stepwise_eq.element (.refl o) fun name hname c' _ =>
                ih (.step hkey hdescription ⟨r, hrule, hname⟩) c'
            dsimp only
            rw [hbody]

end Render.Walk

namespace Grammar

open Render

/-- **Hidden descriptions.**  Without descriptions, two grammars that differ in the definition of
the description rule are rendered to the same document or fail with the same error; they may differ
as well in the rules to which nothing leads but that definition. -/
theorem render_hides_descriptions
    (g h : Grammar)
    (o : Render.Options)
    (ho : o.includeDescriptions = false)
    (hroot : h.root = g.root)
    (hg : g.HasDescription)
    (hh : h.HasDescription) :
    ((∀ key, key ≠ RuleName.description → h.rule? key = g.rule? key) →
        h.render o = g.render o) ∧
      ((∀ key, g.Shown key → key ≠ RuleName.description → h.rule? key = g.rule? key) →
        h.render o = g.render o) := by
  have hshown : (∀ key, g.Shown key → key ≠ RuleName.description → h.rule? key = g.rule? key) →
      h.render o = g.render o := by
    intro hrules
    refine render_congr_of_rules hroot fun key hkey => ?_
    have hkey : g.Shown key := by
      rcases hkey with rfl | rfl
      · exact .root
      · exact .schema
    refine ⟨?_, Walk.rule_congr_of_shown ho hroot hg hh hrules o.maxDepth hkey .start⟩
    by_cases hdescription : key = RuleName.description
    · obtain ⟨r, hr, -⟩ := hg
      obtain ⟨r', hr', -⟩ := hh
      rw [hdescription, contains_eq_true_iff.mpr ⟨r, hr⟩, contains_eq_true_iff.mpr ⟨r', hr'⟩]
    · exact congrArg Option.isSome (hrules key hkey hdescription)
  exact ⟨fun hrules => hshown fun key _ => hrules key, hshown⟩

def describedType : Element :=
  .sequence
    [.optional (.nonTerminal RuleName.description), .token "type",
      .terminal "Name" (some (.literal "Post"))]

/-- The type, with a description of some definition. -/
def describedGrammar (definition : Element) : Grammar :=
  .ofRules RuleName.objectTypeDefinition
    [⟨RuleName.objectTypeDefinition, describedType⟩, ⟨RuleName.description, definition⟩]

/-- A description without an end, with a name that is not defined and a rule that is not there. -/
def endlessDescription : Element :=
  .sequence
    [.terminal "TypeName" (some (.literal "Secret")), .nonTerminal "Note",
      .nonTerminal RuleName.description]

/-- The type with this description, and a rule to which nothing else leads. -/
def notedGrammar : Grammar :=
  (describedGrammar endlessDescription).withRule ⟨"Note", .nonTerminal "Nowhere"⟩

theorem hasDescription_describedGrammar
    (definition : Element) :
    (describedGrammar definition).HasDescription :=
  ⟨⟨RuleName.description, definition⟩, rfl, rfl⟩

theorem rule?_describedGrammar
    (d d' : Element)
    {key : String}
    (hkey : key ≠ RuleName.description) :
    (describedGrammar d).rule? key = (describedGrammar d').rule? key := by
  have hlast : ∀ d, (describedGrammar d).rule? key =
      (ofRules RuleName.objectTypeDefinition
        [⟨RuleName.objectTypeDefinition, describedType⟩]).rule? key :=
    fun d => (rule?_withRule _ ⟨RuleName.description, d⟩ key).trans (if_neg hkey)
  rw [hlast, hlast]

theorem render_hides_descriptions_endless :
    (describedGrammar (.token "text")).render { includeDescriptions := false } =
        .ok "type Post\n\ntype Query \x7b\n  placeholder: String\n\x7d" ∧
      (describedGrammar endlessDescription).render { includeDescriptions := false } =
        (describedGrammar (.token "text")).render { includeDescriptions := false } ∧
      notedGrammar.render { includeDescriptions := false } =
        (describedGrammar (.token "text")).render { includeDescriptions := false } := by
  have hplain := hasDescription_describedGrammar (.token "text")
  have hendless := hasDescription_describedGrammar endlessDescription
  have hnoted : notedGrammar.HasDescription :=
    ⟨⟨RuleName.description, endlessDescription⟩, rfl, rfl⟩
  obtain ⟨hsame, -⟩ := render_hides_descriptions (describedGrammar (.token "text"))
    (describedGrammar endlessDescription) { includeDescriptions := false } rfl rfl hplain hendless
  obtain ⟨-, hshown⟩ := render_hides_descriptions (describedGrammar (.token "text"))
    notedGrammar { includeDescriptions := false } rfl rfl hplain hnoted
  refine ⟨by decide +kernel, hsame fun key => rule?_describedGrammar _ _, ?_⟩
  refine hshown fun key hkey hne => ?_
  have hmem : key ∈ [RuleName.objectTypeDefinition, RuleName.schemaDefinition,
      RuleName.description] := hkey.mem_of_closed (by decide) (by decide) (by decide)
  have hnote : key ≠ "Note" := by
    rintro rfl
    revert hmem
    decide
  refine (rule?_withRule _ ⟨"Note", .nonTerminal "Nowhere"⟩ key).trans ?_
  rw [if_neg hnote]
  exact rule?_describedGrammar _ _ hne

end Grammar

end SchemaGrammar
