import SchemaGrammar.Proofs.Transform.FieldLists
import SchemaGrammar.Proofs.Transform.FieldListAddress
import SchemaGrammar.Proofs.Transform.Simple

/-!
# The last field wins

A field list that has been added to a definition is the first one there: nothing before it is a
field list, and it makes none together with its neighbours.  So the next field takes its place,
whichever way the first one came in.  The same holds after a simplification, which splices the
field list into the sequence around it.

**Results.**
* `Element.withContainer_withContainer`, `Element.simplify_withContainer_simplify`: adding to a
  definition twice, without and with simplification.
* `Grammar.addField_addField`: of two fields added to one rule the second one stays.
* `Grammar.simplify_addField_simplify`: also if the grammar is simplified after each of them.
-/

namespace SchemaGrammar

namespace Element

section Twice

variable {d e x : Element} {before after rest : List Element} {fill : Element → Element}

/-- To append is to splice, and to put the element last. -/
theorem appended_eq
    (d x : Element) :
    d.appended x = .sequence (d.spliced ++ [x]) := by
  cases d <;> rfl

/-- Behind an element without field lists, nothing begins one that ends in a later part. -/
theorem Bare.passes_spliced
    (h : Bare d)
    (hx : x.kind = .sequence) :
    Passes d.spliced [x] := by
  have hsecond : ∀ opening, startsContainer [opening, x] = false :=
    fun _ => startsContainer_cons_cons_of_kind (by simp [hx])
  cases d with
  | sequence es =>
      refine h.passes.congr (fun opening _ => hsecond opening) fun opening d _ => ?_
      exact startsContainer_cons_cons_cons_of_isToken (isToken_of_kind (by simp [hx]) _)
  | _ => exact ⟨h, hsecond _, trivial⟩

/-- A container that has been appended is the first hole. -/
theorem Bare.firstHole_appended
    (h : Bare d)
    (hx : isContainer x = true)
    (hkind : x.kind = .sequence) :
    FirstHole (d.appended x) d.appended := by
  rw [show d.appended = fun x => .sequence (d.spliced ++ [x]) from funext d.appended_eq]
  have hne : x.kind ≠ .terminal := by simp [hkind]
  exact .sequence (h.passes_spliced hkind) (startsContainer_cons_of_kind hne) (.here hx)

/-- **Adding twice.**  A field list that is added takes the place of the one added before. -/
theorem withContainer_withContainer
    (d x : Element)
    {y : Element}
    (hy : isContainer y = true)
    (hkind : y.kind = .sequence) :
    (d.withContainer y).withContainer x = d.withContainer x := by
  rcases firstHole_or_bare d with ⟨fill, hfill⟩ | hbare
  · rw [hfill.withContainer, hfill.withContainer, (hfill.refill hy hkind).withContainer]
  · rw [hbare.withContainer, hbare.withContainer,
      (hbare.firstHole_appended hy hkind).withContainer]

end Twice

section Simplified

variable {d e field : Element} {before after rest : List Element} {fill : Element → Element}

/-- The elements of a simple definition are settled. -/
theorem Simple.settled_spliced
    (h : Simple {} d) :
    Settled d.spliced := by
  intro e he
  obtain ⟨hsimple, hkind⟩ := h.of_mem_spliced rfl he
  exact ⟨hsimple.simplify_eq, spliced_of_kind hkind⟩

theorem Simple.settled
    (h : Simple {} (.sequence before)) :
    Settled before :=
  h.settled_spliced

/-- One part among others is simplified and spliced into them. -/
theorem simplify_sequence_part
    (hbefore : Settled before)
    (hafter : Settled after)
    (e : Element) :
    (sequence (before ++ e :: after)).simplify {} =
      collapse {} .sequence (before ++ ((e.simplify {}).spliced ++ after)) := by
  rw [simplify_sequence, List.flatMap_append, List.flatMap_cons, hbefore.flatMap_eq,
    hafter.flatMap_eq]

/-- A field list is spliced into the sequence around it, if there is anything around it. -/
theorem simplify_sequence_container
    (hbefore : Settled before)
    (hafter : Settled after)
    (field : Element) :
    (sequence (before ++ container field :: after)).simplify {} =
      .sequence
        (before ++ .token "\x7b" :: .list (field.simplify {}) :: .token "\x7d" :: after) := by
  rw [simplify_sequence_part hbefore hafter, simplify_container, container, spliced,
    collapse_of_length]
  · rfl
  · intro _
    simp
    omega

/-- A part that is no sequence stays where it is. -/
theorem simplify_sequence_kept
    (hbefore : Settled before)
    (hafter : Settled after)
    (hlength : (before ++ e :: after).length ≠ 1)
    (hkind : (e.simplify {}).kind ≠ .sequence) :
    (sequence (before ++ e :: after)).simplify {} =
      .sequence (before ++ e.simplify {} :: after) := by
  rw [simplify_sequence_part hbefore hafter, spliced_of_kind hkind, collapse_of_length]
  · rfl
  · simpa using hlength

/-- A choice between simple alternatives is simplified in the other one only. -/
theorem simplify_oneOf_kept
    (hbefore : ∀ d ∈ before, d.Simple {})
    (hafter : ∀ d ∈ after, d.Simple {})
    (hlength : (before ++ e :: after).length ≠ 1) :
    (oneOf (before ++ e :: after)).simplify {} = .oneOf (before ++ e.simplify {} :: after) := by
  have hmap : ∀ es : List Element, (∀ d ∈ es, d.Simple {}) → es.map (simplify {}) = es :=
    fun es hes => (List.map_congr_left fun d hd => (hes d hd).simplify_eq).trans es.map_id
  rw [simplify_oneOf, List.map_append, List.map_cons, hmap before hbefore, hmap after hafter,
    collapse_of_length]
  simpa using hlength

/-- Whether a field list begins depends on the kind of the second element only. -/
theorem startsContainer_congr_kind
    (h : d.kind = e.kind)
    (opening : Element)
    (after : List Element) :
    startsContainer (opening :: d :: after) = startsContainer (opening :: e :: after) := by
  cases d <;> cases e <;> first | rfl | (cases after <;> rfl) | cases h

/-- An opening brace completes no field list. -/
theorem Passes.braces
    (h : Passes before rest)
    (inner : List Element) :
    Passes before (.token "\x7b" :: inner) :=
  h.congr (fun _ _ => startsContainer_cons_cons_of_kind (by simp [token, kind]))
    fun _ _ _ => startsContainer_cons_cons_cons_of_isToken (by decide)

/-- The three elements that a field list has been spliced into are the first field list, and a
later one goes where it would have gone before. -/
theorem exists_firstHole_spliced
    (hpasses : Passes before rest)
    (hbefore : Settled before)
    (hafter : Settled after)
    (field : Element) :
    ∃ fill, FirstHole ((sequence (before ++ container field :: after)).simplify {}) fill ∧
      ∀ later, (fill (container later)).simplify {} =
        (sequence (before ++ container later :: after)).simplify {} := by
  rw [simplify_sequence_container hbefore hafter]
  by_cases hwhole : isContainer (.sequence (before ++ .token "\x7b" ::
      .list (field.simplify {}) :: .token "\x7d" :: after)) = true
  · have hlength := of_decide_eq_true ((Bool.and_eq_true _ _).mp hwhole).1
    obtain ⟨rfl, rfl⟩ : before = [] ∧ after = [] := by
      simp only [List.length_append, List.length_cons] at hlength
      constructor <;> apply List.eq_nil_of_length_eq_zero <;> omega
    refine ⟨_, .here hwhole, fun later => ?_⟩
    rw [simplify_sequence_container hbefore hafter]
    rfl
  · rw [Bool.not_eq_true] at hwhole
    exact ⟨_, .run (hpasses.braces _) (by decide) (by decide) hwhole, fun later => rfl⟩

theorem FirstHole.kind_ne_terminal
    (h : FirstHole e fill) :
    e.kind ≠ .terminal := by
  cases h with
  | here hwhole => cases e <;> simp_all [isContainer, kind]
  | _ => simp [kind]

/-- The hole of a choice, an option or a repetition is below it. -/
theorem FirstHole.kind_simplify_fill
    (h : FirstHole e fill)
    (he : e.Simple {})
    (hname : e.kind ≠ .nonTerminal)
    (hsequence : e.kind ≠ .sequence)
    (x : Element) :
    ((fill x).simplify {}).kind = e.kind := by
  cases h with
  | here hwhole => cases e <;> simp_all [isContainer, kind]
  | run | sequence => exact absurd rfl hsequence
  | @oneOf before after d fill _ _ =>
      cases he with
      | oneOf hes hlength =>
          simp only [List.forall_mem_append, List.forall_mem_cons] at hes
          rw [simplify_oneOf_kept hes.1 hes.2.2 (by simpa using hlength rfl)]
          rfl
  | optional | list => rfl

/-- **The field list that has been simplified.**  It is the first one in the simplified
definition, and a later one goes where it would have gone before. -/
theorem FirstHole.exists_simplify_fill
    (h : FirstHole e fill)
    (he : e.Simple {})
    (field : Element) :
    ∃ fill', FirstHole ((fill (container field)).simplify {}) fill' ∧
      ∀ later, (fill' (container later)).simplify {} = (fill (container later)).simplify {} := by
  induction h with
  | here _ => exact ⟨_, .here rfl, fun later => rfl⟩
  | run hpasses _ _ _ =>
      have hsettled := he.settled
      unfold Settled at hsettled
      simp only [List.forall_mem_append, List.forall_mem_cons] at hsettled
      exact exists_firstHole_spliced hpasses hsettled.1 hsettled.2.2.2.2 field
  | @sequence before after e fill hpasses _ h ih =>
      obtain ⟨hbefore, -, hafter⟩ :
          Settled before ∧ (e.simplify {} = e ∧ e.spliced = [e]) ∧ Settled after := by
        simpa only [Settled, List.forall_mem_append, List.forall_mem_cons] using he.settled
      cases he with
      | sequence hes hflat hlength =>
          have hmem : e ∈ before ++ e :: after := by simp
          by_cases hname : e.kind = .nonTerminal
          · -- the reference is replaced, and the field list is spliced into the sequence
            cases h with
            | here _ => exact exists_firstHole_spliced hpasses hbefore hafter field
            | _ => cases hname
          · have hkind := h.kind_simplify_fill (hes e hmem) hname (hflat rfl e hmem)
            obtain ⟨fill', hfill', hlater⟩ := ih (hes e hmem)
            have hfirst := hkind (container field)
            have hsequence := hfirst.trans_ne (hflat rfl e hmem)
            rw [simplify_sequence_kept hbefore hafter (by simpa using hlength rfl) hsequence]
            have hne := hfirst.trans_ne h.kind_ne_terminal
            have hpasses : Passes before ((fill (container field)).simplify {} :: after) := by
              refine hpasses.congr (fun opening hstarts => ?_) fun opening d _ => ?_
              · exact (startsContainer_congr_kind hfirst opening after).trans hstarts
              · exact startsContainer_cons_cons_cons_of_isToken (isToken_of_kind hne _)
            refine ⟨_, .sequence hpasses (startsContainer_cons_of_kind hne) hfill', ?_⟩
            · intro later
              rw [simplify_sequence_part hbefore hafter, simplify_sequence_part hbefore hafter,
                hlater]
  | @oneOf before after e fill hpasses h ih =>
      cases he with
      | oneOf hes hlength =>
          obtain ⟨hbefore, he, hafter⟩ :
              (∀ d ∈ before, d.Simple {}) ∧ e.Simple {} ∧ ∀ d ∈ after, d.Simple {} := by
            simpa only [List.forall_mem_append, List.forall_mem_cons] using hes
          obtain ⟨fill', hfill', hlater⟩ := ih he
          have hkept : ∀ d, (Element.oneOf (before ++ d :: after)).simplify {} =
              .oneOf (before ++ d.simplify {} :: after) :=
            fun d => simplify_oneOf_kept hbefore hafter (by simpa using hlength rfl)
          rw [hkept]
          refine ⟨_, .oneOf hpasses hfill', fun later => ?_⟩
          rw [hkept, hkept, hlater]
  | optional h ih =>
      cases he with
      | optional he =>
          obtain ⟨fill', hfill', hlater⟩ := ih he
          exact ⟨_, .optional hfill', fun later => congrArg Element.optional (hlater later)⟩
  | list h ih =>
      cases he with
      | list he =>
          obtain ⟨fill', hfill', hlater⟩ := ih he
          exact ⟨_, .list hfill', fun later => congrArg Element.list (hlater later)⟩

/-- **Adding twice and simplifying.**  In a simple definition a field list that has been added
and simplified leaves its place to the one added next. -/
theorem simplify_withContainer_simplify
    (hd : d.Simple {})
    (field later : Element) :
    (((d.withContainer (container field)).simplify {}).withContainer
        (container later)).simplify {} =
      (d.withContainer (container later)).simplify {} := by
  rcases firstHole_or_bare d with ⟨fill, hfill⟩ | hbare
  · obtain ⟨fill', hfill', hlater⟩ := hfill.exists_simplify_fill hd field
    rw [hfill.withContainer, hfill.withContainer, hfill'.withContainer, hlater]
  · have hpasses := hbare.passes_spliced (x := container field) rfl
    obtain ⟨fill', hfill', hlater⟩ :=
      exists_firstHole_spliced hpasses hd.settled_spliced (List.forall_mem_nil _) field
    rw [hbare.withContainer, hbare.withContainer, appended_eq, appended_eq,
      hfill'.withContainer, hlater]

end Simplified

end Element

namespace Grammar

variable {g g₁ g₂ : Grammar} {o₁ o₂ : FieldOptions}

/-- Only the rule that is put in needs simplification. -/
theorem simplify_withRule
    (hg : g.simplify {} = g)
    (rule : Rule)
    (d : Element) :
    (g.withRule (rule.withDefinition d)).simplify {} =
      g.withRule (rule.withDefinition (d.simplify {})) := by
  have hsimplify := mapRules_withRule (fun rule => rule.definition.simplify {}) g
    (rule.withDefinition d)
  unfold simplify at hg ⊢
  rw [hsimplify, hg]
  rfl

/-- In a simplified grammar every definition is simple. -/
theorem simple_of_simplify_eq
    (hg : g.simplify {} = g)
    {key : String}
    {rule : Rule}
    (hrule : g.rule? key = some rule) :
    rule.definition.Simple {} := by
  have hmap := rule?_mapRules (fun rule => rule.definition.simplify {}) g key
  unfold simplify at hg
  rw [hg, hrule] at hmap
  exact Element.simplify_eq_self_iff.mp (congrArg Rule.definition (Option.some.inj hmap)).symm

/-- A field is added to a rule that has been given a definition, or, if the rule is stored under
another key, to the rule as it was. -/
theorem addField_withRule
    {rule : Rule}
    {field : Element}
    (hrule : g.rule? o₂.ruleName = some rule)
    (hfield : o₂.element = .ok field)
    (d : Element) :
    (g.withRule (rule.withDefinition d)).addField o₂ =
      .ok (g.withRule (rule.withDefinition
        ((if o₂.ruleName = rule.name then d else rule.definition).withContainer
          (.container field)))) := by
  rw [addField_eq_ok_iff]
  have hget := rule?_withRule g (rule.withDefinition d) o₂.ruleName
  by_cases hkey : o₂.ruleName = rule.name
  · refine ⟨_, field, hget.trans (if_pos hkey), hfield, ?_⟩
    rw [if_pos hkey]
    exact (withRule_withRule g rule d _).symm
  · refine ⟨_, field, hget.trans ((if_neg hkey).trans hrule), hfield, ?_⟩
    rw [if_neg hkey, withRule_withRule]

section Twice

variable (hname : o₂.ruleName = o₁.ruleName)
  (h₁ : g.addField o₁ = .ok g₁)
  (h₂ : g.addField o₂ = .ok g₂)

include hname h₁ h₂

/-- Both fields are added to the same rule. -/
theorem exists_rule_of_addField :
    ∃ rule field₁ field₂, g.rule? o₂.ruleName = some rule ∧ o₂.element = .ok field₂ ∧
      g₁ = g.withRule (rule.withDefinition
        (rule.definition.withContainer (.container field₁))) ∧
      g₂ = g.withRule (rule.withDefinition
        (rule.definition.withContainer (.container field₂))) := by
  obtain ⟨rule, field₁, hrule, -, rfl⟩ := addField_eq_ok_iff.mp h₁
  obtain ⟨rule', field₂, hrule', hfield₂, rfl⟩ := addField_eq_ok_iff.mp h₂
  obtain rfl : rule = rule' := by
    rw [hname, hrule] at hrule'
    exact Option.some.inj hrule'
  exact ⟨rule, field₁, field₂, hrule', hfield₂, rfl, rfl⟩

/-- **Adding twice.**  Of two fields added to one rule the second one stays, as if it had been
the only one. -/
theorem addField_addField :
    g₁.addField o₂ = .ok g₂ := by
  obtain ⟨rule, field₁, field₂, hrule, hfield, rfl, rfl⟩ := exists_rule_of_addField hname h₁ h₂
  rw [addField_withRule hrule hfield]
  split
  · rw [Element.withContainer_withContainer _ _ rfl rfl]
  · rfl

/-- **Adding twice to a simplified grammar.**  The second field stays also if the grammar is
simplified after each of them. -/
theorem simplify_addField_simplify
    (hg : g.simplify {} = g) :
    ∃ g₃, (g₁.simplify {}).addField o₂ = .ok g₃ ∧ g₃.simplify {} = g₂.simplify {} := by
  obtain ⟨rule, field₁, field₂, hrule, hfield, rfl, rfl⟩ := exists_rule_of_addField hname h₁ h₂
  rw [simplify_withRule hg]
  refine ⟨_, addField_withRule hrule hfield _, ?_⟩
  rw [simplify_withRule hg, simplify_withRule hg]
  split
  · rw [Element.simplify_withContainer_simplify (simple_of_simplify_eq hg hrule)]
  · rfl

end Twice

def bodyField : FieldOptions := { titleField with fieldName := "body", fieldType := "[String!]" }

theorem problems_bodyField :
    bodyField.problems = [] := by
  decide +kernel

theorem addField_addField_post :
    bodyField.ruleName = titleField.ruleName ∧
      ∃ g₁ g₂, (postGrammar "Post").addField titleField = .ok g₁ ∧
        (postGrammar "Post").addField bodyField = .ok g₂ ∧ g₁.addField bodyField = .ok g₂ := by
  obtain ⟨g₁, h₁⟩ := exists_addField_of_contains (g := postGrammar "Post") problems_titleField rfl
  obtain ⟨g₂, h₂⟩ := exists_addField_of_contains (g := postGrammar "Post") problems_bodyField rfl
  have hname : bodyField.ruleName = titleField.ruleName := rfl
  exact ⟨hname, g₁, g₂, h₁, h₂, addField_addField hname h₁ h₂⟩

theorem simplify_addField_simplify_post :
    (postGrammar "Post").simplify {} = postGrammar "Post" ∧
      ∃ g₁ g₂ g₃, (postGrammar "Post").addField titleField = .ok g₁ ∧
        (postGrammar "Post").addField bodyField = .ok g₂ ∧
        (g₁.simplify {}).addField bodyField = .ok g₃ ∧ g₃.simplify {} = g₂.simplify {} := by
  have hg : (postGrammar "Post").simplify {} = postGrammar "Post" := by decide
  obtain ⟨g₁, h₁⟩ := exists_addField_of_contains (g := postGrammar "Post") problems_titleField rfl
  obtain ⟨g₂, h₂⟩ := exists_addField_of_contains (g := postGrammar "Post") problems_bodyField rfl
  have hname : bodyField.ruleName = titleField.ruleName := rfl
  obtain ⟨g₃, h₃, heq⟩ := simplify_addField_simplify hname h₁ h₂ hg
  exact ⟨hg, g₁, g₂, g₃, h₁, h₂, h₃, heq⟩

end Grammar

end SchemaGrammar
