import SchemaGrammar.Proofs.Transform.FieldLists
import SchemaGrammar.Proofs.Transform.FieldParts

/-!
# Rendering a field that is simplified

The renderer knows by the beginning of a nested sequence that it stands in the arguments of a
field or in a directive.  A field that is added to a rule has these sequences, and
simplification splices them into the sequence of the field.  The blocks of the document stay,
and so do the names of its stubs; the kinds of the stubs and the arguments of the directives
among them are lost.

**Results.**
* `Grammar.outline_simplify_addField`: what simplification keeps of every field.
* `Grammar.render_simplify_addField`: the document stays if the types of the arguments and the
  directives with arguments need no stubs.
* `Grammar.render_simplify_addField_posts`: a field of which the document does not stay.
-/

namespace SchemaGrammar

open Render Render.Walk

namespace FieldOptions

variable {R : Trace → Trace → Prop} {r : Render.Options} {o : FieldOptions}

/-- A simplified field is the sequence of its leaves. -/
theorem simplify_fieldParts
    (h : ∀ e ∈ o.fieldParts, e.Sayable) :
    (Element.sequence o.fieldParts).simplify {} =
      .sequence (o.fieldParts.flatMap Element.leaves) := by
  rw [Element.simplify_sequence,
    List.flatMap_congr fun e he => Element.spliced_simplify_of_sayable (h e he)]
  have hname : literal "Name" o.fieldName ∈ o.fieldParts.flatMap Element.leaves :=
    List.mem_flatMap.mpr ⟨literal "Name" o.fieldName, by simp [fieldParts], List.mem_cons_self⟩
  have hcolon : Element.token ":" ∈ o.fieldParts.flatMap Element.leaves :=
    List.mem_flatMap.mpr ⟨.token ":", by simp [fieldParts], List.mem_cons_self⟩
  unfold Element.collapse
  split
  · next e heq =>
      rw [heq, List.mem_singleton] at hname hcolon
      rw [← hcolon] at hname
      simp [literal, Element.token] at hname
  · rfl

theorem head?_leaves_fieldParts :
    (o.fieldParts.flatMap Element.leaves).head? = o.fieldParts.head? := by
  unfold fieldParts
  cases o.description <;> rfl

/-- A field and its leaves are rendered similarly. -/
theorem similar_field
    {enter enter' : String → Context → Walk String}
    (h : ∀ e ∈ o.fieldParts, Part R r e)
    (c : Context) :
    Similar R (Walk.element r enter (.sequence (o.fieldParts.flatMap Element.leaves)) c)
      (Walk.element r enter' (.sequence o.fieldParts) c) := by
  have hbraceless : Braceless r (o.fieldParts.flatMap Element.leaves) :=
    braceless_flatMap fun e he => (h e he).braceless
  refine similar_leaves (fun e he => (h e he).sayable) hbraceless c ?_
  have hcontext : c.forSequence (o.fieldParts.flatMap Element.leaves) =
      c.forSequence o.fieldParts := by
    unfold Context.forSequence
    rw [head?_leaves_fieldParts]
  rw [mentions_sequence, mentions_sequence, hcontext, List.flatMap_assoc]
  exact swaps_flatMap fun e he => (h e he).swaps _

end FieldOptions

namespace Grammar

def withRoot (g : Grammar) (root : String) : Grammar := { g with root }

theorem mem_of_rule?_foldl_withRule
    {rules : List Rule}
    {g : Grammar}
    {key : String}
    {rule : Rule}
    (h : (rules.foldl withRule g).rule? key = some rule) :
    (rule ∈ rules ∧ rule.name = key) ∨ g.rule? key = some rule := by
  induction rules generalizing g with
  | nil => exact .inr h
  | cons first rules ih =>
      rcases ih h with ⟨hmem, hname⟩ | h
      · exact .inl ⟨List.mem_cons_of_mem _ hmem, hname⟩
      · rw [rule?_withRule] at h
        split at h
        · next hkey =>
            cases h
            exact .inl ⟨List.mem_cons_self, hkey.symm⟩
        · exact .inr h

/-- The rules of the schema are found under their names. -/
theorem mem_of_rule?_schema
    {root key : String}
    {rule : Rule}
    (h : (schema.withRoot root).rule? key = some rule) :
    rule ∈ Schema.rules ∧ rule.name = key := by
  rcases mem_of_rule?_foldl_withRule (g := empty RuleName.document) h with h | h
  · exact h
  · cases h

section Outlines

variable {g h : Grammar} {r : Render.Options} {σ : Type} {view : Symbols → σ}

/-- Two outcomes with the same error, or with the same blocks and symbols that look the same. -/
inductive Alike (view : Symbols → σ) :
    Except RenderError Outline → Except RenderError Outline → Prop
  | error (e : RenderError) : Alike view (.error e) (.error e)
  | ok {p q : Outline} (blocks : p.blocks = q.blocks)
      (symbols : view (Symbols.ofTrace p.trace) = view (Symbols.ofTrace q.trace)) :
      Alike view (.ok p) (.ok q)

/-- Walks that go the same way give outlines that are alike. -/
theorem alike_of_similar
    (hroot : h.root = g.root)
    (hcontains : h.contains = g.contains)
    (hsimilar : Similar (Trace.SameView view) (Render.blocks h r) (Render.blocks g r)) :
    Alike view (h.outline r) (g.outline r) := by
  unfold outline
  rw [hcontains, hroot]
  split
  · have hrun := hsimilar [] [] (Trace.sameView_refl [])
    generalize (Render.blocks h r).run [] = x, (Render.blocks g r).run [] = y at hrun
    cases hrun with
    | error e => exact .error e
    | ok _ hst => exact .ok rfl hst.symbols
  · exact .error _

end Outlines

section AddedField

variable {o : FieldOptions} {r : Render.Options} {σ : Type} {view : Symbols → σ}

/-- The definition of a rule with the field behind its other fields. -/
def fieldDefinition (rule : Rule) (o : FieldOptions) : Element :=
  rule.definition.withContainer (.container (.sequence o.fieldParts))

/-- Options without problems add a field to a rule of the schema grammar. -/
theorem exists_addField
    (root : String)
    (hrule : schema.contains o.ruleName = true)
    (ho : o.Valid) :
    ∃ rule ∈ Schema.rules, rule.name = o.ruleName ∧
      (schema.withRoot root).addField o =
        .ok ((schema.withRoot root).withRule
          (rule.withDefinition (fieldDefinition rule o))) := by
  obtain ⟨rule, hget⟩ := Option.isSome_iff_exists.mp hrule
  have hget : (schema.withRoot root).rule? o.ruleName = some rule := hget
  obtain ⟨hmem, hname⟩ := mem_of_rule?_schema hget
  have hfield := FieldOptions.element_eq ho
  exact ⟨rule, hmem, hname, addField_eq_ok_iff.mpr ⟨rule, _, hget, hfield, rfl⟩⟩

/-- The definition with the field goes the same way when it is simplified. -/
theorem similar_fieldDefinition
    {R : Trace → Trace → Prop}
    (hR : Trace.Congruence R)
    (hparts : ∀ e ∈ o.fieldParts, FieldOptions.Part R r e)
    {rule : Rule}
    (hmem : rule ∈ Schema.rules)
    (hlayout : r.pretty = true → rule.name ∈ Schema.fieldListRules)
    {enter enter' : String → Context → Walk String}
    (henter : ∀ name c, Similar R (enter name c) (enter' name c))
    (c : Context) :
    Similar R (Walk.element r enter ((fieldDefinition rule o).simplify {}) c)
      (Walk.element r enter' (fieldDefinition rule o) c) := by
  have hsimplify := FieldOptions.simplify_fieldParts fun e he => (hparts e he).sayable
  have hfield : RendersSimilarly R r enter enter'
      (.sequence (o.fieldParts.flatMap Element.leaves)) (.sequence o.fieldParts) :=
    ⟨looksAlike_sequence _ _, FieldOptions.similar_field hparts⟩
  rcases Schema.containers rule hmem with hholds | ⟨hother, before, hgets⟩
  · exact similar_of_holdsContainer hR henter hsimplify hfield hholds c
  · have hpretty : r.pretty = false := by
      rw [← Bool.not_eq_true]
      exact fun h => hother (hlayout h)
    exact similar_of_getsContainer hR henter hpretty hsimplify hfield hgets c

/-- **Simplifying an added field.**  The walk over the schema grammar with an added field goes
the same way when the grammar is simplified, as far as kinds and arguments do not matter. -/
theorem exists_addField_similar
    {R : Trace → Trace → Prop}
    (root : String)
    (hR : Trace.Congruence R)
    (hrule : schema.contains o.ruleName = true)
    (hproblems : o.problems = [])
    (hkinds : ∀ a ∈ o.arguments,
      Trace.IgnoresKind R (FieldOptions.typeOf a.type).namedType)
    (hignores : ∀ d ∈ o.directives, d.arguments ≠ [] → Trace.IgnoresArguments R d.name)
    (hlayout : r.pretty = true →
      o.ruleName ∈ Schema.fieldListRules ∧ "\x7b" ∉ o.valueTexts) :
    ∃ g, (schema.withRoot root).addField o = .ok g ∧
      Similar R (Render.blocks (g.simplify {}) r) (Render.blocks g r) := by
  have ho := FieldOptions.valid_of_problems hproblems
  have hparts := FieldOptions.part_of_mem_fieldParts (r := r) hR ho hkinds hignores
    fun hpretty => (hlayout hpretty).2
  obtain ⟨rule, hmem, hname, hadded⟩ := exists_addField root hrule ho
  refine ⟨_, hadded, similar_blocks hR rfl fun key => ?_⟩
  unfold simplify
  rw [rule?_mapRules, rule?_withRule]
  split
  · exact .some ⟨rfl, similar_fieldDefinition hR hparts hmem fun h => hname ▸ (hlayout h).1⟩
  · cases hother : (schema.withRoot root).rule? key with
    | none => exact .none
    | some other =>
        have hsimple := Schema.simplify_definition other (mem_of_rule?_schema hother).1
        rw [Option.map_some]
        refine .some ?_
        rw [hsimple]
        exact .refl hR r other

/-- The outlines of a grammar with an added field, simplified or not, are alike. -/
theorem exists_addField_alike
    (root : String)
    (hview : Trace.Congruence (Trace.SameView view))
    (hrule : schema.contains o.ruleName = true)
    (hproblems : o.problems = [])
    (hkinds : ∀ a ∈ o.arguments,
      Trace.IgnoresKind (Trace.SameView view)
        (FieldOptions.typeOf a.type).namedType)
    (hignores : ∀ d ∈ o.directives, d.arguments ≠ [] →
      Trace.IgnoresArguments (Trace.SameView view) d.name)
    (hlayout : r.pretty = true →
      o.ruleName ∈ Schema.fieldListRules ∧ "\x7b" ∉ o.valueTexts) :
    ∃ g, (schema.withRoot root).addField o = .ok g ∧
      Alike view ((g.simplify {}).outline r) (g.outline r) := by
  obtain ⟨g, hadded, hsimilar⟩ :=
    exists_addField_similar root hview hrule hproblems hkinds hignores hlayout
  have hroot : (g.simplify {}).root = g.root := rfl
  have hcontains : (g.simplify {}).contains = g.contains :=
    funext fun key => contains_mapRules _ g key
  exact ⟨g, hadded, alike_of_similar hroot hcontains hsimilar⟩

/-- A field can be added, and its simplified form has the same names. -/
theorem exists_addField_alike_names
    (root : String)
    (hrule : schema.contains o.ruleName = true)
    (hproblems : o.problems = [])
    (hlayout : r.pretty = true →
      o.ruleName ∈ Schema.fieldListRules ∧ "\x7b" ∉ o.valueTexts) :
    ∃ g, (schema.withRoot root).addField o = .ok g ∧
      Alike Symbols.names ((g.simplify {}).outline r) (g.outline r) :=
  exists_addField_alike root Trace.congruence_names hrule hproblems
    (fun _ _ => Trace.ignoresKind_names _)
    (fun d _ _ => Trace.ignoresArguments_names d.name) hlayout

end AddedField

/-- Two outlines with the same blocks, and with stubs of the same names in the same order. -/
structure SameNames (p q : Outline) : Prop where
  blocks : p.blocks = q.blocks
  types : p.stubs.filterMap Stub.typeName? = q.stubs.filterMap Stub.typeName?
  directives :
    p.stubs.filterMap Stub.directiveName? = q.stubs.filterMap Stub.directiveName?

section Simplified

variable (o : FieldOptions) (r : Render.Options) (root : String)

/-- **What simplification keeps of an added field.**  The simplified grammar fails in the same
way, or has the same blocks and defines the same names behind them. -/
theorem outline_simplify_addField
    (hrule : schema.contains o.ruleName = true)
    (hproblems : o.problems = [])
    (hlayout : r.pretty = true →
      o.ruleName ∈ Schema.fieldListRules ∧ "\x7b" ∉ o.valueTexts) :
    ∃ g, (schema.withRoot root).addField o = .ok g ∧
      ((∃ e, (g.simplify {}).outline r = .error e ∧ g.outline r = .error e) ∨
        ∃ p q, (g.simplify {}).outline r = .ok p ∧ g.outline r = .ok q ∧ SameNames p q) := by
  obtain ⟨g, hadded, halike⟩ := exists_addField_alike_names root hrule hproblems hlayout
  refine ⟨g, hadded, ?_⟩
  generalize (g.simplify {}).outline r = x, g.outline r = y at halike
  cases halike with
  | error e => exact .inl ⟨e, rfl, rfl⟩
  | ok hblocks hnames =>
      exact .inr ⟨_, _, rfl, rfl, hblocks, Symbols.typeNames_stubs_congr hnames,
        Symbols.directiveNames_stubs_congr hnames⟩

/-- **Rendering a simplified field.**  If the types of its arguments and the directives that are
given arguments need no definition, an added field is rendered the same when it is simplified:
on one line in every rule, and on several lines in the rules that hold a field list, unless a
value is an opening brace. -/
theorem render_simplify_addField
    (hrule : schema.contains o.ruleName = true)
    (hproblems : o.problems = [])
    (harguments : ∀ a ∈ o.arguments, ∀ t, TypeRef.parse a.type = .ok t →
      t.namedType ∈ builtInScalars)
    (hdirectives : ∀ d ∈ o.directives, d.arguments ≠ [] → d.name ∈ builtInDirectives)
    (hlayout : r.pretty = true →
      o.ruleName ∈ Schema.fieldListRules ∧ "\x7b" ∉ o.valueTexts) :
    ∃ g, (schema.withRoot root).addField o = .ok g ∧ (g.simplify {}).render r = g.render r := by
  have ho := FieldOptions.valid_of_problems hproblems
  obtain ⟨g, hadded, halike⟩ := exists_addField_alike root Trace.congruence_id hrule
    hproblems
    (fun a ha => Trace.ignoresKind_of_builtIn (harguments a ha _ (ho.arguments a ha).2))
    (fun d hd hgiven => Trace.ignoresArguments_of_builtIn (hdirectives d hd hgiven))
    hlayout
  refine ⟨g, hadded, ?_⟩
  unfold render
  generalize (g.simplify {}).outline r = x, g.outline r = y at halike
  cases halike with
  | error e => rfl
  | @ok p q hblocks hsymbols =>
      have hstubs : p.stubs = q.stubs := congrArg Symbols.stubs hsymbols
      show Except.ok _ = Except.ok _
      rw [Outline.text, Outline.text, hblocks, hstubs]

/-- A field with an argument, two directives and a default value. -/
def distanceField : FieldOptions where
  ruleName := RuleName.objectTypeDefinition
  fieldName := "distance"
  fieldType := "Float!"
  description := some "How far it is."
  arguments := [⟨"units", "[String!]", some (.arr [.str "mile"])⟩]
  directives := [⟨"deprecated", [⟨"reason", .str "unused"⟩]⟩, ⟨"internal", []⟩]

theorem render_simplify_addField_distance :
    schema.contains distanceField.ruleName = true ∧ distanceField.problems = [] ∧
      ∃ g, (schema.withRoot distanceField.ruleName).addField distanceField = .ok g ∧
        (g.simplify {}).render {} = g.render {} := by
  have hrule : schema.contains distanceField.ruleName = true := by decide +kernel
  have hproblems : distanceField.problems = [] := by decide +kernel
  have hread : (TypeRef.parse "[String!]").toOption =
      some (.list (.nonNull (.named "String"))) := by
    decide +kernel
  refine ⟨hrule, hproblems, render_simplify_addField distanceField {} _ hrule hproblems ?_ ?_ ?_⟩
  · intro a ha t ht
    cases List.mem_singleton.mp ha
    rw [show TypeRef.parse "[String!]" = .ok t from ht] at hread
    cases hread
    decide
  · decide
  · exact fun _ => ⟨by decide, by decide +kernel⟩

end Simplified

/-- Outlines with the same blocks have different documents if their stubs differ for the first
time in two that begin with different letters. -/
theorem text_ne_of_stubs
    (l : Layout)
    {p q : Outline}
    (hblocks : p.blocks = q.blocks)
    {before after after' : List Stub}
    {stub stub' : Stub}
    (hp : p.stubs = before ++ stub :: after)
    (hq : q.stubs = before ++ stub' :: after')
    {c c' : Char}
    (hstub : (Text.trim (stub.text l)).toList.head? = some c)
    (hstub' : (Text.trim (stub'.text l)).toList.head? = some c')
    (hne : c ≠ c') :
    p.text l ≠ q.text l := by
  have hdocuments := Layout.document_ne_of_head?_ne l
    (q.blocks ++ before.map (Stub.text l)) hstub hstub' hne
    (after.map (Stub.text l)) (after'.map (Stub.text l))
  rw [Outline.text, Outline.text, hblocks, hp, hq]
  simpa only [List.map_append, List.map_cons, List.append_assoc] using hdocuments

section Posts

/-- A field with an argument of a type to be defined, and with a directive to be defined that
is given an argument. -/
def postsField : FieldOptions where
  ruleName := RuleName.objectTypeDefinition
  fieldName := "posts"
  fieldType := "String"
  description := none
  arguments := [⟨"filter", "PostFilter", none⟩]
  directives := [⟨"auth", [⟨"requires", .str "ADMIN"⟩]⟩]

/-- The stubs of the simplified grammar take the type of the argument for an object. -/
theorem render_simplify_addField_posts :
    postsField.problems = [] ∧ schema.contains postsField.ruleName = true ∧
      ∃ g, (schema.withRoot postsField.ruleName).addField postsField = .ok g ∧
        (g.simplify {}).render {} ≠ g.render {} := by
  have hproblems : postsField.problems = [] := by decide +kernel
  have hrule : schema.contains postsField.ruleName = true := by decide +kernel
  have hspliced : ((schema.withRoot postsField.ruleName).addField postsField).toOption.bind
      (fun g => ((g.simplify {}).outline {}).toOption.map fun p => p.stubs.take 2) =
        some [.type "ExampleInterface" .interface, .type "PostFilter" .object] := by
    decide +kernel
  have hnested : ((schema.withRoot postsField.ruleName).addField postsField).toOption.bind
      (fun g => (g.outline {}).toOption.map fun p => p.stubs.take 2) =
        some [.type "ExampleInterface" .interface, .type "PostFilter" .input] := by
    decide +kernel
  have hlayout : ({} : Render.Options).pretty = true →
      postsField.ruleName ∈ Schema.fieldListRules ∧ "\x7b" ∉ postsField.valueTexts :=
    fun _ => ⟨by decide, by decide +kernel⟩
  obtain ⟨g, hadded, halike⟩ :=
    exists_addField_alike_names postsField.ruleName hrule hproblems hlayout
  refine ⟨hproblems, hrule, g, hadded, ?_⟩
  rw [hadded] at hspliced hnested
  unfold render
  change ((g.simplify {}).outline {}).toOption.map _ = _ at hspliced
  change (g.outline {}).toOption.map _ = _ at hnested
  generalize (g.simplify {}).outline {} = x, g.outline {} = y at halike hspliced hnested
  cases halike with
  | error e => cases hspliced
  | @ok p q hblocks _ =>
      have hp : p.stubs = [.type "ExampleInterface" .interface] ++
          .type "PostFilter" .object :: p.stubs.drop 2 := by
        rw [List.append_cons, List.singleton_append, ← Option.some.inj hspliced,
          List.take_append_drop]
      have hq : q.stubs = [.type "ExampleInterface" .interface] ++
          .type "PostFilter" .input :: q.stubs.drop 2 := by
        rw [List.append_cons, List.singleton_append, ← Option.some.inj hnested,
          List.take_append_drop]
      let l : Layout := Render.Options.layout {}
      have hobject : (Text.trim (Stub.text l (.type "PostFilter" .object))).toList.head? =
          some 't' := by
        decide +kernel
      have hinput : (Text.trim (Stub.text l (.type "PostFilter" .input))).toList.head? =
          some 'i' := by
        decide +kernel
      have hne := text_ne_of_stubs l hblocks hp hq hobject hinput (by decide)
      exact fun h => hne (Except.ok.inj h)

end Posts

end Grammar

end SchemaGrammar
