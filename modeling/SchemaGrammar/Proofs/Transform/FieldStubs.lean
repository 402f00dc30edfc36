import SchemaGrammar.Proofs.Render.Definitions
import SchemaGrammar.Proofs.Render.Samples
import SchemaGrammar.Proofs.Transform.FieldRendering

/-!
# Stubs for the types of a field

A field of an object type uses its own type for output and the types of its arguments for
input.  The stubs of the document fit both: a type gets one definition, as a scalar if it is used
for both, and types that the field does not use get none, apart from the samples.

**Results.**
* `FieldOptions.notes_field`: what a field notes down about types.
* `Grammar.notes_blocks_addField`: the whole document notes down no more about other types than
  the samples.
* `Grammar.stubs_addField`: the definitions fit every position in which a type is used.
-/

namespace SchemaGrammar

open Render Render.Walk

namespace FieldOptions

section Uses

variable (o : FieldOptions) (name : String)

/-- A type is the innermost one of an argument. -/
def Takes : Prop :=
  ∃ a ∈ o.arguments, (TypeRef.parse a.type).toOption.map TypeRef.namedType = some name

/-- A type is the innermost one of the field. -/
def Gives : Prop := (TypeRef.parse o.fieldType).toOption.map TypeRef.namedType = some name

/-- Definitions of a type fit every position in which the field uses it. -/
structure StubsFit (definitions : List String) : Prop where
  both : o.Takes name → o.Gives name → DefinedOnce name .scalar definitions
  argument : o.Takes name → ¬ o.Gives name → DefinedOnce name .input definitions
  field : ¬ o.Takes name → o.Gives name → DefinedOnce name .object definitions
  neither : ¬ o.Takes name → ¬ o.Gives name → Undefined name definitions

end Uses

section Events

variable {o : FieldOptions} {name : String}

/-- The references to types in a field of an object type. -/
def typeEvents (o : FieldOptions) : List Event :=
  o.arguments.map (fun a => .typeReferenced (typeOf a.type).namedType .input) ++
    [.typeReferenced (typeOf o.fieldType).namedType .object]

theorem namedType_typeOf
    {source : String}
    (h : TypeRef.parse source = .ok (typeOf source)) :
    (TypeRef.parse source).toOption.map TypeRef.namedType = some (typeOf source).namedType := by
  rw [h]
  rfl

/-- The input types of a field are those of its arguments. -/
theorem mem_typeEvents_input_iff
    (ho : o.Valid) :
    .typeReferenced name .input ∈ o.typeEvents ↔ o.Takes name := by
  unfold typeEvents Takes
  simp only [List.mem_append, List.mem_map, List.mem_singleton, Event.typeReferenced.injEq,
    reduceCtorEq, and_false, or_false, and_true]
  refine exists_congr fun a => and_congr_right fun ha => ?_
  rw [namedType_typeOf (ho.arguments a ha).2, Option.some.injEq]

theorem mem_typeEvents_object_iff
    (ho : o.Valid) :
    .typeReferenced name .object ∈ o.typeEvents ↔ o.Gives name := by
  unfold typeEvents Gives
  rw [namedType_typeOf ho.fieldType]
  simp [eq_comm]

/-- A field refers to input types and to an object type only. -/
theorem kind_of_mem_typeEvents
    {kind : TypeKind}
    (h : .typeReferenced name kind ∈ o.typeEvents) :
    kind = .input ∨ kind = .object := by
  rw [typeEvents, List.mem_append, List.mem_map, List.mem_singleton] at h
  rcases h with ⟨a, -, heq⟩ | heq
  · cases heq
    exact .inl rfl
  · cases heq
    exact .inr rfl

def fieldContext : Context where
  rule := some RuleName.objectTypeDefinition
  depth := 1
  inFieldList := true
  fieldIndex := 1

/-- The text of a description does not change the context. -/
theorem forSequence_description
    (c : Context)
    (text : String)
    (es : List Element) :
    c.forSequence (literal RuleName.description (Json.str text).compact :: es) = c := by
  have hsign : ∀ sign : String, sign ≠ RuleName.description → sign.toList.head? ≠ some '"' →
      (literal RuleName.description (Json.str text).compact).isToken sign = false := by
    intro sign hname hhead
    have htext := compact_str_ne text hhead
    simp [literal, Element.isToken, Pattern.literal?, hname.symm, htext]
  exact c.forSequence_of_isToken (hsign "@" (by decide) (by decide))
    (hsign "(" (by decide) (by decide)) es

/-- A field as a whole is neither a directive nor a list of arguments. -/
theorem forSequence_fieldParts
    (ho : o.Valid)
    (c : Context) :
    c.forSequence o.fieldParts = c := by
  unfold fieldParts descriptionElements
  cases o.description with
  | none => exact c.forSequence_literal (by decide) ho.fieldName _
  | some text => exact forSequence_description c text _

/-- The arguments of a field mention their types as input. -/
theorem mentions_argumentsElements
    (ho : o.Valid) :
    (if o.arguments.isEmpty then []
      else [parenthesized (o.arguments.map fun a => argumentForm a (typeOf a.type))]).flatMap
        (fun e => mentions e fieldContext) =
      o.arguments.map fun a => .typeReferenced (typeOf a.type).namedType .input := by
  split
  · next hnone => rw [List.isEmpty_iff.mp hnone, List.flatMap_nil, List.map_nil]
  · rw [List.flatMap_singleton, mentions_parenthesized, List.flatMap_map, List.map_eq_flatMap]
    refine List.flatMap_congr fun a ha => ?_
    obtain ⟨hname, htype⟩ := ho.arguments a ha
    exact mentions_argumentForm hname (TypeRef.isName_namedType htype) _

/-- The directives of a field mention no type. -/
theorem mentionsType_directiveForm
    {d : FieldDirective}
    (harguments : ∀ a ∈ d.arguments, Text.isName a.name = true)
    (name : String)
    (c : Context) :
    ∀ x ∈ mentions (directiveForm d) c, Event.mentionsType name x = false := by
  obtain ⟨xs, hxs, -, heq⟩ := mentions_directiveForm harguments c
  rw [heq]
  intro x hx
  rcases List.mem_cons.mp hx with rfl | hx
  · unfold directiveEvent
    split <;> rfl
  · obtain ⟨given, rfl⟩ := hxs x hx
    rfl

/-- **Types of a field.**  A field mentions the types of its arguments as input types, and its
own type as an object type. -/
theorem filter_mentions_field
    (ho : o.Valid)
    (name : String) :
    (mentions (.sequence o.fieldParts) fieldContext).filter (Event.mentionsType name) =
      o.typeEvents.filter (Event.mentionsType name) := by
  have hdescription : (descriptionElements o.description).flatMap
      (fun e => mentions e fieldContext) = [] := by
    cases o.description <;> rfl
  have hname : mentions (literal "Name" o.fieldName) fieldContext = [] := rfl
  have hcolon : mentions (.token ":") fieldContext = [] := mentions_token _ (by decide)
  have htype : mentions (typeOf o.fieldType).toElement fieldContext =
      [.typeReferenced (typeOf o.fieldType).namedType .object] :=
    mentions_toElement _ (TypeRef.isName_namedType ho.fieldType)
  have hdirectives : ((o.directives.map directiveForm).flatMap
      fun e => mentions e fieldContext).filter (Event.mentionsType name) = [] := by
    rw [List.filter_eq_nil_iff]
    intro x hx
    obtain ⟨e, he, hx⟩ := List.mem_flatMap.mp hx
    obtain ⟨d, hd, rfl⟩ := List.mem_map.mp he
    rw [mentionsType_directiveForm (ho.directives d hd).2 name fieldContext x hx]
    exact Bool.false_ne_true
  have hparts : o.fieldParts.flatMap (fun e => mentions e fieldContext) =
      o.typeEvents ++ (o.directives.map directiveForm).flatMap
        fun e => mentions e fieldContext := by
    unfold fieldParts typeEvents
    rw [List.flatMap_append, List.flatMap_append, List.flatMap_append, List.flatMap_append,
      hdescription, mentions_argumentsElements ho]
    simp only [List.flatMap_cons, List.flatMap_nil, hname, hcolon, htype, List.nil_append,
      List.append_nil]
  rw [mentions_sequence, forSequence_fieldParts ho, hparts, List.filter_append, hdirectives,
    List.append_nil]

/-- Every part of a field is literal. -/
theorem kind_of_mem_walk_field
    (ho : o.Valid) :
    ∀ d ∈ (Element.sequence o.fieldParts).walk, d.kind = .terminal ∨ d.kind = .sequence := by
  intro d hd
  rcases Element.mem_walk_sequence_iff.mp hd with rfl | ⟨e, he, hd⟩
  · exact .inr rfl
  · have hpart := part_of_mem_fieldParts (r := .compact) Trace.congruence_names ho
      (fun _ _ => Trace.ignoresKind_names _) (fun d _ _ => Trace.ignoresArguments_names d.name)
      (fun hpretty => by cases hpretty) e he
    exact hpart.sayable.kind_of_mem_walk d hd

/-- A field notes the references of its arguments and its own. -/
theorem notes_field
    {r : Render.Options}
    {enter : String → Context → Walk String}
    (ho : o.Valid)
    (name : String) :
    Notes (Event.mentionsType name) (Walk.element r enter (.sequence o.fieldParts) fieldContext)
      o.typeEvents :=
  (notes_spoken _ (kind_of_mem_walk_field ho) fieldContext).congr
    (filter_mentions_field ho name).symm

end Events

end FieldOptions

namespace Grammar

section Walks

variable {o : FieldOptions} {r : Render.Options} {enter : String → Context → Walk String}
  {name : String}

/-- The rules that come up beside the field: those of the parts of an object type, and of the
schema definition. -/
def sampledRules : List String :=
  [RuleName.description, RuleName.implementsInterfaces, RuleName.directives, RuleName.directive,
    RuleName.arguments, RuleName.argument, RuleName.value, RuleName.enumValue,
    RuleName.listValue, RuleName.objectValue, RuleName.objectField, RuleName.namedType,
    RuleName.schemaDefinition, RuleName.rootOperationTypeDefinition, RuleName.operationType]

/-- The rules beside the field are rendered from samples. -/
theorem sampled_of_mem_sampledRules :
    ∀ rule ∈ Schema.rules, rule.name ∈ sampledRules → rule.Sampled sampledRules := by
  have hrules : ∀ rule ∈ Schema.rules, rule.name ∈ sampledRules →
      rule.definition.Sampled sampledRules ∧
        Scope.ofRule rule.name ∉ [Scope.outputFields, Scope.inputFields, Scope.arguments] ∧
          TypeKind.definedBy? rule.name = none := by
    decide
  exact fun rule hmem hname =>
    ⟨(hrules rule hmem hname).1, (hrules rule hmem hname).2.1, (hrules rule hmem hname).2.2⟩

/-- The parts of an object type in front of its fields. -/
def objectParts : List Element :=
  [Schema.maybe RuleName.description, .token "type", Schema.name,
    Schema.maybe RuleName.implementsInterfaces, Schema.maybe RuleName.directives]

def objectContext : Context := Context.start.enteringRule RuleName.objectTypeDefinition

theorem outside_objectContext : objectContext.Outside :=
  Context.outside_start.enteringRule (by decide) (.inr rfl)

/-- A field list notes down what its field does. -/
theorem notes_container
    (ho : o.Valid)
    (name : String) :
    Notes (Event.mentionsType name)
      (Walk.element r enter (.container (.sequence o.fieldParts)) objectContext)
      o.typeEvents := by
  have htoken : ∀ text, isPunctuator text = true → Notes (Event.mentionsType name)
      (Walk.element r enter (.token text) objectContext) [] := by
    intro text htext
    rw [← mentions_token objectContext htext]
    refine notes_spoken _ (fun d hd => .inl ?_) objectContext
    rw [List.mem_singleton.mp hd]
    rfl
  have hlist : Notes (Event.mentionsType name)
      (Walk.element r enter (.list (.sequence o.fieldParts)) objectContext.enteringFieldList)
      o.typeEvents := by
    rw [Walk.element]
    exact FieldOptions.notes_field ho name
  refine notes_sequence (notes_sequenceParts_cons_nil (htoken "\x7b" (by decide)) ?_)
  rw [← List.append_nil o.typeEvents]
  refine notes_sequenceParts_cons hlist ?_
  exact notes_sequenceParts_cons_nil (htoken "\x7d" (by decide)) (notes_pure [])

/-- An object type notes what its field does. -/
theorem notes_objectTypeDefinition
    (hname : name ∉ sampleNames)
    (henter : ∀ key ∈ sampledRules, ∀ c : Context, c.Outside →
      Notes (Event.mentionsType name) (enter key c) [])
    (ho : o.Valid) :
    Notes (Event.mentionsType name)
      (Walk.element r enter
        (.sequence (objectParts ++ [.optional (.container (.sequence o.fieldParts))]))
        objectContext)
      o.typeEvents := by
  have hsampled : ∀ e ∈ objectParts, e.kind ≠ .list ∧ e.Sampled sampledRules := by decide
  have hevents : (objectParts.flatMap fun _ => []) ++ o.typeEvents = o.typeEvents := rfl
  rw [← hevents]
  refine notes_sequence (notes_sequenceParts_append (fun e he => (hsampled e he).1)
    (fun e he => ?_) (fun previous => ?_) none)
  · exact notes_nil_element hname henter (hsampled e he).2 outside_objectContext
  · have hoptional : Notes (Event.mentionsType name)
        (Walk.element r enter (.optional (.container (.sequence o.fieldParts))) objectContext)
        o.typeEvents := by
      have hshown : r.hides (.optional (.container (.sequence o.fieldParts))) = false :=
        Bool.and_false _
      rw [Walk.element, hshown, if_neg Bool.false_ne_true]
      exact notes_container ho name
    rw [← List.append_nil o.typeEvents]
    exact notes_sequenceParts_cons hoptional (notes_pure [])

end Walks

section Documents

variable {o : FieldOptions} {r : Render.Options} {g : Grammar} {rule : Rule} {name : String}

/-- The object type with a field as its last part. -/
theorem fieldDefinition_objectTypeDefinition
    (hmem : rule ∈ Schema.rules)
    (hname : rule.name = RuleName.objectTypeDefinition) :
    fieldDefinition rule o =
      .sequence (objectParts ++ [.optional (.container (.sequence o.fieldParts))]) := by
  have hdefinition : ∀ rule ∈ Schema.rules, rule.name = RuleName.objectTypeDefinition →
      rule.definition = .sequence (objectParts ++ [Schema.maybe RuleName.fieldsDefinition]) := by
    decide
  rw [fieldDefinition, hdefinition rule hmem hname]
  rfl

/-- **Types of the document.**  A document with the field as part of an object type mentions the
types that the field mentions, and samples. -/
theorem notes_blocks_addField
    (hsample : name ∉ sampleNames)
    (ho : o.Valid)
    (hmem : rule ∈ Schema.rules)
    (hname : rule.name = RuleName.objectTypeDefinition) :
    Notes (Event.mentionsType name)
      (Render.blocks ((schema.withRoot RuleName.objectTypeDefinition).withRule
        (rule.withDefinition (fieldDefinition rule o))) r)
      o.typeEvents := by
  generalize hg : (schema.withRoot RuleName.objectTypeDefinition).withRule
    (rule.withDefinition (fieldDefinition rule o)) = g
  have hget : ∀ key, g.rule? key = if key = rule.name then
      some (rule.withDefinition (fieldDefinition rule o))
      else (schema.withRoot RuleName.objectTypeDefinition).rule? key := by
    subst hg
    exact rule?_withRule _ _
  have hsampled : ∀ key ∈ sampledRules, ∀ s, g.rule? key = some s → s.Sampled sampledRules := by
    intro key hkey s hs
    have hne : key ≠ rule.name := by
      rw [hname]
      rintro rfl
      exact absurd hkey (by decide)
    rw [hget, if_neg hne] at hs
    obtain ⟨hschema, rfl⟩ := mem_of_rule?_schema hs
    exact sampled_of_mem_sampledRules s hschema hkey
  have hquiet : ∀ allowance, ∀ key ∈ sampledRules, ∀ c : Context, c.Outside →
      Notes (Event.mentionsType name) (Walk.rule g r allowance key c) [] :=
    fun allowance key hkey c hc => notes_nil_rule hsample hsampled allowance hkey hc
  refine notes_blocks ?_ (hquiet _ _ (by decide) _ Context.outside_start)
  have hroot : g.rule? g.root = some (rule.withDefinition (fieldDefinition rule o)) := by
    rw [hget, if_pos]
    subst hg
    exact hname.symm
  refine notes_rule (fun _ => rfl) (fun _ => rfl) (.inr ?_) hroot fun n _ => ?_
  · show rule.name ≠ _ ∧ rule.name ≠ _
    rw [hname]
    decide
  · show Notes _
      (Walk.element r _ (fieldDefinition rule o) (Context.start.enteringRule rule.name)) _
    rw [fieldDefinition_objectTypeDefinition hmem hname, hname]
    exact notes_objectTypeDefinition hsample (hquiet n) ho

/-- The definitions fit the field, if the document mentions a type where the field does. -/
theorem stubsFit_of_mem_iff
    (hscalar : name ∉ builtInScalars)
    (hquery : name ≠ Stub.queryType)
    (ho : o.Valid)
    {t : Trace}
    (ht : ∀ event, event.mentionsType name = true → (event ∈ t ↔ event ∈ o.typeEvents))
    {definitions : List String}
    (hdefined : List.Forall₂ Stub.DefinedBy (Symbols.ofTrace t).stubs definitions) :
    o.StubsFit name definitions := by
  have hreferred : ∀ kind, .typeReferenced name kind ∈ t ↔
      .typeReferenced name kind ∈ o.typeEvents :=
    fun kind => ht _ (beq_self_eq_true name)
  have hinput := (hreferred .input).trans (FieldOptions.mem_typeEvents_input_iff ho)
  have hobject := (hreferred .object).trans (FieldOptions.mem_typeEvents_object_iff ho)
  have hkinds : ∀ kind, .typeReferenced name kind ∈ t → kind = .input ∨ kind = .object :=
    fun kind hkind => FieldOptions.kind_of_mem_typeEvents ((hreferred kind).mp hkind)
  have hinterface : Event.typeReferenced name .interface ∉ t := by
    intro h
    rcases hkinds _ h with h | h <;> cases h
  have hundefined : (Symbols.ofTrace t).definedTypes.contains name = false := by
    rw [← Bool.not_eq_true, (Symbols.records_ofTrace t).definedTypes]
    rintro ⟨kind, hkind⟩
    have hmem := (ht (.typeDefined name kind) (beq_self_eq_true name)).mp hkind
    simp [FieldOptions.typeEvents] at hmem
  have hkept := Symbols.get?_referencedTypes_ofTrace hscalar fun kind hkind =>
    (hkinds kind hkind).symm.imp_right .inr
  have hstubs := Symbols.ofType_stubs (Symbols.ofTrace t) hquery
  rw [hundefined, if_neg Bool.false_ne_true, hkept, Trace.fittingKind?, if_neg hinterface]
    at hstubs
  constructor
  · intro htakes hgives
    refine definedOnce_of_ofType_eq_singleton hdefined ?_
    simpa [hinput.mpr htakes, hobject.mpr hgives] using hstubs
  · intro htakes hgives
    refine definedOnce_of_ofType_eq_singleton hdefined ?_
    simpa [hinput.mpr htakes, mt hobject.mp hgives] using hstubs
  · intro htakes hgives
    refine definedOnce_of_ofType_eq_singleton hdefined ?_
    simpa [mt hinput.mp htakes, hobject.mpr hgives] using hstubs
  · intro htakes hgives
    refine undefined_of_ofType_eq_nil hdefined ?_
    simpa [mt hinput.mp htakes, mt hobject.mp hgives] using hstubs

/-- **Stubs of a field.**  When a field has been added to an object type, every document that is
rendered ends with definitions that fit: one of each type that the field uses, as a scalar if the
type stands for output and for input, and none of any other type. -/
theorem stubs_addField
    (r : Render.Options)
    (hproblems : o.problems = [])
    (hrule : o.ruleName = RuleName.objectTypeDefinition)
    (hscalar : name ∉ builtInScalars)
    (hsample : name ∉ sampleNames) :
    ∃ g, (schema.withRoot RuleName.objectTypeDefinition).addField o = .ok g ∧
      ∀ text, g.render r = .ok text →
        ∃ (outline : Outline) (definitions : List String),
          g.outline r = .ok outline ∧ outline.ShownIn r.layout definitions text ∧
            o.StubsFit name definitions := by
  have ho := FieldOptions.valid_of_problems hproblems
  have hcontains : schema.contains o.ruleName = true := by
    rw [hrule]
    decide +kernel
  obtain ⟨rule, hmem, hname, hadd⟩ :=
    exists_addField RuleName.objectTypeDefinition hcontains ho
  refine ⟨_, hadd, fun text htext => ?_⟩
  obtain ⟨outline, houtline, rfl⟩ := render_eq_ok_iff.mp htext
  have hshown := outline.shownIn_text r.layout
  refine ⟨outline, _, houtline, hshown, ?_⟩
  have hnotes := notes_blocks_addField (r := r) hsample ho hmem (hname.trans hrule)
  have hquery : name ≠ Stub.queryType := by
    rintro rfl
    exact hsample (by decide)
  have hevents (event : Event) (hevent : event.mentionsType name = true) :
      event ∈ outline.trace ↔ event ∈ o.typeEvents :=
    hnotes.mem_iff (run_blocks_of_outline_eq_ok houtline) hevent
  exact stubsFit_of_mem_iff hscalar hquery ho hevents hshown.defined

/-- A field that gives a list of a type, and takes the same type and another one. -/
def searchField : FieldOptions where
  ruleName := RuleName.objectTypeDefinition
  fieldName := "search"
  fieldType := "[Node!]!"
  description := some "What is alike."
  arguments := [⟨"like", "Node", none⟩, ⟨"filter", "[Filter]", some (.arr [])⟩]
  directives := [⟨"cached", [⟨"seconds", .str "60"⟩]⟩]

theorem stubs_addField_search :
    searchField.problems = [] ∧ searchField.ruleName = RuleName.objectTypeDefinition ∧
      "Node" ∉ builtInScalars ∧ "Node" ∉ sampleNames ∧
      ∃ (g : Grammar) (text : String) (outline : Outline) (definitions : List String),
        (schema.withRoot RuleName.objectTypeDefinition).addField searchField = .ok g ∧
          g.render {} = .ok text ∧ g.outline {} = .ok outline ∧
          outline.ShownIn (Options.layout {}) definitions text ∧
          searchField.StubsFit "Node" definitions ∧
          DefinedOnce "Node" .scalar definitions ∧ "scalar Node" ∈ definitions := by
  have hproblems : searchField.problems = [] := by decide +kernel
  have hrule : searchField.ruleName = RuleName.objectTypeDefinition := rfl
  have hscalar : "Node" ∉ builtInScalars := by decide
  have hsample : "Node" ∉ sampleNames := by decide
  have htakes : searchField.Takes "Node" :=
    ⟨⟨"like", "Node", none⟩, List.mem_cons_self, by decide +kernel⟩
  have hgives : searchField.Gives "Node" := by
    unfold FieldOptions.Gives
    decide +kernel
  have hrenders : ((schema.withRoot RuleName.objectTypeDefinition).addField
      searchField).toOption.any (fun g => (g.render {}).toOption.isSome) = true := by
    decide +kernel
  obtain ⟨g, hadd, hstubs⟩ := stubs_addField {} hproblems hrule hscalar hsample
  rw [hadd] at hrenders
  obtain ⟨text, htext⟩ := Option.isSome_iff_exists.mp hrenders
  have hrender : g.render {} = .ok text := by
    cases hrender : g.render {} with
    | error e =>
        rw [hrender] at htext
        cases htext
    | ok other =>
        rw [hrender] at htext
        cases htext
        rfl
  obtain ⟨outline, definitions, houtline, hshown, hfit⟩ := hstubs text hrender
  have honce := hfit.both htakes hgives
  refine ⟨hproblems, hrule, hscalar, hsample, g, text, outline, definitions, hadd, hrender,
    houtline, hshown, hfit, honce, ?_⟩
  obtain ⟨before, found, after, rfl, hnode, -⟩ := honce
  cases hnode
  exact List.mem_append_right _ List.mem_cons_self

end Documents

end Grammar

end SchemaGrammar
