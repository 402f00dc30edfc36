import SchemaGrammar.Proofs.Render.Closure
import SchemaGrammar.Proofs.Transform.FieldText

/-!
# A document with one field

A grammar whose only rule is a field gives a document that begins with the text of the field, as
it is written in a schema.  What follows are the stubs of the types and directives that the field
uses.

**Results.**
* `Grammar.outline_single`: the walk over a grammar whose only rule is literal.
* `FieldOptions.render_field_exact`: the document of a field.
-/

namespace SchemaGrammar

open Render Render.Walk

namespace Grammar

/-- The grammar of a single rule, which is its root. -/
def single (root : String) (definition : Element) : Grammar := .ofRules root [⟨root, definition⟩]

section Single

variable {root text : String} {definition : Element}

theorem rule?_single
    (root : String)
    (definition : Element)
    (key : String) :
    (single root definition).rule? key = if key = root then some ⟨root, definition⟩ else none :=
  rule?_withRule (empty root) ⟨root, definition⟩ key

/-- The only rule is entered, and notes down what its definition does. -/
theorem run_rule_single
    {o : Render.Options}
    {events : List Event}
    (hdescriptions : o.includeDescriptions = true)
    (allowance : Nat)
    (hsaid : ∀ enter, Says (Walk.element o enter definition (Context.start.enteringRule root))
      events text) :
    (Walk.rule (single root definition) o (allowance + 1) root .start).run [] =
      .ok (text, events.reverse ++ [.entered root]) := by
  unfold Walk.rule
  rw [rule?_single, if_pos rfl]
  dsimp only
  rw [hdescriptions, Bool.not_true, Bool.false_and, if_neg Bool.false_ne_true, StateT.run_bind,
    StateT.run_get, pure_bind]
  dsimp only
  rw [List.contains_nil, Bool.and_false, if_neg Bool.false_ne_true, StateT.run_bind]
  exact hsaid _ [.entered root]

/-- A grammar of one rule is rendered as one block. -/
theorem run_blocks_single
    {events : List Event}
    (hsaid : ∀ enter, Says (Walk.element {} enter definition (Context.start.enteringRule root))
      events text) :
    (Render.blocks (single root definition) {}).run [] =
      .ok ([text], events.reverse ++ [.entered root]) := by
  have hmain := run_rule_single (o := {}) rfl 63 hsaid
  have hschema : (!(events.reverse ++ [Event.entered root]).contains
      (.entered RuleName.schemaDefinition) &&
        (single root definition).contains RuleName.schemaDefinition) = false := by
    by_cases hroot : root = RuleName.schemaDefinition
    · rw [hroot]
      simp
    · have hnone : (single root definition).contains RuleName.schemaDefinition = false := by
        rw [← Bool.not_eq_true, contains_eq_true_iff]
        rintro ⟨rule, hrule⟩
        rw [rule?_single, if_neg (Ne.symm hroot)] at hrule
        cases hrule
      rw [hnone, Bool.and_false]
  unfold Render.blocks
  simp only [StateT.run_bind, StateT.run_get, pure_bind]
  show (Walk.rule (single root definition) {} 64 root .start).run [] >>= _ = _
  rw [hmain]
  show StateT.run (if _ then _ else _) _ = _
  rw [hschema]
  rfl

/-- The walk over a grammar whose only rule is literal. -/
theorem outline_single
    {events : List Event}
    (hsaid : ∀ enter, Says (Walk.element {} enter definition (Context.start.enteringRule root))
      events text) :
    (single root definition).outline {} =
      .ok ⟨[text], events.reverse ++ [.entered root]⟩ := by
  have hroot : (single root definition).contains (single root definition).root = true :=
    contains_eq_true_iff.mpr ⟨_, (rule?_single root definition root).trans (if_pos rfl)⟩
  unfold outline
  rw [if_pos hroot, run_blocks_single hsaid]

end Single

end Grammar

namespace FieldOptions

variable {o : FieldOptions}

/-- Values that are no texts are not written as a brace. -/
theorem brace_not_mem_valueTexts
    (hvalues : ∀ v ∈ o.values, ∀ text, v ≠ .str text) :
    "\x7b" ∉ o.valueTexts := by
  have htexts : o.valueTexts = o.values.map valueText := by
    unfold valueTexts values
    rw [List.map_append, List.map_flatMap, List.map_flatMap]
    simp only [List.map_map, Function.comp_def]
  rw [htexts, List.mem_map]
  rintro ⟨v, hv, htext⟩
  rw [valueText_eq_compact (hvalues v hv)] at htext
  exact compact_ne_brace v htext

/-- The text of a field opens, with its description or its name. -/
theorem opens_sdlText
    (ho : o.Valid) :
    Opens o.sdlText := by
  have hstart : Opens (descriptionText o.description ++ o.fieldName) := by
    cases o.description with
    | none =>
        rw [descriptionText, String.empty_append]
        exact opens_of_isName ho.fieldName
    | some text => exact ((opens_compact (.str text)).append _).append _
  exact (((hstart.append _).append _).append _).append _

theorem closes_sdlText
    (ho : o.Valid) :
    Closes o.sdlText := by
  have htype : Closes (typeText o.fieldType) :=
    TypeRef.closes_display (TypeRef.isName_namedType ho.fieldType)
  have hdirectives : ∀ text ∈ o.directives.map directiveText, Closes text :=
    List.forall_mem_map.mpr fun d hd => closes_directiveText (ho.directives d hd).1
  have hspaced : (o.directives.map fun d => " " ++ directiveText d) =
      (o.directives.map directiveText).map fun text => " " ++ text := by
    rw [List.map_map]
    rfl
  rw [sdlText, hspaced]
  exact Layout.closes_append_spacedList (htype.append _) hdirectives

/-- **The document of a field.**  If a field without problems is the only rule of a grammar, and
no value in it is a string, the first block of the document is the field as it is written in a
schema. -/
theorem render_field_exact
    (root : String)
    (hproblems : o.problems = [])
    (hvalues : ∀ v ∈ o.values, ∀ text, v ≠ .str text) :
    ∃ field outline rest,
      o.element = .ok field ∧
        (Grammar.single root field).outline {} = .ok outline ∧
        outline.blocks = [o.sdlText] ∧
        (Grammar.single root field).render {} =
          .ok ("\n\n".intercalate (o.sdlText :: rest)) := by
  have ho := valid_of_problems hproblems
  have hparts := part_of_mem_fieldParts (r := {}) Trace.congruence_names ho
    (fun _ _ => Trace.ignoresKind_names _) (fun d _ _ => Trace.ignoresArguments_names d.name)
    fun _ => brace_not_mem_valueTexts hvalues
  have hbraceless : Braceless {} (o.fieldParts.flatMap Element.leaves) :=
    braceless_flatMap fun e he => (hparts e he).braceless
  have hsaid : ∀ enter, Says
      (Walk.element {} enter (.sequence o.fieldParts) (Context.start.enteringRule root))
      (mentions (.sequence o.fieldParts) (Context.start.enteringRule root)) o.sdlText := by
    intro enter
    rw [← said_fieldParts ho hvalues]
    exact says_sequence (fun e he => (hparts e he).sayable) hbraceless _
  have houtline := Grammar.outline_single hsaid
  obtain ⟨rest, hrest⟩ := Layout.document_cons (l := Render.Options.layout {}) rfl
    (opens_sdlText ho) (closes_sdlText ho) _
  refine ⟨_, _, rest, element_eq ho, houtline, rfl, ?_⟩
  rw [Grammar.render, houtline, ← hrest]
  rfl

/-- A field with nested types and values, a type with blanks in it among them. -/
def rowsField : FieldOptions where
  ruleName := "Grid"
  fieldName := "rows"
  fieldType := "[ [ Cell ! ] ] !"
  description := some "The \"cells\" in order."
  arguments :=
    [⟨"first", "Int!", some (.nat 10)⟩, ⟨"order", "[Order]", some (.arr [.str "up", .null])⟩,
      ⟨"after", "Cursor", none⟩]
  directives :=
    [⟨"cached", [⟨"for", .nat 60⟩, ⟨"per", .obj [("user", .bool true)]⟩]⟩, ⟨"internal", []⟩]

theorem render_field_exact_rows :
    rowsField.problems = [] ∧ (∀ v ∈ rowsField.values, ∀ text, v ≠ .str text) ∧
      rowsField.sdlText = "\"The \\\"cells\\\" in order.\"\n" ++
        "rows(first: Int! = 10, order: [Order] = [\"up\",null], after: Cursor): [[Cell!]]!" ++
        " @cached(for: 60, per: \x7b\"user\":true\x7d) @internal" ∧
      ∃ field outline rest,
        rowsField.element = .ok field ∧
          (Grammar.single "Grid" field).outline {} = .ok outline ∧
          outline.blocks = [rowsField.sdlText] ∧
          (Grammar.single "Grid" field).render {} =
            .ok ("\n\n".intercalate (rowsField.sdlText :: rest)) := by
  have hproblems : rowsField.problems = [] := by decide +kernel
  have hvalues : ∀ v ∈ rowsField.values, ∀ text, v ≠ .str text := by
    simp [values, rowsField, Json.nat]
  exact ⟨hproblems, hvalues, by decide +kernel, render_field_exact "Grid" hproblems hvalues⟩

end FieldOptions

end SchemaGrammar
