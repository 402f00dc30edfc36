import SchemaGrammar.Proofs.Render.Container
import SchemaGrammar.Transform.Simplify

/-!
# Field lists in simplified definitions

A field list is put into a definition in the place of another one, or behind its elements.  When
the definition is simplified, a field list behind other elements is spliced into them, and its
field is simplified.  The definitions of the schema grammar are simple as they are.

**Results.**
* `Element.spliced_simplify_of_sayable`: a simplified literal element is made of its terminals.
* `Schema.containers`: where the rules of the schema grammar have their field lists.
* `similar_of_holdsContainer`, `similar_of_getsContainer`: a definition with a field list goes
  the same way when it is simplified, if the field does.
-/

namespace SchemaGrammar

open Render Render.Walk

namespace Element

section Simplified

/-- One step of splicing gives the elements back. -/
theorem spliced_collapse
    {es : List Element}
    (h : ∀ e ∈ es, e.spliced = [e]) :
    (collapse {} .sequence es).spliced = es := by
  match es, h with
  | [], _ => rfl
  | [e], h => exact h e List.mem_cons_self
  | _ :: _ :: _, _ => rfl

/-- Leaves are not spliced any further. -/
theorem spliced_of_mem_leaves
    {e leaf : Element}
    (h : leaf ∈ e.leaves) :
    leaf.spliced = [leaf] := by
  have hkind := (List.mem_filter.mp h).2
  cases leaf with
  | sequence es => simp [kind] at hkind
  | _ => rfl

/-- A sequence is simplified element by element and spliced. -/
theorem simplify_sequence
    (es : List Element) :
    (sequence es).simplify {} =
      collapse {} .sequence (es.flatMap fun e => (e.simplify {}).spliced) := by
  rw [simplify, rebuild_sequence, simplifyNode, if_pos rfl, List.flatMap_map]
  rfl

theorem spliced_simplify_of_plain
    {e : Element}
    (h : e.Plain) :
    (e.simplify {}).spliced = e.leaves := by
  induction h with
  | literal _ => rfl
  | @sequence es _ ih =>
      rw [simplify_sequence, List.flatMap_congr ih, leaves_sequence]
      refine spliced_collapse fun leaf hleaf => ?_
      obtain ⟨e, -, hleaf⟩ := List.mem_flatMap.mp hleaf
      exact spliced_of_mem_leaves hleaf

/-- What is spliced of an element that can be said is its leaves. -/
theorem spliced_simplify_of_sayable
    {e : Element}
    (h : e.Sayable) :
    (e.simplify {}).spliced = e.leaves := by
  cases h with
  | plain h => exact spliced_simplify_of_plain h
  | description text => rfl

end Simplified

end Element

namespace Element

section Places

/-- Elements that simplification keeps, also among the elements of a sequence. -/
def Settled (es : List Element) : Prop := ∀ e ∈ es, e.simplify {} = e ∧ e.spliced = [e]

instance (es : List Element) : Decidable (Settled es) := by unfold Settled; infer_instance

/-- A definition that has a place of its own for a field list. -/
inductive HoldsContainer (d : Element) : Prop
  | whole (h : ∀ x, d.withContainer x = x)
  | optional (hne : d.children.dropLast ≠ []) (hsettled : Settled d.children.dropLast)
      (h : ∀ x, d.withContainer x = .sequence (d.children.dropLast ++ [.optional x]))

/-- A definition that gets a field list as an element of a sequence, behind others. -/
structure GetsContainer (d : Element) (before : List Element) : Prop where
  ne_nil : before ≠ []
  settled : Settled before
  withContainer : ∀ x, d.withContainer x = .sequence (before ++ [x])

theorem getsContainer_of_none
    {d : Element}
    (hne : d.spliced ≠ [])
    (hsettled : Settled d.spliced)
    (hnone : ∀ x, replaceContainer? x d = none) :
    GetsContainer d d.spliced := by
  refine ⟨hne, hsettled, fun x => ?_⟩
  rw [Element.withContainer, hnone, Option.getD_none]
  cases d <;> rfl

/-- Settled elements are not changed by simplification. -/
theorem Settled.flatMap_eq
    {es : List Element}
    (h : Settled es) :
    (es.flatMap fun e => (e.simplify {}).spliced) = es := by
  rw [List.flatMap_congr fun e he => show (e.simplify {}).spliced = [e] by
    rw [(h e he).1, (h e he).2], List.flatMap_singleton']

/-- Behind settled elements only the last one is simplified. -/
theorem simplify_append
    {before : List Element}
    (h : Settled before)
    (last : Element) :
    ((before ++ [last]).flatMap fun e => (e.simplify {}).spliced) =
      before ++ (last.simplify {}).spliced := by
  rw [List.flatMap_append, List.flatMap_singleton, h.flatMap_eq]

theorem collapse_append
    {before : List Element}
    (hne : before ≠ [])
    {after : List Element}
    (hafter : after ≠ []) :
    collapse {} .sequence (before ++ after) = .sequence (before ++ after) := by
  obtain ⟨e, es, rfl⟩ := List.exists_cons_of_ne_nil hne
  obtain ⟨d, ds, rfl⟩ := List.exists_cons_of_ne_nil hafter
  cases es <;> rfl

theorem simplify_container
    (field : Element) :
    (container field).simplify {} = container (field.simplify {}) :=
  rfl

end Places

end Element

namespace Schema

open RuleName

/-- The rules with a place of their own for a field list. -/
def fieldListRules : List String :=
  [objectTypeDefinition, interfaceTypeDefinition, inputObjectTypeDefinition, fieldsDefinition,
    inputFieldsDefinition, enumValuesDefinition]

/-- The definitions of the schema are simple already. -/
theorem simplify_definition : ∀ r ∈ rules, r.definition.simplify {} = r.definition := by
  decide

/-- Every rule of the grammar has a place for a field list, or gets one behind its elements. -/
theorem containers :
    ∀ r ∈ rules, r.definition.HoldsContainer ∨
      r.name ∉ fieldListRules ∧ ∃ before, r.definition.GetsContainer before := by
  intro r hr
  simp only [rules, List.mem_cons, List.not_mem_nil, or_false] at hr
  rcases hr with rfl | rfl | rfl | rfl | rfl | rfl | rfl | rfl | rfl | rfl | rfl | rfl | rfl | rfl |
    rfl | rfl | rfl | rfl | rfl | rfl | rfl | rfl | rfl | rfl | rfl | rfl | rfl | rfl | rfl | rfl |
    rfl | rfl | rfl | rfl | rfl | rfl | rfl | rfl | rfl
  all_goals first
    | exact .inr ⟨by decide, _, Element.getsContainer_of_none (by decide) (by decide) fun _ => rfl⟩
    | exact .inl (.whole fun _ => rfl)
    | exact .inl (.optional (by decide) (by decide) fun _ => rfl)
    | exact .inr ⟨by decide, [maybe description, .token "schema", maybe directives],
        by decide, by decide, fun _ => rfl⟩

end Schema

namespace Render

variable {R : Trace → Trace → Prop} {r : Options} {enter enter' : String → Context → Walk String}
  {d field : Element} {es : List Element}

/-- Whether a field list is rendered the same with its field simplified depends on the field. -/
theorem rendersSimilarly_container
    (hR : Trace.Congruence R)
    (henter : ∀ name c, Similar R (enter name c) (enter' name c))
    (hfield : RendersSimilarly R r enter enter' d field) :
    RendersSimilarly R r enter enter' (.container d) (.container field) := by
  have htoken : ∀ text, RendersSimilarly R r enter enter' (.token text) (.token text) :=
    fun text => rendersSimilarly_refl hR henter _
  exact .sequence (.cons (htoken _) (.cons hfield.list (.cons (htoken _) .nil)))

/-- Behind the same elements, similar ones are rendered similarly. -/
theorem rendersSimilarly_append
    (hR : Trace.Congruence R)
    (henter : ∀ name c, Similar R (enter name c) (enter' name c))
    (before : List Element)
    (hlast : RendersSimilarly R r enter enter' d field) :
    RendersSimilarly R r enter enter' (.sequence (before ++ [d])) (.sequence (before ++ [field])) :=
  .sequence (List.rel_append
    (List.forall₂_same.mpr fun e _ => rendersSimilarly_refl hR henter e) (.cons hlast .nil))

/-- A definition with a place of its own for a field list. -/
theorem similar_of_holdsContainer
    (hR : Trace.Congruence R)
    (henter : ∀ name c, Similar R (enter name c) (enter' name c))
    (hsimplify : field.simplify {} = .sequence es)
    (hfield : RendersSimilarly R r enter enter' (.sequence es) field)
    (hd : d.HoldsContainer)
    (c : Context) :
    Similar R (element r enter ((d.withContainer (.container field)).simplify {}) c)
      (element r enter' (d.withContainer (.container field)) c) := by
  have hcontainer := rendersSimilarly_container hR henter hfield
  cases hd with
  | whole h =>
      rw [h, Element.simplify_container, hsimplify]
      exact hcontainer.renders c
  | optional hne hsettled h =>
      have hoptional : ((Element.optional (.container field)).simplify {}).spliced =
          [.optional (.container (.sequence es))] := by
        rw [← hsimplify, ← Element.simplify_container]
        rfl
      rw [h, Element.simplify_sequence, Element.simplify_append hsettled, hoptional,
        Element.collapse_append hne (List.cons_ne_nil _ _)]
      exact (rendersSimilarly_append hR henter _ hcontainer.optional).renders c

/-- A definition that gets a field list behind its elements, rendered on one line. -/
theorem similar_of_getsContainer
    (hR : Trace.Congruence R)
    (henter : ∀ name c, Similar R (enter name c) (enter' name c))
    (hpretty : r.pretty = false)
    (hsimplify : field.simplify {} = .sequence es)
    (hfield : RendersSimilarly R r enter enter' (.sequence es) field)
    {before : List Element}
    (hd : d.GetsContainer before)
    (c : Context) :
    Similar R (element r enter ((d.withContainer (.container field)).simplify {}) c)
      (element r enter' (d.withContainer (.container field)) c) := by
  have hspliced : ((Element.container field).simplify {}).spliced =
      containerElements (.sequence es) := by
    rw [Element.simplify_container, hsimplify]
    rfl
  have hne : containerElements (.sequence es) ≠ [] := List.cons_ne_nil _ _
  rw [hd.withContainer, Element.simplify_sequence, Element.simplify_append hd.settled, hspliced,
    Element.collapse_append hd.ne_nil hne, element_append_container hpretty hd.ne_nil]
  have hcontainer := rendersSimilarly_container hR henter hfield
  exact (rendersSimilarly_append hR henter before hcontainer).renders c

end Render

end SchemaGrammar
