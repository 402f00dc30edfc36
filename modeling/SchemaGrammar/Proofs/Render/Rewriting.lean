import SchemaGrammar.Proofs.Render.Similar

/-!
# Rendering rewritten grammars

Two elements that are rendered the same wherever they stand, and of which the neighbours cannot
tell which one they stand next to, may replace each other inside an element; and definitions
with which it is so may replace each other in a grammar.  Such elements go the same way up to
equality of traces.

**Results.**
* `Walk.congruence_rendersAlike`: rendering alike is kept inside of elements.
* `Grammar.render_congr`: grammars whose definitions render alike have the same documents and
  the same errors.
-/

namespace SchemaGrammar

namespace Render

namespace Walk

variable (o : Options) (enter : String → Context → Walk String)

/-- Two elements that look alike and are rendered the same everywhere. -/
structure RendersAlike (d e : Element) : Prop where
  looks : LooksAlike d e
  renders : element o enter d = element o enter e

section Elements

variable {o} {enter}

/-- To be rendered alike is to be rendered similarly, with equal traces. -/
theorem rendersAlike_iff
    {d e : Element} :
    RendersAlike o enter d e ↔ RendersSimilarly Eq o enter enter d e := by
  constructor
  · intro h
    exact ⟨h.looks, fun c => similar_eq_iff.mpr (congrFun h.renders c)⟩
  · intro h
    exact ⟨h.looks, funext fun c => similar_eq_iff.mp (h.renders c)⟩

theorem rendersSimilarly_map
    {f : Element → Element}
    {es : List Element}
    (h : ∀ e ∈ es, RendersAlike o enter (f e) e) :
    List.Forall₂ (RendersSimilarly Eq o enter enter) (es.map f) es := by
  rw [List.forall₂_map_left_iff]
  exact List.forall₂_same.mpr fun e he => rendersAlike_iff.mp (h e he)

/-- The alternative that is rendered is the first one admitted. -/
theorem firstAdmitted_eq_find?
    (admitted : Element → Bool)
    (es : List Element)
    (c : Context) :
    firstAdmitted o enter admitted es c =
      match es.find? admitted with
      | some e => element o enter e c
      | none => pure "" := by
  induction es with
  | nil => rfl
  | cons e es ih =>
      rw [firstAdmitted, List.find?_cons]
      cases admitted e with
      | true => rfl
      | false => exact ih

variable (o) (enter)

/-- Elements that render alike may replace each other inside an element. -/
theorem congruence_rendersAlike : Element.Congruence (RendersAlike o enter) where
  trans hde hef := ⟨hde.looks.trans hef.looks, hde.renders.trans hef.renders⟩
  sequence h := rendersAlike_iff.mpr (.sequence (rendersSimilarly_map h))
  oneOf h := rendersAlike_iff.mpr (.oneOf (rendersSimilarly_map h))
  optional h := rendersAlike_iff.mpr (rendersAlike_iff.mp h).optional
  list h := rendersAlike_iff.mpr (rendersAlike_iff.mp h).list

end Elements

end Walk

/-- Two rules of one name whose definitions render alike, however rules are entered. -/
structure RulesAlike (o : Options) (r s : Rule) : Prop where
  name : r.name = s.name
  definition : ∀ enter, Walk.RendersAlike o enter r.definition s.definition

theorem RulesAlike.refl
    (o : Options)
    (r : Rule) :
    RulesAlike o r r :=
  ⟨rfl, fun _ => ⟨.refl _, rfl⟩⟩

theorem RulesAlike.similar
    {o : Options}
    {r s : Rule}
    (h : RulesAlike o r s) :
    RulesSimilar Eq o r s where
  name := h.name
  definition henter c := by
    rw [(h.definition _).renders]
    exact (Walk.rendersSimilarly_refl Trace.congruence_eq henter s.definition).renders c

end Render

namespace Grammar

open Render

variable {g h : Grammar} {o : Render.Options}

/-- Grammars whose rules render alike have the same documents and the same errors. -/
theorem render_congr
    (hroot : h.root = g.root)
    (hrules : ∀ key, Option.Rel (RulesAlike o) (h.rule? key) (g.rule? key)) :
    h.render o = g.render o := by
  have hsimilar : ∀ key, Option.Rel (RulesSimilar Eq o) (h.rule? key) (g.rule? key) := by
    intro key
    have hkey := hrules key
    generalize h.rule? key = r, g.rule? key = s at hkey
    cases hkey with
    | none => exact .none
    | some hr => exact .some hr.similar
  have hblocks := Walk.similar_eq_iff.mp (similar_blocks Trace.congruence_eq hroot hsimilar)
  unfold Grammar.render Grammar.outline
  rw [contains_congr hsimilar, hroot, hblocks]

end Grammar

end SchemaGrammar
