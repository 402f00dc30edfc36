import SchemaGrammar.Proofs.Grammar.Language
import SchemaGrammar.Transform.Simplify

/-!
# Simplification keeps the language

Splicing a sequence into the sequence around it and replacing a group of one element by that
element change how a definition is written and not what it derives.

**Results.**
* `Grammar.equates_simplifyNode`: one step of simplification keeps the language of a node.
* `Grammar.generates_simplify_iff`: the rules of a simplified grammar derive what they derived
  before.
-/

namespace SchemaGrammar.Grammar

variable {g : Grammar}

/-- A part of a sequence derives what the elements derive that it contributes. -/
theorem derives_spliced_iff
    {e : Element}
    {w : List Terminal} :
    g.Derives (.sequence e.spliced) w ↔ g.Derives e w := by
  unfold Element.spliced
  split
  · exact Iff.rfl
  · exact derives_sequence_singleton_iff

/-- Spliced elements have the same words. -/
theorem equates_flatMap_spliced
    (es : List Element) :
    g.Equates (.sequence (es.flatMap Element.spliced)) (.sequence es) := by
  intro w
  induction es generalizing w with
  | nil => exact Iff.rfl
  | cons e es ih =>
      rw [List.flatMap_cons, derives_sequence_append_iff, derives_sequence_cons_iff]
      simp only [derives_spliced_iff, ih _]

theorem equates_collapse
    (o : SimplifyOptions)
    {group : List Element → Element}
    (hgroup : ∀ e, g.Equates (group [e]) e)
    (es : List Element) :
    g.Equates (Element.collapse o group es) (group es) := by
  intro w
  unfold Element.collapse
  split
  · next e =>
      split
      · exact (hgroup e w).symm
      · exact Iff.rfl
  · exact Iff.rfl

theorem equates_oneOf_singleton
    (e : Element) :
    g.Equates (.oneOf [e]) e := by
  intro w
  rw [derives_oneOf_iff]
  simp

/-- One step of simplification keeps the language of a node. -/
theorem equates_simplifyNode
    (o : SimplifyOptions)
    (e : Element) :
    g.Equates (e.simplifyNode o) e := by
  cases e with
  | sequence es =>
      intro w
      rw [Element.simplifyNode, equates_collapse o fun _ _ => derives_sequence_singleton_iff]
      split
      · exact equates_flatMap_spliced es w
      · exact Iff.rfl
  | oneOf es => exact equates_collapse o equates_oneOf_singleton es
  | _ => exact fun _ => Iff.rfl

/-- **Language of a simplified grammar.**  Every rule derives the same strings of terminals
before and after simplification. -/
theorem generates_simplify_iff
    (o : SimplifyOptions)
    (g : Grammar)
    (key : String)
    (w : List Terminal) :
    (g.simplify o).Generates key w ↔ g.Generates key w :=
  generates_mapRules_iff fun _ rule => equates_rebuild (equates_simplifyNode o) rule.definition

end SchemaGrammar.Grammar
