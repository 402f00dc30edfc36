import SchemaGrammar.Proofs.Render.Rewriting
import SchemaGrammar.Proofs.Transform.References

/-!
# Normalisation keeps what is rendered

Of every choice one alternative is rendered, the first or the first that is the keyword of the
root operation.  A repeated alternative is never the first of its kind, so none that is rendered
is ever dropped.  The order of the rules is not looked at.

**Results.**
* `Element.find?_distinct`: the first element of a kind is still there when repeated ones are
  dropped.
* `Walk.rendersAlike_dedup`: a definition renders as it does without its repeated alternatives.
* `Grammar.render_normalize`: a normalised grammar has the same documents and errors.
-/

namespace SchemaGrammar

namespace Element

/-- The first match among distinct elements is the first match. -/
theorem find?_foldl_distinct
    (p : Element → Bool)
    (es kept : List Element) :
    (es.foldl (fun kept e => if kept.contains e then kept else kept ++ [e]) kept).find? p =
      (kept ++ es).find? p := by
  induction es generalizing kept with
  | nil => rw [List.foldl_nil, List.append_nil]
  | cons e es ih =>
      rw [List.foldl_cons, ih]
      split
      · next he =>
          rw [List.contains_iff_mem] at he
          rw [List.find?_append, List.find?_append, List.find?_cons]
          cases hp : p e with
          | false => rfl
          | true =>
              obtain ⟨d, hd⟩ := Option.isSome_iff_exists.mp
                (List.find?_isSome.mpr ⟨e, he, hp⟩)
              rw [hd, Option.some_or, Option.some_or]
      · rw [List.append_assoc, List.singleton_append]

/-- The first element of a kind is still there when repeated ones are dropped. -/
theorem find?_distinct
    (p : Element → Bool)
    (es : List Element) :
    (distinct es).find? p = es.find? p :=
  find?_foldl_distinct p es []

theorem any_distinct
    (p : Element → Bool)
    (es : List Element) :
    (distinct es).any p = es.any p := by
  rw [Bool.eq_iff_iff, List.any_eq_true, List.any_eq_true]
  simp only [mem_distinct]

end Element

namespace Render

/-- The alternatives that are admitted do not depend on repetitions. -/
theorem admits_distinct
    (c : Context)
    (es : List Element) :
    c.admits (Element.distinct es) = c.admits es := by
  funext e
  unfold Context.admits
  simp only [Element.any_distinct]

namespace Walk

variable {o : Options} {enter : String → Context → Walk String}

theorem rendersAlike_dedupNode
    (e : Element) :
    RendersAlike o enter e.dedupNode e := by
  cases e with
  | oneOf es =>
      refine ⟨looksAlike_oneOf _ _, funext fun c => ?_⟩
      rw [Element.dedupNode, element, element, admits_distinct, firstAdmitted_eq_find?,
        firstAdmitted_eq_find?, Element.find?_distinct]
  | _ => exact ⟨.refl _, rfl⟩

/-- An element renders as it does without the repeated alternatives of its choices. -/
theorem rendersAlike_dedup
    (e : Element) :
    RendersAlike o enter e.dedup e :=
  (congruence_rendersAlike o enter).rebuild rendersAlike_dedupNode e

end Walk

end Render

namespace Grammar

open Render

variable (o : Render.Options) (g : Grammar)

/-- The order of the rules does not matter. -/
theorem render_withSortedRules : g.withSortedRules.render o = g.render o := by
  refine render_congr rfl fun key => ?_
  rw [rule?_withSortedRules]
  cases g.rule? key with
  | none => exact .none
  | some r => exact .some (.refl o r)

/-- Dropping repeated alternatives leaves the document. -/
theorem render_mapRules_dedup :
    (g.mapRules fun rule => rule.definition.dedup).render o = g.render o := by
  refine render_congr rfl fun key => ?_
  rw [rule?_mapRules]
  cases g.rule? key with
  | none => exact .none
  | some r => exact .some ⟨rfl, fun _ => Walk.rendersAlike_dedup r.definition⟩

/-- **Rendering a normalised grammar.**  It gives the same document, or fails in the same way. -/
theorem render_normalize
    (n : NormalizeOptions) :
    (g.normalize n).render o = g.render o := by
  have hdeduped : (if n.removeDuplicates then g.mapRules fun rule => rule.definition.dedup
      else g).render o = g.render o := by
    split
    · exact render_mapRules_dedup o g
    · rfl
  unfold normalize
  dsimp only
  split
  · rw [render_withSortedRules, hdeduped]
  · exact hdeduped

end Grammar

end SchemaGrammar
