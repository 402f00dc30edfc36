import SchemaGrammar.Proofs.Render.Literal
import SchemaGrammar.Transform.Field

/-!
# Field lists among the elements of a sequence

A field list is a sequence of three elements.  At the end of another sequence the three elements
may stand for themselves: they are rendered in the same places, and on one line they are joined
to the same text.

**Results.**
* `Walk.sequenceParts_container`: the parts of a field list, whatever stands before.
* `Walk.element_append_container`: a field list at the end of a sequence.
-/

namespace SchemaGrammar

namespace Render.Walk

section Containers

variable {r : Options} {enter : String → Context → Walk String}

theorem element_token
    {text : String}
    (hpunctuator : isPunctuator text = true)
    (hdescription : text ≠ RuleName.description)
    (c : Context) :
    element r enter (.token text) c = pure text := by
  have hshown : r.hides (.token text) = false := by
    unfold Options.hides
    rw [show isDescription (.token text) = false from beq_eq_false_iff_ne.mpr hdescription,
      Bool.and_false]
  have hterminal : terminal text (some (.literal text)) c = pure text := by
    unfold terminal terminalText
    rw [hpunctuator, Bool.or_true]
    rfl
  rw [Element.token, element, ← Element.token, hshown]
  exact hterminal

theorem sequenceParts_cons
    (previous : Option Element)
    (e : Element)
    (es : List Element)
    (c : Context) :
    sequenceParts r enter previous (e :: es) c =
      (do
        let text ← element r enter e
          (if opensFieldList previous e es.head? then c.enteringFieldList else c)
        let parts ← sequenceParts r enter (some e) es c
        return partsOf text e ++ parts) := by
  rw [sequenceParts]
  congr 1
  funext text
  congr 1
  funext parts
  unfold partsOf
  split <;> rfl

/-- The elements of a field list. -/
def containerElements (field : Element) : List Element :=
  [.token "\x7b", .list field, .token "\x7d"]

def containerParts (field : Element) (text : String) : List Part :=
  ⟨"\x7b", false⟩ :: (partsOf text (.list field) ++ [⟨"\x7d", false⟩])

theorem sequenceParts_container
    (previous : Option Element)
    (field : Element)
    (c : Context) :
    sequenceParts r enter previous (containerElements field) c =
      (do
        let text ← element r enter (.list field)
          (if opensFieldList (some (.token "\x7b")) (.list field) (some (.token "\x7d")) then
            c.enteringFieldList else c)
        return containerParts field text) := by
  have hopen : opensFieldList previous (.token "\x7b") (some (.list field)) = false := rfl
  have hclose : opensFieldList (some (.list field)) (.token "\x7d") none = false := rfl
  rw [containerElements, sequenceParts_cons, sequenceParts_cons, sequenceParts_cons,
    sequenceParts, List.head?_cons, List.head?_cons, List.head?_nil, hopen, hclose,
    element_token (by decide) (by decide), element_token (by decide) (by decide)]
  simp only [pure_bind, bind_assoc]
  rfl

theorem isPlain_of_mem_containerParts
    {field : Element}
    {text : String} :
    ∀ p ∈ containerParts field text, p.IsPlain := by
  intro p hp
  simp only [containerParts, List.mem_cons, List.mem_append, List.not_mem_nil, or_false] at hp
  rcases hp with rfl | hp | rfl
  · exact ⟨by decide, rfl⟩
  · obtain ⟨htext, rfl⟩ := eq_of_mem_partsOf hp
    exact ⟨htext, rfl⟩
  · exact ⟨by decide, rfl⟩

/-- What comes behind the first element decides nothing about it. -/
theorem opensFieldList_append
    (previous : Option Element)
    (e : Element)
    (es : List Element)
    (field : Element) :
    opensFieldList previous e (es ++ containerElements field).head? =
      opensFieldList previous e (es ++ [Element.container field]).head? := by
  cases es with
  | nil => cases e <;> rfl
  | cons d es => rfl

/-- On one line it makes no difference whether a field list is a sequence of its own. -/
theorem sequenceParts_append_container
    (hpretty : r.pretty = false)
    (before : List Element)
    (field : Element)
    (c : Context)
    (previous : Option Element)
    (done : List Part) :
    (do
        let parts ← sequenceParts r enter previous (before ++ containerElements field) c
        return r.layout.join (done ++ parts)) =
      (do
        let parts ← sequenceParts r enter previous (before ++ [.container field]) c
        return r.layout.join (done ++ parts)) := by
  induction before generalizing previous done with
  | nil =>
      have hcontext : c.forSequence (containerElements field) = c := rfl
      have hopens : opensFieldList previous (.container field) none = false := rfl
      have hjoin : ∀ text, r.layout.join (done ++ containerParts field text) =
          r.layout.join (done ++
            partsOf (r.layout.sequence (containerParts field text)) (.container field)) := by
        intro text
        have hne : containerParts field text ≠ [] := List.cons_ne_nil _ _
        have hgroup := Layout.joins_group (l := r.layout)
          isPlain_of_mem_containerParts hne done []
        have hsequence : r.layout.sequence (containerParts field text) =
            r.layout.join (containerParts field text) :=
          Layout.sequence_eq_join fun h => absurd (hpretty.symm.trans h) Bool.false_ne_true
        have hshown : r.layout.join (containerParts field text) ≠ "" :=
          Layout.join_ne_empty (fun p hp => (isPlain_of_mem_containerParts p hp).text) hne
        rw [hsequence, partsOf_of_ne_empty hshown]
        rw [List.append_nil, List.append_nil] at hgroup
        exact hgroup.symm
      rw [List.nil_append, List.nil_append, sequenceParts_container, sequenceParts_cons,
        sequenceParts, List.head?_nil, hopens, Element.container, ← containerElements, if_neg
        Bool.false_ne_true, element, hcontext, sequenceParts_container]
      simp only [bind_assoc, pure_bind, List.append_nil, hjoin]
      rfl
  | cons e before ih =>
      rw [List.cons_append, List.cons_append, sequenceParts_cons, sequenceParts_cons,
        opensFieldList_append]
      simp only [bind_assoc, pure_bind, ← List.append_assoc, ih]

/-- A container as the last part of a sequence, written out on one line. -/
theorem element_append_container
    (hpretty : r.pretty = false)
    {before : List Element}
    (hne : before ≠ [])
    (field : Element)
    (c : Context) :
    element r enter (.sequence (before ++ containerElements field)) c =
      element r enter (.sequence (before ++ [.container field])) c := by
  have hcontext : c.forSequence (before ++ containerElements field) =
      c.forSequence (before ++ [.container field]) := by
    obtain ⟨e, es, rfl⟩ := List.exists_cons_of_ne_nil hne
    rfl
  have hsequence : ∀ parts, r.layout.sequence parts = r.layout.join ([] ++ parts) := fun parts =>
    Layout.sequence_eq_join fun h => absurd (hpretty.symm.trans h) Bool.false_ne_true
  rw [element, element, hcontext]
  simp only [hsequence]
  exact sequenceParts_append_container hpretty before field _ none []

end Containers

end Render.Walk

end SchemaGrammar
