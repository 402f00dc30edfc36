import SchemaGrammar.Grammar.Basic
import SchemaGrammar.Plugin.OptionMap

/-!
# Normalised grammars

A choice lists each alternative once, at its first place, and the rules stand in the order of
their keys.

**Results.**
* `Element.dedup` drops repeated alternatives, innermost choices first.
* `Grammar.normalize` does so for every rule and sorts the rules.
* `Grammar.normalize_induction`: what holds before, or without repeated alternatives, and is
  kept by sorting, holds of the normal form.
-/

namespace SchemaGrammar

/-- What normalisation does. -/
structure NormalizeOptions where
  /-- The rules are sorted by key. -/
  sortRules : Bool := true
  /-- Repeated alternatives are dropped. -/
  removeDuplicates : Bool := true
  deriving DecidableEq, Inhabited

namespace NormalizeOptions

def shape : Shape NormalizeOptions where
  title := "struct NormalizeOptions"
  fields :=
    [.withDefault "sortRules" .boolean fun b o => { o with sortRules := b },
      .withDefault "removeDuplicates" .boolean fun b o => { o with removeDuplicates := b }]
  start := {}
  closed := true

def toJson (o : NormalizeOptions) : Json :=
  .obj [("sortRules", .bool o.sortRules), ("removeDuplicates", .bool o.removeDuplicates)]

end NormalizeOptions

namespace Element

/-- The elements of a list without those that occur before. -/
def distinct (es : List Element) : List Element :=
  es.foldl (fun kept e => if kept.contains e then kept else kept ++ [e]) []

/-- A choice without its repeated alternatives; any other node as it is. -/
def dedupNode : Element → Element
  | .oneOf es => .oneOf (distinct es)
  | e => e

/-- The element with the repeated alternatives of all choices dropped, innermost first. -/
def dedup (e : Element) : Element := e.rebuild dedupNode

end Element

/-- The grammar in normal form. -/
def Grammar.normalize (o : NormalizeOptions) (g : Grammar) : Grammar :=
  let deduped := if o.removeDuplicates then g.mapRules fun rule => rule.definition.dedup else g
  if o.sortRules then deduped.withSortedRules else deduped

/-- The two steps of normalisation, one after the other. -/
@[elab_as_elim]
theorem Grammar.normalize_induction
    {motive : Grammar → Prop}
    (o : NormalizeOptions)
    (g : Grammar)
    (kept : o.removeDuplicates = false → motive g)
    (deduped : o.removeDuplicates = true →
      motive (g.mapRules fun rule => rule.definition.dedup))
    (sorted : o.sortRules = true → ∀ h, motive h → motive h.withSortedRules) :
    motive (g.normalize o) := by
  have hdeduped : motive (if o.removeDuplicates then g.mapRules fun rule => rule.definition.dedup
      else g) := by
    split
    · next h => exact deduped h
    · next h => exact kept (Bool.of_not_eq_true h)
  unfold normalize
  dsimp only
  split
  · next h => exact sorted h _ hdeduped
  · exact hdeduped

end SchemaGrammar
