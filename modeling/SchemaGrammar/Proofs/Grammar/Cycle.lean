import Mathlib.Logic.Relation
import SchemaGrammar.Grammar.Reachability
import SchemaGrammar.Proofs.Grammar.WellFormed

/-!
# Chains of references

A rule refers to the names in its definition.  Where no chain of references returns to the
rule that it started from, every step along a chain leaves fewer keys that can still be
reached, and no chain is longer than the list of the rules.

**Results.**
* `Grammar.length_below_lt`: without cycles, fewer keys are below a name than below the rule
  that refers to it.
-/

namespace SchemaGrammar.Grammar

variable {g : Grammar}

/-- The definition under a key refers to a name. -/
def RefersTo (g : Grammar) (key name : String) : Prop :=
  ∃ rule, g.rule? key = some rule ∧ name ∈ rule.definition.references

/-- No rule reaches itself by a chain of references. -/
def Acyclic (g : Grammar) : Prop := ∀ key, ¬ Relation.TransGen g.RefersTo key key

open scoped Classical in
/-- The keys that a chain of references leads to from a key, the key itself included. -/
noncomputable def below (g : Grammar) (key : String) : List String :=
  g.keys.filter fun k => decide (Relation.ReflTransGen g.RefersTo key k)

theorem length_below_le
    (key : String) :
    (g.below key).length ≤ g.rules.size :=
  calc (g.below key).length ≤ g.keys.length := List.length_filter_le _ _
    _ = g.rules.size := List.length_map _

theorem length_below_pos
    {key : String}
    (hkey : g.contains key = true) :
    0 < (g.below key).length := by
  classical
  exact List.length_pos_of_mem
    (List.mem_filter.mpr ⟨contains_iff_mem_keys.mp hkey, decide_eq_true .refl⟩)

/-- Without cycles, fewer keys are below a name than below the rule that refers to it. -/
theorem length_below_lt
    (hg : g.Acyclic)
    {key name : String}
    (hkey : g.contains key = true)
    (h : g.RefersTo key name) :
    (g.below name).length < (g.below key).length := by
  classical
  refine length_filter_lt ?_ (contains_iff_mem_keys.mp hkey) ?_ ?_
  · intro k hk
    rw [decide_eq_true_iff] at hk ⊢
    exact .head h hk
  · exact decide_eq_true .refl
  · refine decide_eq_false fun hback => ?_
    exact hg key (.head' h hback)

/-- A grammar has no cycles if a rank falls along every reference. -/
theorem acyclic_of_rank
    (rank : String → Nat)
    (hrank : ∀ {key name : String}, g.RefersTo key name → rank name < rank key) :
    g.Acyclic := by
  have hchain : ∀ {key name : String},
      Relation.TransGen g.RefersTo key name → rank name < rank key := by
    intro key name h
    induction h with
    | single h => exact hrank h
    | tail _ h ih => exact Nat.lt_trans (hrank h) ih
  exact fun key h => Nat.lt_irrefl _ (hchain h)

end SchemaGrammar.Grammar
