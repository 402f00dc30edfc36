import Mathlib.Data.List.Chain
import SchemaGrammar.Proofs.Grammar.Address
import SchemaGrammar.Proofs.Grammar.Reachability

/-!
# The rounds of the search for reachable rules

A round of the search takes one name off the stack, and puts names onto it only when it reaches a
key for the first time, as many as the definition under the key has references.  So there are as
many rounds as names on the stack at the beginning and references in the rules that are reached,
repetitions and names without a rule included, and a cycle adds nothing to them.

**Results.**
* `Grammar.exists_afterRounds`: how many rounds there are from any state, and what they end with.
* `Grammar.reachable_iff_chained`: a key is reachable if a chain of keys leads to it.
* `Grammar.reachable_exact`: what the search ends with, after how many rounds, and what validation
  warns of.
-/

namespace SchemaGrammar

theorem Element.nonTerminal_mem_walk_iff
    {e : Element}
    {name : String} :
    .nonTerminal name ∈ e.walk ↔ name ∈ e.references := by
  unfold references
  rw [List.mem_filterMap]
  constructor
  · exact fun h => ⟨_, h, rfl⟩
  · rintro ⟨d, hd, hname⟩
    rw [nonTerminal?_eq_some_iff.mp hname] at hd
    exact hd

namespace Grammar

variable {g : Grammar}

section Rounds

/-- The keys reached so far, and the names that are still to be visited. -/
structure Search where
  reached : List String
  stack : List String
  deriving DecidableEq

/-- The state after one round, in which the name on top of the stack is visited.  The search is
over when the stack is empty. -/
def round? (g : Grammar) : Search → Option Search
  | ⟨_, []⟩ => none
  | ⟨reached, name :: stack⟩ =>
      match g.rule? name with
      | none => some ⟨reached, stack⟩
      | some rule =>
          if reached.contains name then some ⟨reached, stack⟩
          else some ⟨name :: reached, rule.definition.references.reverse ++ stack⟩

/-- The state after some rounds, unless the search is over before. -/
def afterRounds (g : Grammar) : Nat → Search → Option Search
  | 0, s => some s
  | n + 1, s => (g.round? s).bind (g.afterRounds n)

/-- The names that a round puts onto the stack when it reaches a key. -/
def referencesUnder (g : Grammar) (key : String) : List String :=
  (g.rule? key).elim [] fun rule => rule.definition.references

/-- More rounds are one round and then the others. -/
theorem afterRounds_succ
    {s t : Search}
    (h : g.round? s = some t)
    (n : Nat) :
    g.afterRounds (n + 1) s = g.afterRounds n t := by
  rw [afterRounds, h]
  rfl

/-- A name without a rule, or of a key that has been reached before, is taken off the stack. -/
theorem round?_skip
    {reached : List String}
    {name : String}
    (h : g.rule? name = none ∨ reached.contains name = true)
    (stack : List String) :
    g.round? ⟨reached, name :: stack⟩ = some ⟨reached, stack⟩ := by
  rw [round?]
  cases hrule : g.rule? name with
  | none => rfl
  | some rule =>
      rcases h with hnone | hold
      · rw [hrule] at hnone
        cases hnone
      · exact if_pos hold

/-- A key that has not been reached before leaves the names in its definition on the stack. -/
theorem round?_visit
    {reached : List String}
    {name : String}
    {rule : Rule}
    (hrule : g.rule? name = some rule)
    (hnew : ¬ reached.contains name = true)
    (stack : List String) :
    g.round? ⟨reached, name :: stack⟩ =
      some ⟨name :: reached, rule.definition.references.reverse ++ stack⟩ := by
  rw [round?, hrule]
  exact if_neg hnew

theorem referencesUnder_eq
    {key : String}
    {rule : Rule}
    (h : g.rule? key = some rule) :
    g.referencesUnder key = rule.definition.references := by
  rw [referencesUnder, h]
  rfl

/-- **The search ends.**  From any state there are as many rounds as names on the stack, and
references in the rules that are reached on the way. -/
theorem exists_afterRounds
    (reached stack : List String) :
    ∃ visited : List String, g.explore reached stack = visited ++ reached ∧
      g.afterRounds (stack.length + (visited.flatMap g.referencesUnder).length) ⟨reached, stack⟩ =
        some ⟨g.explore reached stack, []⟩ := by
  fun_induction explore g reached stack with
  | case1 reached => exact ⟨[], rfl, rfl⟩
  | case2 reached name stack hnone ih =>
      obtain ⟨visited, hvisited, hrounds⟩ := ih
      refine ⟨visited, hvisited, ?_⟩
      rw [List.length_cons, Nat.add_right_comm, afterRounds_succ (round?_skip (.inl hnone) stack)]
      exact hrounds
  | case3 reached name stack rule hrule hold ih =>
      obtain ⟨visited, hvisited, hrounds⟩ := ih
      refine ⟨visited, hvisited, ?_⟩
      rw [List.length_cons, Nat.add_right_comm, afterRounds_succ (round?_skip (.inr hold) stack)]
      exact hrounds
  | case4 reached name stack rule hrule hnew ih =>
      obtain ⟨visited, hvisited, hrounds⟩ := ih
      refine ⟨visited ++ [name], by rw [hvisited, List.append_assoc]; rfl, ?_⟩
      have hcount : (name :: stack).length +
            ((visited ++ [name]).flatMap g.referencesUnder).length =
          (rule.definition.references.reverse ++ stack).length +
            (visited.flatMap g.referencesUnder).length + 1 := by
        rw [List.flatMap_append, List.flatMap_singleton, referencesUnder_eq hrule,
          List.length_cons, List.length_append, List.length_append, List.length_reverse]
        omega
      rw [hcount, afterRounds_succ (round?_visit hrule hnew stack)]
      exact hrounds

/-- No key is reached twice. -/
theorem nodup_explore
    {reached : List String}
    (h : reached.Nodup)
    (stack : List String) :
    (g.explore reached stack).Nodup := by
  fun_induction explore g reached stack with
  | case1 => exact h
  | case2 _ _ _ _ ih => exact ih h
  | case3 _ _ _ _ _ _ ih => exact ih h
  | case4 reached name stack rule hrule hnew ih =>
      exact ih (List.nodup_cons.mpr ⟨fun hmem => hnew (List.contains_iff_mem.mpr hmem), h⟩)

end Rounds

section Chains

variable {key name : String}

/-- The definition under one key names another key. -/
def RefersToKey (g : Grammar) (key name : String) : Prop :=
  name ∈ g.keys ∧ ∃ rule, g.rule? key = some rule ∧ .nonTerminal name ∈ rule.definition.walk

/-- A chain of keys leads from the root to a key, each of them named in the definition under the
one before. -/
def Chained (g : Grammar) (key : String) : Prop :=
  g.root ∈ g.keys ∧ ∃ names : List String,
    (g.root :: names).IsChain g.RefersToKey ∧ (g.root :: names).getLast? = some key

/-- A key is reachable along steps from the root to keys. -/
theorem reachable_iff_reflTransGen :
    g.Reachable key ↔ g.root ∈ g.keys ∧ Relation.ReflTransGen g.RefersToKey g.root key := by
  constructor
  · intro h
    induction h with
    | root hroot => exact ⟨contains_iff_mem_keys.mp hroot, .refl⟩
    | step _ hrule hname hdefined ih =>
        refine ⟨ih.1, ih.2.tail ⟨contains_iff_mem_keys.mp hdefined, _, hrule, ?_⟩⟩
        exact Element.nonTerminal_mem_walk_iff.mpr hname
  · rintro ⟨hroot, hchain⟩
    induction hchain with
    | refl => exact .root (contains_iff_mem_keys.mpr hroot)
    | tail _ hstep ih =>
        obtain ⟨hdefined, rule, hrule, hname⟩ := hstep
        exact ih.step hrule (Element.nonTerminal_mem_walk_iff.mp hname)
          (contains_iff_mem_keys.mpr hdefined)

theorem reachable_iff_chained :
    g.Reachable key ↔ g.Chained key := by
  rw [reachable_iff_reflTransGen]
  refine and_congr_right fun _ => ⟨fun h => ?_, ?_⟩
  · obtain ⟨names, hchain, hlast⟩ := List.exists_isChain_cons_of_relationReflTransGen h
    exact ⟨names, hchain, by rw [List.getLast?_eq_some_getLast (List.cons_ne_nil _ _), hlast]⟩
  · rintro ⟨names, hchain, hlast⟩
    refine List.relationReflTransGen_of_exists_isChain_cons names hchain ?_
    rw [List.getLast?_eq_some_getLast (List.cons_ne_nil _ _)] at hlast
    exact Option.some.inj hlast

end Chains

open scoped Classical in
/-- **Reachable rules.**  The search for reachable rules ends after as many rounds as there are
references in the rules that it has reached, and one more for the root.  It ends with the keys to
which a chain of keys leads from the root, each of them once; validation warns of every other key,
in the order of the rules. -/
theorem reachable_exact
    (g : Grammar) :
    g.afterRounds (1 + (g.reachable.flatMap g.referencesUnder).length) ⟨[], [g.root]⟩ =
        some ⟨g.reachable, []⟩ ∧
      g.reachable.Nodup ∧
      (∀ key, key ∈ g.reachable ↔ g.Chained key) ∧
      (g.root ∉ g.keys → g.reachable = []) ∧
      g.keys.Nodup ∧
      g.validate.warnings = (g.keys.filter fun key => ¬ g.Chained key).map .unreferencedRule := by
  have hexact : ∀ key, key ∈ g.reachable ↔ g.Chained key :=
    fun key => mem_reachable_iff.trans reachable_iff_chained
  refine ⟨?_, nodup_explore List.nodup_nil _, hexact, fun hroot => ?_, g.rules.nodup_keys, ?_⟩
  · obtain ⟨visited, hvisited, hrounds⟩ := g.exists_afterRounds [] [g.root]
    have hreachable : g.reachable = visited := hvisited.trans (List.append_nil visited)
    rw [← hreachable] at hrounds
    exact hrounds
  · exact List.eq_nil_iff_forall_not_mem.mpr fun key hkey => hroot ((hexact key).mp hkey).1
  · show g.reachabilityIssues = _
    unfold reachabilityIssues
    refine congrArg (List.map _) (List.filter_congr fun key _ => ?_)
    rw [Bool.eq_iff_iff, decide_eq_true_iff, ← hexact]
    simp

end Grammar

end SchemaGrammar
