import SchemaGrammar.Grammar.Basic

/-!
# Reachable rules

A rule is reachable if a chain of references leads to it from the root.  The reachable rules
are collected by a loop over a stack of names that are still to be visited.

**Algorithm.**  The stack starts with the root.  The name on top is taken off; if it is the
key of a rule that has not been reached yet, it is reached now and the names that its
definition refers to go onto the stack, the last of them on top.

**Results.**
* The loop ends: a step either reaches one more key or leaves the keys as they are and takes
  a name off the stack.
* `Grammar.Reachable` is the relation of which the loop computes the members.
-/

namespace SchemaGrammar

namespace Grammar

/-- A rule reached from the root by a chain of references between keys. -/
inductive Reachable (g : Grammar) : String → Prop
  | root :
      g.contains g.root = true →
      Reachable g g.root
  | step {key name : String} {rule : Rule} :
      Reachable g key →
      g.rule? key = some rule →
      name ∈ rule.definition.references →
      g.contains name = true →
      Reachable g name

/-- The keys that are not among `reached`. -/
def unreached (g : Grammar) (reached : List String) : List String :=
  g.keys.filter fun key => !reached.contains key

theorem mem_keys_of_rule?
    {g : Grammar}
    {key : String}
    {rule : Rule}
    (h : g.rule? key = some rule) :
    key ∈ g.keys := by
  have hl : g.rules.entries.lookup key = some rule := h
  show key ∈ g.rules.entries.map Prod.fst
  revert hl
  generalize g.rules.entries = es
  intro hl
  induction es with
  | nil => simp at hl
  | cons e es ih =>
      obtain ⟨k, v⟩ := e
      by_cases hk : key = k
      · simp [hk]
      · have : (key == k) = false := by simpa using hk
        rw [List.lookup_cons, this] at hl
        simpa using .inr (by simpa using ih hl)

theorem length_filter_lt
    {α : Type}
    {p q : α → Bool}
    {l : List α}
    {a : α}
    (himp : ∀ x, q x = true → p x = true)
    (ha : a ∈ l)
    (hp : p a = true)
    (hq : q a = false) :
    (l.filter q).length < (l.filter p).length := by
  induction l with
  | nil => simp at ha
  | cons b l ih =>
      have hle : (l.filter q).length ≤ (l.filter p).length := by
        rw [← List.countP_eq_length_filter, ← List.countP_eq_length_filter]
        exact List.countP_mono_left fun x _ => himp x
      rcases List.mem_cons.mp ha with rfl | ha
      · simp only [List.filter_cons, hp, hq, if_true, List.length_cons, Bool.false_eq_true,
          if_false]
        omega
      · have := ih ha
        cases hpb : p b <;> cases hqb : q b
        · simpa [List.filter_cons, hpb, hqb] using this
        · exact absurd (himp b hqb) (by simp [hpb])
        · simp only [List.filter_cons, hpb, hqb, if_true, List.length_cons, Bool.false_eq_true,
            if_false]
          omega
        · simpa [List.filter_cons, hpb, hqb] using this

/-- Reaching a key leaves fewer keys unreached. -/
theorem unreached_cons_lt
    {g : Grammar}
    {reached : List String}
    {key : String}
    {rule : Rule}
    (hrule : g.rule? key = some rule)
    (hnew : reached.contains key = false) :
    (g.unreached (key :: reached)).length < (g.unreached reached).length := by
  refine length_filter_lt (a := key) ?_ (mem_keys_of_rule? hrule) (by simpa using hnew) (by simp)
  intro x hx
  simp only [List.contains_cons, Bool.not_or, Bool.and_eq_true] at hx
  exact hx.2

/-- The keys reached from the names on the stack, in addition to those reached already. -/
def explore (g : Grammar) (reached : List String) : (stack : List String) → List String
  | [] => reached
  | name :: stack =>
      match _hrule : g.rule? name with
      | none => explore g reached stack
      | some rule =>
          if reached.contains name then explore g reached stack
          else explore g (name :: reached) (rule.definition.references.reverse ++ stack)
termination_by stack => ((g.unreached reached).length, stack.length)
decreasing_by
  · exact Prod.Lex.right _ (by simp)
  · exact Prod.Lex.right _ (by simp)
  · exact Prod.Lex.left _ _ (unreached_cons_lt _hrule (by simp_all))

/-- The keys of the rules that are reachable from the root. -/
def reachable (g : Grammar) : List String := explore g [] [g.root]

end Grammar

end SchemaGrammar
