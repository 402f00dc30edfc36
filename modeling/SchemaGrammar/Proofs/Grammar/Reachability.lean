import SchemaGrammar.Proofs.Grammar.Cycle

/-!
# The loop collects the reachable rules

At every step of the loop, whatever a reached rule refers to has been reached, waits on the
stack, or is no key.  When the stack is empty nothing waits any more, so the reached keys are
closed under references; and since nothing but reachable names is ever put on the stack, they
are the reachable keys and no others.

**Results.**
* `Grammar.Settled.explore`: what the loop ends with is closed under references.
* `Grammar.mem_reachable_iff`: the loop computes the reachable keys.
* `Grammar.unreferencedRule_mem_warnings_iff`: which rules validation calls unreferenced.
-/

namespace SchemaGrammar.Grammar

variable {g : Grammar} {reached stack : List String} {key name : String}

/-- What the reached rules refer to has been reached, waits on the stack, or is no key. -/
def Settled (g : Grammar) (reached stack : List String) : Prop :=
  ∀ key ∈ reached, ∀ name, g.RefersTo key name → g.contains name = true →
    name ∈ reached ∨ name ∈ stack

/-- A name that has been reached before, or has no rule, may be dropped. -/
theorem Settled.drop
    (h : g.Settled reached (name :: stack))
    (hname : g.contains name = true → name ∈ reached) :
    g.Settled reached stack := by
  intro key hkey other href hother
  rcases h key hkey other href hother with hreached | hstack
  · exact .inl hreached
  · rcases List.mem_cons.mp hstack with rfl | hstack
    · exact .inl (hname hother)
    · exact .inr hstack

/-- A name is reached, and what its rule refers to is still to be visited. -/
theorem Settled.visit
    (h : g.Settled reached (name :: stack))
    {rule : Rule}
    (hrule : g.rule? name = some rule) :
    g.Settled (name :: reached) (rule.definition.references.reverse ++ stack) := by
  intro key hkey other href hother
  rw [List.mem_cons, List.mem_append, List.mem_reverse]
  rcases List.mem_cons.mp hkey with rfl | hkey
  · obtain ⟨rule', hrule', hother'⟩ := href
    rw [hrule] at hrule'
    cases hrule'
    exact .inr (.inl hother')
  · rcases h key hkey other href hother with hreached | hstack
    · exact .inl (.inr hreached)
    · rcases List.mem_cons.mp hstack with rfl | hstack
      · exact .inl (.inl rfl)
      · exact .inr (.inr hstack)

/-- The loop keeps what has been reached. -/
theorem mem_explore_of_mem_reached
    (hkey : key ∈ reached) :
    key ∈ g.explore reached stack := by
  fun_induction explore g reached stack with
  | case1 => exact hkey
  | case2 _ _ _ _ ih => exact ih hkey
  | case3 _ _ _ _ _ _ ih => exact ih hkey
  | case4 _ _ _ _ _ _ ih => exact ih (List.mem_cons_of_mem _ hkey)

/-- The loop reaches the keys that wait on the stack. -/
theorem mem_explore_of_mem_stack
    (hname : name ∈ stack)
    (hkey : g.contains name = true) :
    name ∈ g.explore reached stack := by
  fun_induction explore g reached stack with
  | case1 => cases hname
  | case2 reached top stack hnone ih =>
      rcases List.mem_cons.mp hname with rfl | hname
      · rw [contains_eq_false_iff.mpr hnone] at hkey
        cases hkey
      · exact ih hname
  | case3 reached top stack rule hrule hold ih =>
      rcases List.mem_cons.mp hname with rfl | hname
      · exact mem_explore_of_mem_reached (List.contains_iff_mem.mp hold)
      · exact ih hname
  | case4 reached top stack rule hrule hnew ih =>
      rcases List.mem_cons.mp hname with rfl | hname
      · exact mem_explore_of_mem_reached List.mem_cons_self
      · exact ih (List.mem_append_right _ hname)

/-- **Closure.**  What the loop ends with is closed under references. -/
theorem Settled.explore
    (h : g.Settled reached stack) :
    g.Settled (g.explore reached stack) [] := by
  fun_induction Grammar.explore g reached stack with
  | case1 => exact h
  | case2 reached top stack hnone ih =>
      refine ih (h.drop fun hkey => ?_)
      rw [contains_eq_false_iff.mpr hnone] at hkey
      cases hkey
  | case3 reached top stack rule hrule hold ih =>
      exact ih (h.drop fun _ => List.contains_iff_mem.mp hold)
  | case4 reached top stack rule hrule hnew ih => exact ih (h.visit hrule)

/-- The loop reaches nothing but reachable keys. -/
theorem reachable_of_mem_explore
    (hreached : ∀ key ∈ reached, g.Reachable key)
    (hstack : ∀ name ∈ stack, g.contains name = true → g.Reachable name)
    (hkey : key ∈ g.explore reached stack) :
    g.Reachable key := by
  fun_induction explore g reached stack with
  | case1 => exact hreached key hkey
  | case2 _ _ _ _ ih =>
      exact ih hreached (fun name hname => hstack name (List.mem_cons_of_mem _ hname)) hkey
  | case3 _ _ _ _ _ _ ih =>
      exact ih hreached (fun name hname => hstack name (List.mem_cons_of_mem _ hname)) hkey
  | case4 reached top stack rule hrule hnew ih =>
      have htop : g.Reachable top :=
        hstack top List.mem_cons_self (contains_eq_true_iff.mpr ⟨rule, hrule⟩)
      refine ih (List.forall_mem_cons.mpr ⟨htop, hreached⟩) (fun name hname hdefined => ?_) hkey
      rcases List.mem_append.mp hname with hname | hname
      · exact .step htop hrule (List.mem_reverse.mp hname) hdefined
      · exact hstack name (List.mem_cons_of_mem _ hname) hdefined

/-- **Reachability.**  The loop computes the reachable keys. -/
theorem mem_reachable_iff :
    key ∈ g.reachable ↔ g.Reachable key := by
  constructor
  · refine reachable_of_mem_explore (by simp) fun name hname hroot => ?_
    rw [List.mem_singleton.mp hname] at hroot ⊢
    exact .root hroot
  · intro h
    have hclosed : g.Settled g.reachable [] := by
      refine Settled.explore fun key hkey => ?_
      cases hkey
    induction h with
    | root hroot => exact mem_explore_of_mem_stack (List.mem_singleton_self _) hroot
    | step _ hrule hname hdefined ih =>
        rcases hclosed _ ih _ ⟨_, hrule, hname⟩ hdefined with hreached | hstack
        · exact hreached
        · cases hstack

/-- Names with the root among them and all that their rules refer to are the only reachable ones. -/
theorem Reachable.mem_of_closed
    {names : List String}
    (h : g.Reachable key)
    (hroot : g.root ∈ names)
    (hclosed : ∀ e ∈ g.rules.entries, e.1 ∈ names → e.2.definition.references ⊆ names) :
    key ∈ names := by
  induction h with
  | root _ => exact hroot
  | step _ hrule hname _ ih => exact hclosed _ (rule?_eq_some_iff.mp hrule) ih hname

/-- A rule is called unreferenced if its key is not reachable. -/
theorem unreferencedRule_mem_warnings_iff :
    Issue.unreferencedRule key ∈ g.validate.warnings ↔
      g.contains key = true ∧ ¬ g.Reachable key := by
  show Issue.unreferencedRule key ∈ g.reachabilityIssues ↔ _
  unfold reachabilityIssues
  rw [contains_iff_mem_keys, ← mem_reachable_iff]
  simp

end SchemaGrammar.Grammar
