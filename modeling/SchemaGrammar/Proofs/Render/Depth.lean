import Mathlib.Data.List.Chain
import SchemaGrammar.Proofs.Render.Failure

/-!
# The limit on the depth

The limit is asked for where a rule is entered and nowhere else: what an allowance counts is the
limit less the depth of the place.  So under a higher limit a walk takes the same steps, notes down
the same events and meets the same first error, as long as the lower limit holds out; and it gives
out only at the end of a chain of references that is as long as the limit.

**Results.**
* `Walk.ruleAt_eq`: the allowance is what the depth leaves of the limit.
* `Walk.deepens_rule`: rules under a higher limit.
* `Walk.exists_chain_of_fails`: the chain of references at whose end the limit is exceeded.
* `Grammar.render_deepened`: documents and errors under a higher limit.
-/

namespace SchemaGrammar

namespace Render

namespace Walk

section Guard

variable {g : Grammar} {o : Options}

/-- A rule, with the allowance that the depth of the place leaves of the limit. -/
def ruleAt (g : Grammar) (o : Options) (key : String) (c : Context) : Walk String :=
  rule g o (o.maxDepth - c.depth) key c

/-- In the body of a rule the allowance is what the depth of the body leaves of the limit. -/
theorem element_ruleAt
    {allowance : Nat}
    {c : Context}
    (hdepth : allowance + c.depth = o.maxDepth)
    (e : Element) :
    element o (rule g o allowance) e c = element o (ruleAt g o) e c := by
  refine stepwise_eq.element (.refl o) fun name _ c' hc => ?_
  have hleft : o.maxDepth - c'.depth = allowance := by
    rw [hc.depth]
    omega
  rw [ruleAt, hleft]

/-- **The guard.**  A rule is entered if the depth of the place is below the limit, and its body is
rendered with the same guard one level further down. -/
theorem ruleAt_eq
    (g : Grammar)
    (o : Options)
    (key : String)
    (c : Context) :
    ruleAt g o key c =
      match g.rule? key with
      | none => throw (.undefinedRule key (c.rule.getD g.root))
      | some r =>
          if o.maxDepth ≤ c.depth then throw (.depthExceeded r.name o.maxDepth)
          else if !o.includeDescriptions && r.name == RuleName.description then pure ""
          else (do
            let trace ← get
            if r.name == RuleName.schemaDefinition && trace.contains (.entered r.name) then
              note (.repeated r.name)
              return ""
            else
              note (.entered r.name)
              element o (ruleAt g o) r.definition (c.enteringRule r.name)) := by
  show rule g o (o.maxDepth - c.depth) key c = _
  conv_lhs => unfold rule
  cases g.rule? key with
  | none => rfl
  | some r =>
      dsimp only
      cases hallowance : o.maxDepth - c.depth with
      | zero => rw [if_pos (by omega)]
      | succ allowance =>
          have hdepth : allowance + (c.enteringRule r.name).depth = o.maxDepth := by
            rw [Context.depth_enteringRule]
            omega
          rw [if_neg (by omega)]
          dsimp only
          rw [element_ruleAt hdepth]

end Guard

section Steps

variable {α β : Type}

/-- An outcome that is an error about the depth. -/
def TooDeep (outcome : Except RenderError (α × Trace)) : Prop :=
  ∃ name limit, outcome = .error (.depthExceeded name limit)

/-- The second walk goes the way of the first one wherever the first one is not too deep. -/
def Deepens (v w : Walk α) : Prop := ∀ t : Trace, TooDeep (v.run t) ∨ w.run t = v.run t

theorem deepens_refl
    (v : Walk α) :
    Deepens v v :=
  fun _ => .inr rfl

theorem deepens_depthExceeded
    (name : String)
    (limit : Nat)
    (w : Walk α) :
    Deepens (throw (.depthExceeded name limit)) w :=
  fun _ => .inl ⟨name, limit, rfl⟩

/-- What goes on alike under the higher limit keeps its result. -/
theorem Deepens.bind
    {v w : Walk α}
    {f g : α → Walk β}
    (h : Deepens v w)
    (hnext : ∀ a, Deepens (f a) (g a)) :
    Deepens (v >>= f) (w >>= g) := by
  intro t
  rw [StateT.run_bind, StateT.run_bind]
  rcases h t with ⟨name, limit, hdeep⟩ | hsame
  · rw [hdeep]
    exact .inl ⟨name, limit, rfl⟩
  · rw [hsame]
    cases v.run t with
    | error err => exact .inr rfl
    | ok p => exact hnext p.1 p.2

/-- To keep results under a higher limit is a matter of single steps. -/
theorem stepwise_deepens : Stepwise fun _ v w => Deepens v w where
  pure a := deepens_refl (Pure.pure a)
  terminal name pattern c := deepens_refl (Walk.terminal name pattern c)
  bind := Deepens.bind

end Steps

section Rules

variable {g : Grammar} {o o' : Options}

/-- A rule under a higher limit. -/
theorem deepens_rule
    (ho : o.WritesLike o')
    {allowance allowance' : Nat}
    (hallowance : allowance ≤ allowance')
    (key : String)
    (c : Context) :
    Deepens (rule g o allowance key c) (rule g o' allowance' key c) := by
  induction allowance generalizing allowance' key c with
  | zero =>
      unfold rule
      cases g.rule? key with
      | none => exact deepens_refl _
      | some r => exact deepens_depthExceeded r.name o.maxDepth _
  | succ allowance ih =>
      obtain ⟨allowance', rfl⟩ := Nat.exists_eq_add_one_of_ne_zero (n := allowance') (by omega)
      unfold rule
      cases g.rule? key with
      | none => exact deepens_refl _
      | some r =>
          have hle : allowance ≤ allowance' := by omega
          have hbody := stepwise_deepens.element (c := c.enteringRule r.name) (e := r.definition) ho
            fun name _ c' _ => ih hle name c'
          dsimp only
          rw [ho.includeDescriptions]
          split
          · exact deepens_refl _
          · refine (deepens_refl _).bind fun trace => ?_
            split
            · exact deepens_refl _
            · exact (deepens_refl _).bind fun _ => hbody

/-- The blocks of a document under a higher limit. -/
theorem deepens_blocks
    (ho : o.WritesLike o')
    (hdepth : o.maxDepth ≤ o'.maxDepth) :
    Deepens (Render.blocks g o) (Render.blocks g o') := by
  have hrule := fun key => deepens_rule (g := g) ho hdepth key .start
  unfold Render.blocks
  refine (hrule g.root).bind fun main => (deepens_refl _).bind fun trace => ?_
  split
  · exact (hrule RuleName.schemaDefinition).bind fun schema => deepens_refl _
  · exact deepens_refl _

/-- Where the limit is exceeded, a chain of references ends that is as long as the allowance. -/
theorem exists_chain_of_fails
    {allowance : Nat}
    {key : String}
    {c : Context}
    {name : String}
    {limit : Nat}
    (h : Fails (rule g o allowance key c) (.depthExceeded name limit)) :
    limit = o.maxDepth ∧ ∃ names : List String, names.length = allowance ∧
      (key :: names).IsChain g.RefersTo ∧
      ∃ last ∈ (key :: names).getLast?, ∃ r, g.rule? last = some r ∧ r.name = name := by
  induction allowance generalizing key c with
  | zero =>
      rcases fails_rule h with ⟨-, herr⟩ | ⟨r, hr, herr⟩
      · cases herr
      · cases herr
        exact ⟨rfl, [], rfl, .singleton key, key, rfl, r, hr, rfl⟩
  | succ allowance ih =>
      rcases fails_rule h with ⟨-, herr⟩ | ⟨r, hr, next, hnext, c', -, hfails⟩
      · cases herr
      · obtain ⟨hlimit, names, hlength, hchain, last, hlast, hrule⟩ := ih hfails
        refine ⟨hlimit, next :: names, congrArg (· + 1) hlength, ?_, last, ?_, hrule⟩
        · exact .cons_cons ⟨r, hr, hnext⟩ hchain
        · rw [List.getLast?_cons_cons]
          exact hlast

end Rules

end Walk

end Render

namespace Grammar

open Render

variable {g : Grammar} {o : Render.Options}

/-- A chain of references that starts where rendering does, at the root or at the schema
definition, and ends at a rule of some name. -/
def DescendsTo (g : Grammar) (steps : Nat) (name : String) : Prop :=
  ∃ key names, (key = g.root ∨ key = RuleName.schemaDefinition) ∧ names.length = steps ∧
    (key :: names).IsChain g.RefersTo ∧
    ∃ last ∈ (key :: names).getLast?, ∃ rule, g.rule? last = some rule ∧ rule.name = name

/-- The limit is exceeded only at the end of a chain of references of that length. -/
theorem descendsTo_of_render_eq_depthExceeded
    {name : String}
    {limit : Nat}
    (h : g.render o = .error (.depthExceeded name limit)) :
    limit = o.maxDepth ∧ g.DescendsTo o.maxDepth name := by
  rcases fails_of_render_eq_error h with ⟨-, herr⟩ | ⟨-, key, hkey, -, hfails⟩
  · cases herr
  · obtain ⟨hlimit, names, hchain⟩ := Walk.exists_chain_of_fails hfails
    exact ⟨hlimit, key, names, hkey, hchain⟩

/-- What is rendered without exceeding the limit is rendered so under every higher limit. -/
theorem render_of_maxDepth_le
    {limit : Nat}
    (hlimit : o.maxDepth ≤ limit)
    (h : ∀ name bound, g.render o ≠ .error (.depthExceeded name bound)) :
    g.render { o with maxDepth := limit } = g.render o := by
  have hblocks : Walk.Deepens (Render.blocks g o)
      (Render.blocks g { o with maxDepth := limit }) :=
    Walk.deepens_blocks ⟨rfl, rfl⟩ hlimit
  unfold Grammar.render Grammar.outline at h ⊢
  split
  · next hroot =>
      rcases hblocks [] with ⟨name, bound, hdeep⟩ | hsame
      · rw [if_pos hroot, hdeep] at h
        exact absurd rfl (h name bound)
      · rw [hsame]
        rfl
  · rfl

/-- **The limit.**  A document that is rendered, and an error that is not about the depth, are the
same under every higher limit.  An error about the depth tells the limit, and there is a chain of
as many references that starts where rendering does and ends at the rule that it names. -/
theorem render_deepened
    (g : Grammar)
    (o : Render.Options) :
    (∀ limit, o.maxDepth ≤ limit →
        (∀ name bound, g.render o ≠ .error (.depthExceeded name bound)) →
          g.render { o with maxDepth := limit } = g.render o) ∧
      ∀ name bound, g.render o = .error (.depthExceeded name bound) →
        bound = o.maxDepth ∧ g.DescendsTo o.maxDepth name :=
  ⟨fun _ => render_of_maxDepth_le, fun _ _ => descendsTo_of_render_eq_depthExceeded⟩

def endlessGrammar : Grammar :=
  .ofRules "Item" [⟨"Item", .sequence [.token "item", .nonTerminal "Item"]⟩]

/-- Two rules, the second of which refers to a rule that is not there. -/
def unfinishedGrammar : Grammar :=
  .ofRules "Page"
    [⟨"Page", .list (.nonTerminal "Title")⟩,
      ⟨"Title", .sequence [.token "title", .nonTerminal "Line"]⟩]

theorem render_deepened_endless :
    unfinishedGrammar.render { maxDepth := 2 } = .error (.undefinedRule "Line" "Title") ∧
      unfinishedGrammar.render { maxDepth := 9 } = .error (.undefinedRule "Line" "Title") ∧
      endlessGrammar.render { maxDepth := 8 } = .error (.depthExceeded "Item" 8) ∧
      endlessGrammar.DescendsTo 8 "Item" := by
  have hunfinished : unfinishedGrammar.render { maxDepth := 2 } =
      .error (.undefinedRule "Line" "Title") := rfl
  have hendless : endlessGrammar.render { maxDepth := 8 } = .error (.depthExceeded "Item" 8) := rfl
  obtain ⟨hdeeper, -⟩ := render_deepened unfinishedGrammar { maxDepth := 2 }
  obtain ⟨-, hchain⟩ := render_deepened endlessGrammar { maxDepth := 8 }
  have hsame := hdeeper 9 (by decide) fun name bound h => by
    rw [hunfinished] at h
    cases h
  exact ⟨hunfinished, hsame.trans hunfinished, hendless, (hchain "Item" 8 hendless).2⟩

end Grammar

end SchemaGrammar
