import SchemaGrammar.Proofs.Grammar.Element
import SchemaGrammar.Render.Walk

/-!
# What elements have from the rules that they enter

An element is rendered by terminals, by rules that are entered, and by one step after another.
A relation between walks that terminals and steps in a row keep holds for an element if it holds
wherever a rule is entered from it; and a rule is entered from inside the body that the element
is part of, at the depth of that body.

**Results.**
* `Context.SameBody`: the contexts of the parts of an element stay in one body.
* `Walk.Stepwise.element`: a relation that is kept step by step holds for every element.
* `Walk.Stepwise.element_of_property`: so it is with a property of single walks.
-/

namespace SchemaGrammar.Render

namespace Context

/-- Two places in the body of one rule, at one depth. -/
structure SameBody (c c' : Context) : Prop where
  rule : c'.rule = c.rule
  depth : c'.depth = c.depth

section Parts

variable (c : Context)

theorem SameBody.refl : c.SameBody c := ⟨rfl, rfl⟩

variable {c} in
theorem SameBody.trans
    {c' c'' : Context}
    (h : c.SameBody c')
    (h' : c'.SameBody c'') :
    c.SameBody c'' :=
  ⟨h'.rule.trans h.rule, h'.depth.trans h.depth⟩

theorem sameBody_forSequence
    (es : List Element) :
    c.SameBody (c.forSequence es) := by
  unfold forSequence
  cases es.head? with
  | none => exact .refl c
  | some e =>
      dsimp only
      split
      · exact ⟨rfl, rfl⟩
      · split
        · exact ⟨rfl, rfl⟩
        · exact .refl c

theorem sameBody_forOccurrence : c.SameBody c.forOccurrence := by
  unfold forOccurrence
  split
  · exact ⟨rfl, rfl⟩
  · exact .refl c

theorem sameBody_enteringFieldList : c.SameBody c.enteringFieldList := ⟨rfl, rfl⟩

theorem sameBody_withOperation
    (operation : Operation) :
    c.SameBody (c.withOperation operation) := ⟨rfl, rfl⟩

end Parts

section EnteredRules

variable (c : Context) (name : String)

@[simp] theorem rule_enteringRule : (c.enteringRule name).rule = some name := by
  unfold enteringRule
  cases Scope.ofRule name <;> rfl

@[simp] theorem depth_enteringRule : (c.enteringRule name).depth = c.depth + 1 := by
  unfold enteringRule
  cases Scope.ofRule name <;> rfl

end EnteredRules

end Context

/-- Options that differ in the depth alone, which elements do not look at. -/
structure Options.WritesLike (o o' : Options) : Prop where
  includeDescriptions : o.includeDescriptions = o'.includeDescriptions
  layout : o.layout = o'.layout

theorem Options.WritesLike.refl
    (o : Options) :
    o.WritesLike o :=
  ⟨rfl, rfl⟩

/-- Options that write alike hide the same elements. -/
theorem Options.WritesLike.hides
    {o o' : Options}
    (h : o.WritesLike o')
    (e : Element) :
    o.hides e = o'.hides e := by
  unfold Options.hides
  rw [h.includeDescriptions]

namespace Walk

/-- A relation between walks that every step keeps: terminals are in it, and so are related
walks one after the other. -/
structure Stepwise (P : (α : Type) → Walk α → Walk α → Prop) : Prop where
  pure : ∀ {α : Type} (a : α), P α (pure a) (pure a)
  terminal : ∀ (name : String) (pattern : Option Pattern) (c : Context),
    P String (terminal name pattern c) (terminal name pattern c)
  bind : ∀ {α β : Type} {v w : Walk α} {f g : α → Walk β},
    P α v w → (∀ a, P β (f a) (g a)) → P β (v >>= f) (w >>= g)

theorem stepwise_eq : Stepwise fun _ v w => v = w where
  pure _ := rfl
  terminal _ _ _ := rfl
  bind h hnext := by rw [h, funext hnext]

section Elements

variable {P : (α : Type) → Walk α → Walk α → Prop} {o o' : Options}
  {enter enter' : String → Context → Walk String}

/-- What holds of single steps holds of the parts of a sequence. -/
theorem Stepwise.sequenceParts
    (hP : Stepwise P)
    {es : List Element}
    {c : Context}
    (hes : ∀ e ∈ es, ∀ c', c.SameBody c' →
      P String (element o enter e c') (element o' enter' e c'))
    (previous : Option Element) :
    P (List Part) (sequenceParts o enter previous es c)
      (sequenceParts o' enter' previous es c) := by
  induction es generalizing previous with
  | nil => exact hP.pure []
  | cons e es ih =>
      obtain ⟨he, hes⟩ := List.forall_mem_cons.mp hes
      rw [Walk.sequenceParts, Walk.sequenceParts]
      refine hP.bind (he _ ?_) fun text => hP.bind (ih hes (some e)) fun parts => hP.pure _
      split
      · exact c.sameBody_enteringFieldList
      · exact .refl c

/-- What holds of single steps holds of the alternative that is chosen. -/
theorem Stepwise.firstAdmitted
    (hP : Stepwise P)
    {es : List Element}
    {c : Context}
    (hes : ∀ e ∈ es, P String (element o enter e c) (element o' enter' e c))
    (admitted : Element → Bool) :
    P String (firstAdmitted o enter admitted es c) (firstAdmitted o' enter' admitted es c) := by
  induction es with
  | nil => exact hP.pure ""
  | cons e es ih =>
      obtain ⟨he, hes⟩ := List.forall_mem_cons.mp hes
      rw [Walk.firstAdmitted, Walk.firstAdmitted]
      split
      · exact he
      · exact ih hes

/-- **Elements.**  A relation that every step keeps holds for an element if it holds where the
rules that the element refers to are entered from its body. -/
theorem Stepwise.element
    (hP : Stepwise P)
    (ho : o.WritesLike o')
    {e : Element}
    {c : Context}
    (henter : ∀ name ∈ e.references, ∀ c', c.SameBody c' →
      P String (enter name c') (enter' name c')) :
    P String (element o enter e c) (element o' enter' e c) := by
  have hpart : ∀ {es : List Element} {e : Element} {c c' : Context}, c.SameBody c' →
      (∀ name ∈ es.flatMap Element.references, ∀ c', c.SameBody c' →
        P String (enter name c') (enter' name c')) →
      e ∈ es → ∀ name ∈ e.references, ∀ c'', c'.SameBody c'' →
        P String (enter name c'') (enter' name c'') :=
    fun hc h he name hname c'' hc' => h name (List.mem_flatMap.mpr ⟨_, he, hname⟩) c'' (hc.trans hc')
  induction e using Element.inductionOn generalizing c with
  | terminal name pattern =>
      rw [Walk.element, Walk.element, ho.hides]
      split
      · exact hP.pure ""
      · exact hP.terminal name pattern c
  | nonTerminal name =>
      rw [Walk.element, Walk.element, ho.hides]
      split
      · exact hP.pure ""
      · exact henter name (List.mem_singleton_self name) c (.refl c)
  | sequence es ih =>
      rw [Walk.element, Walk.element, ho.layout]
      rw [Element.references_sequence] at henter
      refine hP.bind (hP.sequenceParts (fun e he c' hc => ?_) none) fun parts => hP.pure _
      exact ih e he (hpart ((c.sameBody_forSequence es).trans hc) henter he)
  | oneOf es ih =>
      rw [Walk.element, Walk.element]
      rw [Element.references_oneOf] at henter
      exact hP.firstAdmitted (fun e he => ih e he (hpart (.refl c) henter he)) _
  | optional e ih =>
      rw [Walk.element, Walk.element, ho.hides]
      split
      · exact hP.pure ""
      · exact ih henter
  | list e ih =>
      have hinner : ∀ c', c.SameBody c' →
          P String (Walk.element o enter e c') (Walk.element o' enter' e c') :=
        fun c' hc => ih fun name hname c'' hc' => henter name hname c'' (hc.trans hc')
      rw [Walk.element, Walk.element, ho.layout]
      split
      · refine hP.bind (hinner _ (c.sameBody_withOperation _)) fun query => ?_
        refine hP.bind (hinner _ (c.sameBody_withOperation _)) fun mutation => ?_
        exact hP.bind (hinner _ (c.sameBody_withOperation _)) fun subscription => hP.pure _
      · exact hinner _ c.sameBody_forOccurrence

/-- A property of single walks that every step keeps. -/
theorem Stepwise.element_of_property
    {Q : (α : Type) → Walk α → Prop}
    (hQ : Stepwise fun α w _ => Q α w)
    {e : Element}
    {c : Context}
    (henter : ∀ name ∈ e.references, ∀ c', c.SameBody c' → Q String (enter name c')) :
    Q String (Walk.element o enter e c) :=
  @Stepwise.element _ o o enter enter hQ (.refl o) e c henter

end Elements

end Walk

end SchemaGrammar.Render
