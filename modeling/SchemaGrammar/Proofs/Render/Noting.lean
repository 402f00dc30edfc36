import SchemaGrammar.Proofs.Render.Literal

/-!
# What a walk notes down

Whether a walk succeeds is one question, and what it has noted down then is another one.  The
second is answered step by step, for the events that somebody looks at: those of a longer walk
are the events of its steps, and all others may be left out.

**Results.**
* `Walk.Notes`: what a step notes down if it succeeds.
* `Walk.Notes.bind`: the events of two steps, one after the other.
* `Walk.notes_spoken`: what terminals note down, in sequences of any depth.
* `Walk.notes_rule`: a rule notes down what its definition does.
-/

namespace SchemaGrammar

namespace Render

namespace Walk

/-- A step notes down some events if it succeeds, as far as events with `p` are concerned. -/
def Notes {α : Type} (p : Event → Bool) (w : Walk α) (events : List Event) : Prop :=
  ∀ (t : Trace) (a : α) (t' : Trace), w.run t = .ok (a, t') →
    t'.filter p = (events.filter p).reverse ++ t.filter p

section Steps

variable {α β : Type} {p : Event → Bool} {w : Walk α} {next : α → Walk β} {xs ys : List Event}

theorem Says.notes
    {a : α}
    (h : Says w xs a) :
    Notes p w xs := by
  intro t b t' hrun
  rw [h t] at hrun
  cases hrun
  rw [List.filter_append, List.filter_reverse]

theorem notes_pure
    (a : α) :
    Notes p (pure a) [] :=
  (says_pure a).notes

theorem notes_get :
    Notes p (get : Walk Trace) [] := by
  intro t a t' hrun
  cases hrun
  rfl

theorem notes_throw
    (e : RenderError) :
    Notes p (throw e : Walk α) xs := by
  intro t a t' hrun
  cases hrun

theorem notes_note
    (event : Event) :
    Notes p (note event) [event] :=
  (says_note event).notes

/-- Two steps note what each of them does. -/
theorem Notes.bind
    (h : Notes p w xs)
    (hnext : ∀ a, Notes p (next a) ys) :
    Notes p (w >>= next) (xs ++ ys) := by
  intro t b t' hrun
  rw [StateT.run_bind] at hrun
  cases hw : w.run t with
  | error e =>
      rw [hw] at hrun
      cases hrun
  | ok out =>
      obtain ⟨a, s⟩ := out
      rw [hw] at hrun
      rw [hnext a s b t' hrun, h t a s hw, List.filter_append, List.reverse_append,
        List.append_assoc]

theorem Notes.map
    (h : Notes p w xs)
    (f : α → β) :
    Notes p (w >>= fun a => pure (f a)) xs := by
  have hbind := h.bind fun a => notes_pure (p := p) (f a)
  rwa [List.append_nil] at hbind

/-- Events that are not looked at may be left out. -/
theorem Notes.congr
    (h : Notes p w xs)
    (hfilter : ys.filter p = xs.filter p) :
    Notes p w ys := by
  intro t a t' hrun
  rw [hfilter]
  exact h t a t' hrun

/-- Events that do not count need not be told. -/
theorem Notes.nil
    (h : Notes p w xs)
    (hxs : ∀ x ∈ xs, p x = false) :
    Notes p w [] := by
  refine h.congr (Eq.symm (List.filter_eq_nil_iff.mpr fun x hx => ?_))
  rw [hxs x hx]
  exact Bool.false_ne_true

/-- Among the events that are looked at, a walk has noted down those of its steps. -/
theorem Notes.mem_iff
    (h : Notes p w xs)
    {a : α}
    {t : Trace}
    (hrun : w.run [] = .ok (a, t))
    {event : Event}
    (hevent : p event = true) :
    event ∈ t ↔ event ∈ xs := by
  have hfilter : event ∈ t.filter p ↔ event ∈ xs.filter p := by
    rw [h [] a t hrun, List.filter_nil, List.append_nil, List.mem_reverse]
  simpa [List.mem_filter, hevent] using hfilter

end Steps

section Elements

variable {p : Event → Bool} {o : Options} {enter : String → Context → Walk String}
  {e : Element} {es : List Element} {c : Context} {xs ys : List Event}

theorem notes_sequenceParts_cons
    {previous : Option Element}
    (he : Notes p (element o enter e
      (if opensFieldList previous e es.head? then c.enteringFieldList else c)) xs)
    (hes : Notes p (sequenceParts o enter (some e) es c) ys) :
    Notes p (sequenceParts o enter previous (e :: es) c) (xs ++ ys) := by
  rw [sequenceParts]
  exact he.bind fun text => hes.map _

/-- A part that notes down nothing. -/
theorem notes_sequenceParts_cons_nil
    {previous : Option Element}
    (he : Notes p (element o enter e
      (if opensFieldList previous e es.head? then c.enteringFieldList else c)) [])
    (hes : Notes p (sequenceParts o enter (some e) es c) xs) :
    Notes p (sequenceParts o enter previous (e :: es) c) xs :=
  notes_sequenceParts_cons he hes

theorem notes_sequence
    (h : Notes p (sequenceParts o enter none es (c.forSequence es)) xs) :
    Notes p (element o enter (.sequence es) c) xs := by
  rw [element]
  exact h.map _

/-- Only a list opens a list of fields. -/
theorem opensFieldList_of_kind
    (h : e.kind ≠ .list)
    (previous next : Option Element) :
    opensFieldList previous e next = false := by
  cases e with
  | list inner => exact absurd rfl h
  | _ => rfl

/-- Parts that open no field list note down what each of them does, and then the other parts
follow. -/
theorem notes_sequenceParts_append
    {f : Element → List Event}
    (hkind : ∀ e ∈ es, e.kind ≠ .list)
    (heach : ∀ e ∈ es, Notes p (element o enter e c) (f e))
    {rest : List Element}
    (hrest : ∀ previous, Notes p (sequenceParts o enter previous rest c) xs)
    (previous : Option Element) :
    Notes p (sequenceParts o enter previous (es ++ rest) c) (es.flatMap f ++ xs) := by
  induction es generalizing previous with
  | nil => exact hrest previous
  | cons e es ih =>
      obtain ⟨he, hkind⟩ := List.forall_mem_cons.mp hkind
      obtain ⟨hhead, heach⟩ := List.forall_mem_cons.mp heach
      rw [List.flatMap_cons, List.append_assoc]
      refine notes_sequenceParts_cons ?_ (ih hkind heach (some e))
      rw [opensFieldList_of_kind he]
      exact hhead

theorem notes_sequenceParts
    {f : Element → List Event}
    (hkind : ∀ e ∈ es, e.kind ≠ .list)
    (heach : ∀ e ∈ es, Notes p (element o enter e c) (f e))
    (previous : Option Element) :
    Notes p (sequenceParts o enter previous es c) (es.flatMap f) := by
  have hnil : ∀ previous, Notes p (sequenceParts o enter previous [] c) [] :=
    fun _ => notes_pure []
  have hparts := notes_sequenceParts_append hkind heach hnil previous
  rwa [List.append_nil, List.append_nil] at hparts

/-- **Literal elements.**  Terminals in sequences note down what they mention. -/
theorem notes_spoken
    (p : Event → Bool)
    (he : ∀ d ∈ e.walk, d.kind = .terminal ∨ d.kind = .sequence)
    (c : Context) :
    Notes p (element o enter e c) (mentions e c) := by
  induction e using Element.inductionOn generalizing c with
  | terminal name pattern =>
      rw [element]
      split
      · next hhidden =>
          rw [mentions_of_isDescription ((Bool.and_eq_true _ _).mp hhidden).2]
          exact notes_pure ""
      · exact (says_terminal name pattern c).notes
  | sequence es ih =>
      have hparts : ∀ e ∈ es, ∀ d ∈ e.walk, d.kind = .terminal ∨ d.kind = .sequence :=
        fun e hmem d hd => he d (Element.walk_subset_sequence hmem hd)
      rw [mentions_sequence]
      refine notes_sequence (notes_sequenceParts (fun e hmem => ?_) (fun e hmem => ?_) none)
      · rcases hparts e hmem e e.mem_walk_self with h | h <;> simp [h]
      · exact ih e hmem (hparts e hmem) _
  | nonTerminal | oneOf | optional | list =>
      have hself := he _ (Element.mem_walk_self _)
      simp [Element.kind] at hself

end Elements

section Rules

variable {p : Event → Bool} {g : Grammar} {o : Options} {r : Rule} {key : String} {c : Context}
  {xs : List Event}

/-- A rule notes down what its definition does, unless it is left out. -/
theorem notes_rule
    (hentered : ∀ rule, p (.entered rule) = false)
    (hrepeated : ∀ rule, p (.repeated rule) = false)
    (hskipped : xs = [] ∨ r.name ≠ RuleName.description ∧ r.name ≠ RuleName.schemaDefinition)
    (hrule : g.rule? key = some r)
    {allowance : Nat}
    (hdefinition : ∀ n, allowance = n + 1 →
      Notes p (element o (rule g o n) r.definition (c.enteringRule r.name)) xs) :
    Notes p (rule g o allowance key c) xs := by
  unfold rule
  rw [hrule]
  cases allowance with
  | zero => exact notes_throw _
  | succ n =>
      dsimp only
      split
      · next hdescription =>
          rcases hskipped with rfl | ⟨hname, -⟩
          · exact notes_pure ""
          · simp [hname] at hdescription
      · refine notes_get.bind fun trace => ?_
        split
        · next hschema =>
            rcases hskipped with rfl | ⟨-, hname⟩
            · have hnote : Notes p (note (.repeated r.name)) [] :=
                (notes_note _).nil (by simp [hrepeated])
              exact hnote.map _
            · simp [hname] at hschema
        · have hnote : Notes p (note (.entered r.name)) [] :=
            (notes_note _).nil (by simp [hentered])
          exact hnote.bind fun _ => hdefinition n rfl

/-- The blocks note down what the root does, if the schema definition is of no concern. -/
theorem notes_blocks
    (hroot : Notes p (rule g o o.maxDepth g.root .start) xs)
    (hschema : Notes p (rule g o o.maxDepth RuleName.schemaDefinition .start) []) :
    Notes p (blocks g o) xs := by
  have hrest : ∀ main : String, Notes p
      (do
        let trace ← get
        if !trace.contains (.entered RuleName.schemaDefinition) &&
            g.contains RuleName.schemaDefinition then
          let schema ← rule g o o.maxDepth RuleName.schemaDefinition .start
          return [main, schema]
        else return [main] : Walk (List String)) [] := by
    intro main
    refine notes_get.bind fun trace => ?_
    split
    · exact hschema.map _
    · exact notes_pure _
  have hblocks := hroot.bind hrest
  rwa [List.append_nil] at hblocks

end Rules

end Walk

end Render

end SchemaGrammar
