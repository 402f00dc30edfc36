import SchemaGrammar.Proofs.Grammar.WellFormed
import SchemaGrammar.Proofs.Render.Stepwise
import SchemaGrammar.Render.Document
import Mathlib.Data.List.Forall2

/-!
# Walks that go the same way

Two walks go the same way up to a relation between traces if they give the same text and lead
from related traces to related ones, or fail with the same error.  The renderer asks a trace
only whether a rule has been entered; so a relation that keeps the answer, and that further
events do not break, is carried by every construct from its parts to the whole.

**Results.**
* `Walk.Similar.bind`: walks that go the same way, one after the other.
* `Walk.rendersSimilarly_refl`: an element goes the way in which the rules go that it enters.
* `Grammar.similar_rule`, `Grammar.similar_blocks`: grammars with definitions that go the same way.
-/

namespace SchemaGrammar

namespace Render

section Neighbours

/-- Two elements of which the neighbours cannot tell which one they stand next to. -/
structure LooksAlike (d e : Element) : Prop where
  isToken : d.isToken = e.isToken
  refersTo : d.refersTo = e.refersTo
  isDescription : isDescription d = isDescription e
  opensFieldList : ∀ previous next,
    opensFieldList previous d next = opensFieldList previous e next

theorem LooksAlike.refl
    (e : Element) :
    LooksAlike e e :=
  ⟨rfl, rfl, rfl, fun _ _ => rfl⟩

theorem LooksAlike.trans
    {d e f : Element}
    (hde : LooksAlike d e)
    (hef : LooksAlike e f) :
    LooksAlike d f where
  isToken := hde.isToken.trans hef.isToken
  refersTo := hde.refersTo.trans hef.refersTo
  isDescription := hde.isDescription.trans hef.isDescription
  opensFieldList previous next :=
    (hde.opensFieldList previous next).trans (hef.opensFieldList previous next)

theorem looksAlike_sequence
    (ds es : List Element) :
    LooksAlike (.sequence ds) (.sequence es) :=
  ⟨rfl, rfl, rfl, fun _ _ => rfl⟩

theorem looksAlike_oneOf
    (ds es : List Element) :
    LooksAlike (.oneOf ds) (.oneOf es) :=
  ⟨rfl, rfl, rfl, fun _ _ => rfl⟩

theorem LooksAlike.optional
    {d e : Element}
    (h : LooksAlike d e) :
    LooksAlike (.optional d) (.optional e) :=
  ⟨rfl, rfl, h.isDescription, fun _ _ => rfl⟩

theorem LooksAlike.list
    {d e : Element}
    (h : LooksAlike d e) :
    LooksAlike (.list d) (.list e) where
  isToken := rfl
  refersTo := rfl
  isDescription := rfl
  opensFieldList previous next := by
    unfold Render.opensFieldList
    dsimp only
    rw [h.refersTo]

variable {ds es : List Element}

theorem any_isToken_congr
    (h : List.Forall₂ LooksAlike ds es)
    (text : String) :
    ds.any (·.isToken text) = es.any (·.isToken text) := by
  induction h with
  | nil => rfl
  | cons hd _ ih => rw [List.any_cons, List.any_cons, hd.isToken, ih]

theorem head?_any_isToken_congr
    (h : List.Forall₂ LooksAlike ds es)
    (text : String) :
    ds.head?.any (·.isToken text) = es.head?.any (·.isToken text) := by
  cases h with
  | nil => rfl
  | cons hd _ => rw [List.head?_cons, List.head?_cons, Option.any_some, Option.any_some, hd.isToken]

/-- The context of a sequence depends on what its elements look like. -/
theorem forSequence_congr
    (c : Context)
    (h : List.Forall₂ LooksAlike ds es) :
    c.forSequence ds = c.forSequence es := by
  cases h with
  | nil => rfl
  | cons hd _ =>
      unfold Context.forSequence
      rw [List.head?_cons, List.head?_cons]
      dsimp only
      rw [hd.isToken]

/-- Whether an alternative is admitted depends on what it looks like. -/
theorem admits_congr
    (c : Context)
    (h : List.Forall₂ LooksAlike ds es)
    {d e : Element}
    (hde : LooksAlike d e) :
    c.admits ds d = c.admits es e := by
  unfold Context.admits
  split
  · rfl
  · rw [any_isToken_congr h, hde.isToken]

/-- A repetition is seen as a field list or not whatever stands around it, as long as it looks
the same. -/
theorem opensFieldList_congr
    {previous previous' : Option Element}
    (hprevious : ∀ text, previous.any (·.isToken text) = previous'.any (·.isToken text))
    {d e : Element}
    (hde : LooksAlike d e)
    (h : List.Forall₂ LooksAlike ds es) :
    opensFieldList previous d ds.head? = opensFieldList previous' e es.head? := by
  rw [hde.opensFieldList]
  unfold opensFieldList
  split
  · rw [hprevious, head?_any_isToken_congr h]
  · rfl

end Neighbours

/-- A relation between traces that further events do not break, and that sees which rules have
been entered. -/
structure Trace.Congruence (R : Trace → Trace → Prop) : Prop where
  note : ∀ {s t : Trace} (event : Event), R s t → R (event :: s) (event :: t)
  entered : ∀ {s t : Trace}, R s t → ∀ rule : String,
    s.contains (.entered rule) = t.contains (.entered rule)

theorem Trace.congruence_eq : Trace.Congruence Eq where
  note event h := congrArg _ h
  entered h rule := by rw [h]

namespace Walk

section Steps

variable {R : Trace → Trace → Prop} {α β : Type}

/-- Two outcomes with the same value behind related traces, or with the same error. -/
inductive Agrees (R : Trace → Trace → Prop) :
    Except RenderError (α × Trace) → Except RenderError (α × Trace) → Prop
  | ok (a : α) {s t : Trace} (h : R s t) : Agrees R (.ok (a, s)) (.ok (a, t))
  | error (err : RenderError) : Agrees R (.error err) (.error err)

/-- Two walks that lead from related traces to outcomes that agree. -/
def Similar (R : Trace → Trace → Prop) (v w : Walk α) : Prop :=
  ∀ s t : Trace, R s t → Agrees R (v.run s) (w.run t)

/-- Walks that are similar up to equality of traces are equal. -/
theorem similar_eq_iff
    {v w : Walk α} :
    Similar Eq v w ↔ v = w := by
  constructor
  · intro h
    funext t
    have hrun := h t t rfl
    unfold StateT.run at hrun
    generalize v t = x, w t = y at hrun
    cases hrun with
    | ok a h => rw [h]
    | error err => rfl
  · rintro rfl s t rfl
    cases v.run s with
    | error err => exact .error err
    | ok p => exact .ok p.1 rfl

theorem similar_pure
    (a : α) :
    Similar R (pure a) (pure a) :=
  fun _ _ h => .ok a h

theorem similar_throw
    (err : RenderError) :
    Similar R (throw err : Walk α) (throw err) :=
  fun _ _ _ => .error err

theorem similar_note
    (hR : Trace.Congruence R)
    (event : Event) :
    Similar R (note event) (note event) :=
  fun _ _ h => .ok () (hR.note event h)

/-- Similar steps that go on similarly are similar. -/
theorem Similar.bind
    {v w : Walk α}
    {f g : α → Walk β}
    (h : Similar R v w)
    (hnext : ∀ a, Similar R (f a) (g a)) :
    Similar R (v >>= f) (w >>= g) := by
  intro s t hst
  have hfirst := h s t hst
  rw [StateT.run_bind, StateT.run_bind]
  generalize v.run s = x, w.run t = y at hfirst
  cases hfirst with
  | error err => exact .error err
  | ok a hst => exact hnext a _ _ hst

/-- A step that looks at the trace before it goes on. -/
theorem similar_get_bind
    {f g : Trace → Walk α}
    (h : ∀ s t, R s t → Similar R (f s) (g t)) :
    Similar R (get >>= f) (get >>= g) :=
  fun s t hst => h s t hst s t hst

theorem similar_terminal
    (hR : Trace.Congruence R)
    (name : String)
    (pattern : Option Pattern)
    (c : Context) :
    Similar R (terminal name pattern c) (terminal name pattern c) := by
  unfold terminal
  generalize terminalText name pattern c = written
  obtain ⟨text, event⟩ := written
  cases event with
  | none => exact similar_pure text
  | some event => exact (similar_note hR event).bind fun _ => similar_pure text

end Steps

section Elements

variable {R : Trace → Trace → Prop} {o : Options} {enter enter' : String → Context → Walk String}

/-- Two elements that look alike and go the same way everywhere. -/
structure RendersSimilarly (R : Trace → Trace → Prop) (o : Options)
    (enter enter' : String → Context → Walk String) (d e : Element) : Prop where
  looks : LooksAlike d e
  renders : ∀ c, Similar R (element o enter d c) (element o enter' e c)

variable {ds es : List Element}

theorem looksAlike_of_rendersSimilarly
    (h : List.Forall₂ (RendersSimilarly R o enter enter') ds es) :
    List.Forall₂ LooksAlike ds es :=
  h.imp fun _ _ h => h.looks

/-- Sequences of similar elements have the same parts. -/
theorem similar_sequenceParts
    (h : List.Forall₂ (RendersSimilarly R o enter enter') ds es)
    {previous previous' : Option Element}
    (hprevious : ∀ text, previous.any (·.isToken text) = previous'.any (·.isToken text))
    (c : Context) :
    Similar R (sequenceParts o enter previous ds c) (sequenceParts o enter' previous' es c) := by
  induction h generalizing previous previous' with
  | nil => exact similar_pure []
  | cons hd hds ih =>
      rw [sequenceParts, sequenceParts,
        opensFieldList_congr hprevious hd.looks (looksAlike_of_rendersSimilarly hds),
        hd.looks.isDescription]
      refine (hd.renders _).bind fun text => ?_
      refine Similar.bind (ih fun text => ?_) fun parts => similar_pure _
      rw [Option.any_some, Option.any_some, hd.looks.isToken]

theorem similar_firstAdmitted
    {admitted admitted' : Element → Bool}
    (h : List.Forall₂ (RendersSimilarly R o enter enter') ds es)
    (hadmitted : ∀ {d e}, LooksAlike d e → admitted d = admitted' e)
    (c : Context) :
    Similar R (firstAdmitted o enter admitted ds c) (firstAdmitted o enter' admitted' es c) := by
  induction h with
  | nil => exact similar_pure ""
  | cons hd _ ih =>
      rw [firstAdmitted, firstAdmitted, hadmitted hd.looks]
      split
      · exact hd.renders c
      · exact ih

/-- Similar elements make similar sequences. -/
theorem RendersSimilarly.sequence
    (h : List.Forall₂ (RendersSimilarly R o enter enter') ds es) :
    RendersSimilarly R o enter enter' (.sequence ds) (.sequence es) where
  looks := looksAlike_sequence ds es
  renders c := by
    rw [element, element, forSequence_congr c (looksAlike_of_rendersSimilarly h)]
    exact (similar_sequenceParts h (fun _ => rfl) _).bind fun parts => similar_pure _

theorem RendersSimilarly.oneOf
    (h : List.Forall₂ (RendersSimilarly R o enter enter') ds es) :
    RendersSimilarly R o enter enter' (.oneOf ds) (.oneOf es) where
  looks := looksAlike_oneOf ds es
  renders c := by
    rw [element, element]
    exact similar_firstAdmitted h (admits_congr c (looksAlike_of_rendersSimilarly h)) c

theorem RendersSimilarly.optional
    {d e : Element}
    (h : RendersSimilarly R o enter enter' d e) :
    RendersSimilarly R o enter enter' (.optional d) (.optional e) where
  looks := h.looks.optional
  renders c := by
    rw [element, element]
    unfold Options.hides
    rw [h.looks.optional.isDescription]
    split
    · exact similar_pure ""
    · exact h.renders c

theorem RendersSimilarly.list
    {d e : Element}
    (h : RendersSimilarly R o enter enter' d e) :
    RendersSimilarly R o enter enter' (.list d) (.list e) where
  looks := h.looks.list
  renders c := by
    rw [element, element]
    unfold Context.repeatsOperations
    rw [h.looks.refersTo]
    split
    · refine (h.renders _).bind fun query => ?_
      refine (h.renders _).bind fun mutation => ?_
      exact (h.renders _).bind fun subscription => similar_pure _
    · exact h.renders _

theorem stepwise_similar
    (hR : Trace.Congruence R) :
    Stepwise fun _ v w => Similar R v w where
  pure := similar_pure
  terminal := similar_terminal hR
  bind := Similar.bind

/-- An element goes the way in which the rules go that are entered from it. -/
theorem rendersSimilarly_refl
    (hR : Trace.Congruence R)
    (henter : ∀ name c, Similar R (enter name c) (enter' name c))
    (e : Element) :
    RendersSimilarly R o enter enter' e e where
  looks := .refl e
  renders _ := (stepwise_similar hR).element (.refl o) fun name _ c' _ => henter name c'

end Elements

end Walk

/-- Two rules of one name whose definitions go the same way if the rules go that they refer to. -/
structure RulesSimilar (R : Trace → Trace → Prop) (o : Options) (r s : Rule) : Prop where
  name : r.name = s.name
  definition : ∀ {enter enter' : String → Context → Walk String},
    (∀ name c, Walk.Similar R (enter name c) (enter' name c)) →
      ∀ c, Walk.Similar R (Walk.element o enter r.definition c)
        (Walk.element o enter' s.definition c)

theorem RulesSimilar.refl
    {R : Trace → Trace → Prop}
    (hR : Trace.Congruence R)
    (o : Options)
    (r : Rule) :
    RulesSimilar R o r r :=
  ⟨rfl, fun henter => (Walk.rendersSimilarly_refl hR henter r.definition).renders⟩

end Render

namespace Grammar

open Render

variable {R : Trace → Trace → Prop} {g h : Grammar} {o : Render.Options}

/-- Grammars with similar rules have the same keys. -/
theorem contains_congr
    (hrules : ∀ key, Option.Rel (RulesSimilar R o) (h.rule? key) (g.rule? key)) :
    h.contains = g.contains := by
  funext key
  have hkey := hrules key
  show (h.rule? key).isSome = (g.rule? key).isSome
  generalize h.rule? key = r, g.rule? key = s at hkey
  cases hkey with
  | none => rfl
  | some _ => rfl

/-- Rules with similar definitions are rendered similarly, to any depth. -/
theorem similar_rule
    (hR : Trace.Congruence R)
    (hroot : h.root = g.root)
    (hrules : ∀ key, Option.Rel (RulesSimilar R o) (h.rule? key) (g.rule? key))
    (allowance : Nat)
    (key : String)
    (c : Context) :
    Walk.Similar R (Walk.rule h o allowance key c) (Walk.rule g o allowance key c) := by
  induction allowance generalizing key c with
  | zero =>
      have hkey := hrules key
      unfold Walk.rule
      generalize h.rule? key = r, g.rule? key = s at hkey
      cases hkey with
      | none => rw [hroot]; exact Walk.similar_throw _
      | some hr => dsimp only; rw [hr.name]; exact Walk.similar_throw _
  | succ allowance ih =>
      have hkey := hrules key
      unfold Walk.rule
      generalize h.rule? key = r, g.rule? key = s at hkey
      cases hkey with
      | none => rw [hroot]; exact Walk.similar_throw _
      | some hr =>
          dsimp only
          rw [hr.name]
          split
          · exact Walk.similar_pure ""
          · refine Walk.similar_get_bind fun s t hst => ?_
            rw [hR.entered hst]
            split
            · exact (Walk.similar_note hR _).bind fun _ => Walk.similar_pure ""
            · exact (Walk.similar_note hR _).bind fun _ => hr.definition ih _

/-- Grammars whose rules go the same way have the same blocks, behind related traces. -/
theorem similar_blocks
    (hR : Trace.Congruence R)
    (hroot : h.root = g.root)
    (hrules : ∀ key, Option.Rel (RulesSimilar R o) (h.rule? key) (g.rule? key)) :
    Walk.Similar R (Render.blocks h o) (Render.blocks g o) := by
  unfold Render.blocks
  rw [hroot, contains_congr hrules]
  refine (similar_rule hR hroot hrules _ _ _).bind fun main => ?_
  refine Walk.similar_get_bind fun s t hst => ?_
  rw [hR.entered hst]
  split
  · exact (similar_rule hR hroot hrules _ _ _).bind fun schema => Walk.similar_pure _
  · exact Walk.similar_pure _

end Grammar

end SchemaGrammar
