import SchemaGrammar.Proofs.Render.OneLine
import SchemaGrammar.Proofs.Render.Spacing

/-!
# Layout changes white space and nothing else

The renderer never looks at what it has written, only at whether it has written anything.  So
under options that differ in the layout alone it goes the same way: it fails with the same
error, or notes down the same events and writes texts with the same tokens.  Since stubs are
made from the events, the documents have the same tokens too.

**Results.**
* `Walk.Accompanies.bind`: walks that go the same way, one after the other.
* `Walk.accompanies_element`, `Walk.accompanies_rule`: elements and rules under two layouts.
* `Grammar.render_relayout`: documents under two layouts.
-/

namespace SchemaGrammar

namespace Render

/-- Options that differ in the layout alone. -/
structure Options.SameContent (o o' : Options) : Prop where
  includeDescriptions : o.includeDescriptions = o'.includeDescriptions
  maxDepth : o.maxDepth = o'.maxDepth

theorem Options.SameContent.hides
    {o o' : Options}
    (h : o.SameContent o')
    (e : Element) :
    o.hides e = o'.hides e := by
  unfold Options.hides
  rw [h.includeDescriptions]

namespace Walk

section Steps

variable {α β γ δ : Type} {V : α → β → Prop} {W : γ → δ → Prop}

/-- Two outcomes behind the same events with related values, or with the same error. -/
inductive Parallel (V : α → β → Prop) :
    Except RenderError (α × Trace) → Except RenderError (β × Trace) → Prop
  | ok {a : α} {b : β} (t : Trace) (h : V a b) : Parallel V (.ok (a, t)) (.ok (b, t))
  | error (err : RenderError) : Parallel V (.error err) (.error err)

/-- Two walks that go the same way from every trace, to related values. -/
def Accompanies (V : α → β → Prop) (v : Walk α) (w : Walk β) : Prop :=
  ∀ t : Trace, Parallel V (v.run t) (w.run t)

theorem accompanies_pure
    {a : α}
    {b : β}
    (h : V a b) :
    Accompanies V (pure a) (pure b) :=
  fun t => .ok t h

theorem accompanies_refl
    {V : α → α → Prop}
    (hV : ∀ a, V a a)
    (v : Walk α) :
    Accompanies V v v := by
  intro t
  cases v.run t with
  | error err => exact .error err
  | ok p => exact .ok p.2 (hV p.1)

/-- What goes on with accompanying results accompanies. -/
theorem Accompanies.bind
    {v : Walk α}
    {w : Walk β}
    {f : α → Walk γ}
    {g : β → Walk δ}
    (h : Accompanies V v w)
    (hnext : ∀ a b, V a b → Accompanies W (f a) (g b)) :
    Accompanies W (v >>= f) (w >>= g) := by
  intro t
  have hfirst := h t
  rw [StateT.run_bind, StateT.run_bind]
  generalize v.run t = x, w.run t = y at hfirst
  cases hfirst with
  | error err => exact .error err
  | ok t hab => exact hnext _ _ hab t

theorem Accompanies.map
    {v : Walk α}
    {w : Walk β}
    {f : α → γ}
    {g : β → δ}
    (h : Accompanies V v w)
    (hfg : ∀ a b, V a b → W (f a) (g b)) :
    Accompanies W (v >>= fun a => pure (f a)) (w >>= fun b => pure (g b)) :=
  h.bind fun a b hab => accompanies_pure (hfg a b hab)

/-- Both walks see the same events. -/
theorem accompanies_get_bind
    {f : Trace → Walk γ}
    {g : Trace → Walk δ}
    (h : ∀ t, Accompanies W (f t) (g t)) :
    Accompanies W (get >>= f) (get >>= g) :=
  fun t => h t t

end Steps

section Elements

variable {o o' : Options} {enter enter' : String → Context → Walk String}

/-- The parts of a sequence accompany one another. -/
theorem accompanies_sequenceParts
    {es : List Element}
    (hes : ∀ e ∈ es, ∀ c, Accompanies SameTokens (element o enter e c) (element o' enter' e c))
    (previous : Option Element)
    (c : Context) :
    Accompanies (List.Forall₂ SameParts) (sequenceParts o enter previous es c)
      (sequenceParts o' enter' previous es c) := by
  induction es generalizing previous with
  | nil => exact accompanies_pure .nil
  | cons e es ih =>
      obtain ⟨he, hes⟩ := List.forall_mem_cons.mp hes
      rw [sequenceParts, sequenceParts]
      refine (he _).bind fun text text' htext => ?_
      refine (ih hes (some e)).map fun parts parts' hparts => ?_
      by_cases hempty : text = ""
      · have hempty' := htext.empty.mp hempty
        rw [if_pos (String.isEmpty_iff.mpr hempty), if_pos (String.isEmpty_iff.mpr hempty')]
        exact hparts
      · have hempty' : text' ≠ "" := fun h => hempty (htext.empty.mpr h)
        rw [if_neg (fun h => hempty (String.isEmpty_iff.mp h)),
          if_neg (fun h => hempty' (String.isEmpty_iff.mp h))]
        exact .cons ⟨htext, hempty⟩ hparts

theorem accompanies_firstAdmitted
    {es : List Element}
    (hes : ∀ e ∈ es, ∀ c, Accompanies SameTokens (element o enter e c) (element o' enter' e c))
    (admitted : Element → Bool)
    (c : Context) :
    Accompanies SameTokens (firstAdmitted o enter admitted es c)
      (firstAdmitted o' enter' admitted es c) := by
  induction es with
  | nil => exact accompanies_pure (sameTokens_refl "")
  | cons e es ih =>
      obtain ⟨he, hes⟩ := List.forall_mem_cons.mp hes
      rw [firstAdmitted, firstAdmitted]
      split
      · exact he c
      · exact ih hes

/-- Elements go the same way under two layouts if rules do. -/
theorem accompanies_element
    (ho : o.SameContent o')
    (henter : ∀ name c, Accompanies SameTokens (enter name c) (enter' name c))
    (e : Element)
    (c : Context) :
    Accompanies SameTokens (element o enter e c) (element o' enter' e c) := by
  have hempty : Accompanies SameTokens (pure "" : Walk String) (pure "") :=
    accompanies_pure (sameTokens_refl "")
  induction e using Element.inductionOn generalizing c with
  | terminal name pattern =>
      rw [element, element, ho.hides]
      exact accompanies_refl sameTokens_refl _
  | nonTerminal name =>
      rw [element, element, ho.hides]
      split
      · exact hempty
      · exact henter name c
  | sequence es ih =>
      rw [element, element]
      refine (accompanies_sequenceParts ih none _).map fun parts parts' hparts => ?_
      exact Layout.sameTokens_sequence o.layout o'.layout hparts
  | oneOf es ih =>
      rw [element, element]
      exact accompanies_firstAdmitted ih _ c
  | optional e ih =>
      rw [element, element, ho.hides]
      split
      · exact hempty
      · exact ih c
  | list e ih =>
      rw [element, element]
      split
      · refine (ih _).bind fun query query' hquery => ?_
        refine (ih _).bind fun mutation mutation' hmutation => ?_
        refine (ih _).map fun subscription subscription' hsubscription => ?_
        refine Layout.sameTokens_lines o.layout o'.layout ?_
        exact .cons hquery (.cons hmutation (.cons hsubscription .nil))
      · exact ih _

end Elements

section Rules

variable {o o' : Options}

/-- A rule has the same tokens in every layout. -/
theorem accompanies_rule
    (ho : o.SameContent o')
    (g : Grammar)
    (allowance : Nat)
    (key : String)
    (c : Context) :
    Accompanies SameTokens (rule g o allowance key c) (rule g o' allowance key c) := by
  induction allowance generalizing key c with
  | zero =>
      unfold rule
      rw [ho.maxDepth]
      exact accompanies_refl sameTokens_refl _
  | succ allowance ih =>
      unfold rule
      rw [ho.includeDescriptions]
      split
      · exact accompanies_refl sameTokens_refl _
      · next r hr =>
          dsimp only
          split
          · exact accompanies_refl sameTokens_refl _
          · refine accompanies_get_bind fun t => ?_
            split
            · exact accompanies_refl sameTokens_refl _
            · refine (accompanies_refl (fun _ => rfl) _).bind fun _ _ (_ : _ = _) => ?_
              exact accompanies_element ho ih r.definition _

/-- The blocks of a document under two layouts. -/
theorem accompanies_blocks
    (ho : o.SameContent o')
    (g : Grammar) :
    Accompanies (List.Forall₂ SameTokens) (Render.blocks g o) (Render.blocks g o') := by
  have hrule := fun key => accompanies_rule ho g o.maxDepth key .start
  unfold Render.blocks
  rw [← ho.maxDepth]
  refine (hrule g.root).bind fun main main' hmain => accompanies_get_bind fun t => ?_
  split
  · refine (hrule RuleName.schemaDefinition).map fun schema schema' hschema => ?_
    exact .cons hmain (.cons hschema .nil)
  · exact accompanies_pure (.cons hmain .nil)

end Rules

end Walk

/-- Documents with the same tokens in their blocks, behind the same events. -/
theorem tokens_text_congr
    (l l' : Layout)
    {blocks blocks' : List String}
    (h : List.Forall₂ SameTokens blocks blocks')
    (trace : Trace) :
    Text.tokens (Outline.text l ⟨blocks, trace⟩) = Text.tokens (Outline.text l' ⟨blocks', trace⟩) := by
  unfold Outline.text
  rw [Layout.tokens_document, Layout.tokens_document, List.flatMap_append, List.flatMap_append,
    flatMap_tokens_congr h, List.flatMap_map, List.flatMap_map]
  congr 1
  exact List.flatMap_congr fun stub _ => stub.tokens_text l l'

end Render

namespace Grammar

open Render

/-- **Layout is white space.**  Under options that differ in the layout alone, rendering fails
with one error or gives documents with the same tokens; and a document on one line has no line
feed if no terminal of the grammar has one. -/
theorem render_relayout
    (g : Grammar)
    (o : Render.Options)
    (pretty : Bool)
    (indent : Nat) :
    ((∃ err, g.render o = .error err ∧ g.render { o with pretty, indent } = .error err) ∨
      ∃ text text', g.render o = .ok text ∧ g.render { o with pretty, indent } = .ok text' ∧
        Text.tokens text = Text.tokens text') ∧
    (o.pretty = false →
      (∀ key rule, g.rule? key = some rule → rule.definition.OnOneLine) →
        ∀ text, g.render o = .ok text → '\n' ∉ text.toList) := by
  refine ⟨?_, fun hpretty hg text h => onOneLine_of_render_eq_ok hpretty hg h⟩
  have ho : o.SameContent { o with pretty, indent } := ⟨rfl, rfl⟩
  have hblocks := Walk.accompanies_blocks ho g []
  unfold Grammar.render Grammar.outline
  split
  · generalize (Render.blocks g o).run [] = x,
      (Render.blocks g { o with pretty, indent }).run [] = y at hblocks
    cases hblocks with
    | error err => exact .inl ⟨err, rfl, rfl⟩
    | ok trace hblocks => exact .inr ⟨_, _, rfl, rfl, tokens_text_congr _ _ hblocks trace⟩
  · exact .inl ⟨.missingRoot g.root, rfl, rfl⟩

/-- A described type with one field of a type that is not defined. -/
def authoredGrammar : Grammar :=
  .ofRules RuleName.objectTypeDefinition
    [⟨RuleName.objectTypeDefinition,
      .sequence
        [.optional (.terminal RuleName.description none), .token "type",
          .terminal "Name" (some (.literal "Post")), .token "\x7b",
          .list (.nonTerminal RuleName.fieldDefinition), .token "\x7d"]⟩,
      ⟨RuleName.fieldDefinition,
        .sequence
          [.terminal "Name" (some (.literal "author")), .token ":",
            .terminal "TypeName" (some (.literal "User")), .token "!"]⟩]

def authoredText : String :=
  "\"example\" type Post \x7b author : User ! \x7d type User \x7b placeholder: String \x7d " ++
    "type Query \x7b placeholder: String \x7d"

def authoredLines : String :=
  "\"example\"\ntype Post \x7b\n  author: User!\n\x7d\n\ntype User \x7b\n" ++
    "  placeholder: String\n\x7d\n\ntype Query \x7b\n  placeholder: String\n\x7d"

theorem render_relayout_authored :
    authoredGrammar.render .compact = .ok authoredText ∧
      authoredGrammar.render {} = .ok authoredLines ∧
      Text.tokens authoredText = Text.tokens authoredLines ∧ '\n' ∉ authoredText.toList := by
  have htext : authoredGrammar.render .compact = .ok authoredText := by decide +kernel
  have hlines : authoredGrammar.render {} = .ok authoredLines := by decide +kernel
  have hfeed : ∀ key rule, authoredGrammar.rule? key = some rule → rule.definition.OnOneLine := by
    intro key rule hrule
    have hall : ∀ e ∈ authoredGrammar.rules.entries, e.2.definition.OnOneLine := by decide
    exact hall _ (Table.get?_eq_some_iff.mp hrule)
  obtain ⟨hsame, hline⟩ := render_relayout authoredGrammar .compact true 2
  rcases hsame with ⟨err, herror, -⟩ | ⟨text, text', hok, hok', htokens⟩
  · rw [htext] at herror
    cases herror
  · cases htext.symm.trans hok
    cases hlines.symm.trans hok'
    exact ⟨htext, hlines, htokens, hline rfl hfeed authoredText htext⟩

end Grammar

end SchemaGrammar
