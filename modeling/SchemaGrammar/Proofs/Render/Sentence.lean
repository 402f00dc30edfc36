import SchemaGrammar.Proofs.Collection.Except
import SchemaGrammar.Proofs.Grammar.Language
import SchemaGrammar.Proofs.Render.Closure
import SchemaGrammar.Proofs.Render.Joining
import SchemaGrammar.Proofs.Render.Success
import Mathlib.Data.List.Forall2

/-!
# Documents on one line are sentences

What the renderer chooses is a derivation of the grammar: the alternative of a choice, an
optional part that is there, one occurrence of a repetition or one for each root operation.  On
one line nothing is written but the terminals of the derivation, with single spaces between
them.  Only a schema definition that comes up again is passed over, although the grammar has
something to say there.

**Results.**
* `Layout.spaced_group`: texts with single spaces between them may be joined in groups.
* `Walk.Yields.bind`: what is yielded by steps that are taken one after the other.
* `Walk.yields_element`, `Walk.yields_rule`: elements and rules are rendered as their phrases.
* `Grammar.render_generates`: a document begins with a sentence of its grammar.
-/

namespace SchemaGrammar

namespace Render

namespace Layout

section Spaces

/-- Texts with single spaces between them, those that are empty left out. -/
def spaced (texts : List String) : String :=
  " ".intercalate (texts.filter fun text => !text.isEmpty)

@[simp] theorem spaced_singleton
    (text : String) :
    spaced [text] = text := by
  unfold spaced
  by_cases h : text = ""
  · rw [h]
    rfl
  · simp [h]

/-- A group of texts may be joined first. -/
theorem spaced_group
    (before group after : List String) :
    spaced (before ++ spaced group :: after) = spaced (before ++ (group ++ after)) := by
  by_cases h : spaced group = ""
  · have hnil := filter_eq_nil_of_intercalate_eq_empty h
    rw [h]
    simp [spaced, hnil]
  · have hgroup : group.filter (fun text => !text.isEmpty) ≠ [] := by
      intro hnil
      refine h ?_
      rw [spaced, hnil, String.intercalate_nil]
    have hshown : ((before ++ spaced group :: after).filter fun text => !text.isEmpty) =
        (before.filter fun text => !text.isEmpty) ++
          spaced group :: after.filter fun text => !text.isEmpty := by
      simp [h]
    rw [spaced, hshown]
    unfold spaced
    rw [intercalate_group " " _ _ hgroup, List.filter_append, List.filter_append]

/-- One group of texts before others that may be joined in another way. -/
theorem spaced_cons_spaced
    (group : List String)
    {texts after : List String}
    (h : spaced texts = spaced after) :
    spaced (spaced group :: texts) = spaced (group ++ after) := by
  have hlast : ∀ last, spaced (group ++ [spaced last]) = spaced (group ++ last) := by
    intro last
    simpa using spaced_group group last []
  calc spaced (spaced group :: texts)
      = spaced (group ++ texts) := spaced_group [] group texts
    _ = spaced (group ++ [spaced texts]) := (hlast texts).symm
    _ = spaced (group ++ [spaced after]) := by rw [h]
    _ = spaced (group ++ after) := hlast after

variable {l : Layout}

theorem lines_eq_spaced
    (h : l.pretty = false)
    (items : List String) :
    l.lines items = spaced items := by
  unfold lines spaced
  rw [h]
  rfl

/-- Parts of the compact layout are separated by spaces. -/
theorem sequence_eq_spaced
    (h : l.pretty = false)
    {parts : List Part}
    {texts : List String}
    (hparts : parts.map (·.text) = texts.filter fun text => !text.isEmpty) :
    l.sequence parts = spaced texts := by
  unfold sequence spaced
  rw [h, hparts]
  rfl

end Spaces

end Layout

section Terminals

/-- What is written for a terminal at a place if it has no text of its own. -/
def placeholder (name : String) (c : Context) : String :=
  match TerminalClass.ofName name with
  | .name hint => (Role.resolve hint c).sample c
  | cls => cls.sample name c

/-- A text of a terminal: its name if that is a keyword or a punctuator, else its literal text if
it has one, else a placeholder. -/
def ReadsAs (t : Terminal) (text : String) : Prop :=
  if isKeyword t.name || isPunctuator t.name then text = t.name
  else match t.pattern.bind Pattern.literal? with
    | some literal => text = literal
    | none => ∃ c, text = placeholder t.name c

/-- A terminal is written in a form in which it can be read. -/
theorem readsAs_terminalText
    (name : String)
    (pattern : Option Pattern)
    (c : Context) :
    ReadsAs ⟨name, pattern⟩ (Walk.terminalText name pattern c).1 := by
  unfold ReadsAs Walk.terminalText
  dsimp only
  split
  · rfl
  · cases pattern.bind Pattern.literal? with
    | some literal =>
        dsimp only
        split <;> rfl
    | none =>
        refine ⟨c, ?_⟩
        unfold placeholder
        cases TerminalClass.ofName name <;> rfl

end Terminals

end Render

namespace Grammar

open Render

section Phrases

/-- A text of an element: the texts of a string of terminals that the element derives. -/
def Phrase (g : Grammar) (e : Element) (text : String) : Prop :=
  ∃ w texts, g.Derives e w ∧ List.Forall₂ ReadsAs w texts ∧ text = Layout.spaced texts

variable {g : Grammar}

theorem phrase_terminal
    (name : String)
    (pattern : Option Pattern)
    (c : Context) :
    g.Phrase (.terminal name pattern) (Walk.terminalText name pattern c).1 := by
  refine ⟨_, _, .terminal name pattern, .cons (readsAs_terminalText name pattern c) .nil, ?_⟩
  rw [Layout.spaced_singleton]

theorem phrase_nonTerminal
    {name : String}
    {rule : Rule}
    (hrule : g.rule? name = some rule)
    {text : String}
    (h : g.Phrase rule.definition text) :
    g.Phrase (.nonTerminal name) text := by
  obtain ⟨w, texts, hw, htexts, rfl⟩ := h
  exact ⟨w, texts, .nonTerminal hrule hw, htexts, rfl⟩

/-- Phrases of the elements make one of the sequence. -/
theorem phrase_sequence
    {es : List Element}
    {texts : List String}
    (h : List.Forall₂ g.Phrase es texts) :
    g.Phrase (.sequence es) (Layout.spaced texts) := by
  induction h with
  | nil => exact ⟨[], [], .sequenceNil, .nil, rfl⟩
  | cons h _ ih =>
      obtain ⟨u, us, hu, hus, rfl⟩ := h
      obtain ⟨v, vs, hv, hvs, htexts⟩ := ih
      have hspaced := Layout.spaced_cons_spaced us htexts
      exact ⟨u ++ v, us ++ vs, .sequenceCons hu hv, List.rel_append hus hvs, hspaced⟩

theorem phrase_oneOf
    {e : Element}
    {es : List Element}
    (he : e ∈ es)
    {text : String}
    (h : g.Phrase e text) :
    g.Phrase (.oneOf es) text := by
  obtain ⟨w, texts, hw, htexts, rfl⟩ := h
  exact ⟨w, texts, .oneOf he hw, htexts, rfl⟩

theorem phrase_optional
    {e : Element}
    {text : String}
    (h : g.Phrase e text) :
    g.Phrase (.optional e) text := by
  obtain ⟨w, texts, hw, htexts, rfl⟩ := h
  exact ⟨w, texts, .optionalSome hw, htexts, rfl⟩

theorem phrase_list
    {e : Element}
    {text : String}
    (h : g.Phrase e text) :
    g.Phrase (.list e) text := by
  obtain ⟨w, texts, hw, htexts, rfl⟩ := h
  exact ⟨w, texts, .listOnce hw, htexts, rfl⟩

/-- One more occurrence before those of a repetition. -/
theorem phrase_list_cons
    {e : Element}
    {text : String}
    {texts : List String}
    (h : g.Phrase e text)
    (hrest : g.Phrase (.list e) (Layout.spaced texts)) :
    g.Phrase (.list e) (Layout.spaced (text :: texts)) := by
  obtain ⟨u, us, hu, hus, rfl⟩ := h
  obtain ⟨v, vs, hv, hvs, htexts⟩ := hrest
  have hspaced := Layout.spaced_cons_spaced us htexts
  exact ⟨u ++ v, us ++ vs, .listMore hu hv, List.rel_append hus hvs, hspaced⟩

end Phrases

end Grammar

namespace Render

/-- How often a rule has come up. -/
def Trace.visits (t : Trace) (rule : String) : Nat :=
  t.countP fun event => event == .entered rule || event == .repeated rule

/-- Later traces have no fewer visits. -/
theorem Trace.visits_mono
    {s t : Trace}
    (h : s <:+ t)
    (rule : String) :
    s.visits rule ≤ t.visits rule :=
  h.sublist.countP_le

/-- A rule that is passed over has come up before. -/
theorem Trace.one_lt_visits
    {t : Trace}
    {rule : String}
    (h : .entered rule ∈ t) :
    1 < Trace.visits (.repeated rule :: t) rule := by
  have hbefore : 0 < t.visits rule := List.countP_pos_iff.mpr ⟨_, h, by simp⟩
  unfold visits at hbefore ⊢
  rw [List.countP_cons_of_pos (by simp)]
  omega

namespace Walk

section Steps

variable {α β : Type} {P Q : α → Prop}

/-- The events before a step are kept, and it gives what is wanted unless the schema definition
has come up again. -/
def Yields (step : Walk α) (Q : α → Prop) : Prop :=
  ∀ ⦃s : Trace⦄ ⦃a : α⦄ ⦃t : Trace⦄, step.run s = .ok (a, t) →
    s <:+ t ∧ (t.visits RuleName.schemaDefinition ≤ 1 → Q a)

theorem yields_pure
    {a : α}
    (h : Q a) :
    Yields (pure a) Q := by
  intro s b t hrun
  cases hrun
  exact ⟨List.suffix_refl s, fun _ => h⟩

theorem yields_note
    (event : Event) :
    Yields (note event) fun _ => True := by
  intro s a t hrun
  cases hrun
  exact ⟨List.suffix_cons event s, fun _ => trivial⟩

theorem Yields.imp
    {step : Walk α}
    (h : Yields step P)
    (himp : ∀ a, P a → Q a) :
    Yields step Q := by
  intro s a t hrun
  obtain ⟨hsuffix, ha⟩ := h hrun
  exact ⟨hsuffix, fun hvisits => himp a (ha hvisits)⟩

/-- The second step may rely on what the first one has given. -/
theorem Yields.bind
    {step : Walk α}
    {next : α → Walk β}
    {R : β → Prop}
    (h : Yields step P)
    (hnext : ∀ a, Yields (next a) fun b => P a → R b) :
    Yields (step >>= next) R := by
  intro s b t hrun
  rw [StateT.run_bind] at hrun
  obtain ⟨⟨a, u⟩, hstep, hrun⟩ := Except.bind_eq_ok_iff.mp hrun
  obtain ⟨hfirst, ha⟩ := h hstep
  obtain ⟨hsecond, hb⟩ := hnext a hrun
  refine ⟨hfirst.trans hsecond, fun hvisits => ?_⟩
  exact hb hvisits (ha (Nat.le_trans (Trace.visits_mono hsecond _) hvisits))

theorem Yields.map
    {step : Walk α}
    {f : α → β}
    {R : β → Prop}
    (h : Yields step P)
    (hf : ∀ a, P a → R (f a)) :
    Yields (step >>= fun a => pure (f a)) R :=
  h.bind fun a => yields_pure (hf a)

theorem yields_terminal
    {g : Grammar}
    (name : String)
    (pattern : Option Pattern)
    (c : Context) :
    Yields (terminal name pattern c) (g.Phrase (.terminal name pattern)) := by
  have hphrase := Grammar.phrase_terminal (g := g) name pattern c
  unfold terminal
  generalize terminalText name pattern c = written at hphrase
  obtain ⟨text, event⟩ := written
  cases event with
  | none => exact yields_pure hphrase
  | some event => exact (yields_note event).map fun _ _ => hphrase

end Steps

section Elements

variable {g : Grammar} {o : Options} {enter : String → Context → Walk String}

/-- The parts of a sequence are phrases of its elements. -/
theorem yields_sequenceParts
    {es : List Element}
    (hes : ∀ e ∈ es, ∀ c, Yields (element o enter e c) (g.Phrase e))
    (previous : Option Element)
    (c : Context) :
    Yields (sequenceParts o enter previous es c) fun parts =>
      ∃ texts, List.Forall₂ g.Phrase es texts ∧
        parts.map (·.text) = texts.filter fun text => !text.isEmpty := by
  induction es generalizing previous with
  | nil => exact yields_pure ⟨[], .nil, rfl⟩
  | cons e es ih =>
      obtain ⟨he, hes⟩ := List.forall_mem_cons.mp hes
      rw [sequenceParts]
      refine (he _).bind fun text => ?_
      refine (ih hes (some e)).map fun parts => ?_
      rintro ⟨texts, htexts, hparts⟩ htext
      refine ⟨text :: texts, .cons htext htexts, ?_⟩
      rw [List.filter_cons]
      cases text.isEmpty with
      | true => exact hparts
      | false => exact congrArg (text :: ·) hparts

/-- One alternative is always admitted. -/
theorem exists_admits
    (c : Context)
    {es : List Element}
    (hes : es ≠ []) :
    ∃ e ∈ es, c.admits es e = true := by
  unfold Context.admits
  cases c.operation with
  | none =>
      obtain ⟨e, rest, rfl⟩ := List.exists_cons_of_ne_nil hes
      exact ⟨e, List.mem_cons_self, rfl⟩
  | some operation =>
      dsimp only
      split
      · next hany => exact List.any_eq_true.mp hany
      · obtain ⟨e, rest, rfl⟩ := List.exists_cons_of_ne_nil hes
        exact ⟨e, List.mem_cons_self, rfl⟩

/-- The alternative that is chosen is a phrase of the choice. -/
theorem yields_firstAdmitted
    {admitted : Element → Bool}
    {es : List Element}
    {c : Context}
    (hes : ∀ e ∈ es, Yields (element o enter e c) (g.Phrase e))
    (hadmitted : ∃ e ∈ es, admitted e = true) :
    Yields (firstAdmitted o enter admitted es c) fun text => ∃ e ∈ es, g.Phrase e text := by
  induction es with
  | nil =>
      obtain ⟨e, he, -⟩ := hadmitted
      cases he
  | cons e es ih =>
      obtain ⟨he, hes⟩ := List.forall_mem_cons.mp hes
      rw [firstAdmitted]
      split
      · exact he.imp fun text htext => ⟨e, List.mem_cons_self, htext⟩
      · next hnot =>
          obtain ⟨d, hd, hdadmitted⟩ := hadmitted
          have hd : d ∈ es := by
            rcases List.mem_cons.mp hd with rfl | hd
            · exact absurd hdadmitted hnot
            · exact hd
          refine (ih hes ⟨d, hd, hdadmitted⟩).imp fun text => ?_
          rintro ⟨e', he', htext⟩
          exact ⟨e', List.mem_cons_of_mem e he', htext⟩

/-- Elements are rendered as their phrases if rules are. -/
theorem yields_element
    (hpretty : o.pretty = false)
    (hdescriptions : o.includeDescriptions = true)
    (henter : ∀ name c, Yields (enter name c) (g.Phrase (.nonTerminal name)))
    {e : Element}
    (he : .oneOf [] ∉ e.walk)
    (c : Context) :
    Yields (element o enter e c) (g.Phrase e) := by
  have hshown : ∀ e, o.hides e = false := by
    intro e
    unfold Options.hides
    rw [hdescriptions]
    rfl
  induction e using Element.inductionOn generalizing c with
  | terminal name pattern =>
      rw [element, hshown]
      exact yields_terminal name pattern c
  | nonTerminal name =>
      rw [element, hshown]
      exact henter name c
  | sequence es ih =>
      rw [element]
      have hes := fun e hmem => ih e hmem fun hin => he (Element.walk_subset_sequence hmem hin)
      refine (yields_sequenceParts hes none _).map ?_
      rintro parts ⟨texts, htexts, hparts⟩
      rw [Layout.sequence_eq_spaced hpretty hparts]
      exact Grammar.phrase_sequence htexts
  | oneOf es ih =>
      rw [element]
      have hes : es ≠ [] := by
        rintro rfl
        exact he List.mem_cons_self
      have hparts := fun e hmem =>
        ih e hmem (fun hin => he (Element.walk_subset_oneOf hmem hin)) c
      have hfirst := yields_firstAdmitted hparts (exists_admits c hes)
      refine hfirst.imp fun text => ?_
      rintro ⟨e, hmem, htext⟩
      exact Grammar.phrase_oneOf hmem htext
  | optional e ih =>
      rw [element, hshown]
      exact (ih (fun hin => he (List.mem_cons_of_mem _ hin)) c).imp fun text =>
        Grammar.phrase_optional
  | list e ih =>
      have hinner := ih fun hin => he (List.mem_cons_of_mem _ hin)
      rw [element]
      split
      · refine (hinner _).bind fun query => ?_
        refine (hinner _).bind fun mutation => ?_
        refine (hinner _).map fun subscription hsubscription hmutation hquery => ?_
        rw [Layout.lines_eq_spaced hpretty]
        have hlast : g.Phrase (.list e) (Layout.spaced [subscription]) := by
          rw [Layout.spaced_singleton]
          exact Grammar.phrase_list hsubscription
        exact Grammar.phrase_list_cons hquery (Grammar.phrase_list_cons hmutation hlast)
      · exact (hinner _).imp fun text => Grammar.phrase_list

end Elements

section Rules

variable {g : Grammar} {o : Options}

/-- Rules are rendered as their phrases. -/
theorem yields_rule
    (hchoices : ∀ key rule, g.rule? key = some rule → .oneOf [] ∉ rule.definition.walk)
    (hpretty : o.pretty = false)
    (hdescriptions : o.includeDescriptions = true)
    (allowance : Nat)
    (key : String)
    (c : Context) :
    Yields (rule g o allowance key c) (g.Phrase (.nonTerminal key)) := by
  induction allowance generalizing key c with
  | zero =>
      intro s text t hrun
      obtain ⟨r, n, -, hn, -⟩ := run_rule_cases hrun
      cases hn
  | succ allowance ih =>
      intro s text t hrun
      obtain ⟨r, n, hr, hn, hcases⟩ := run_rule_cases hrun
      cases hn
      rcases hcases with ⟨hhidden, -, -, -⟩ | ⟨hname, hentered, rfl, rfl⟩ | ⟨-, hbody⟩
      · rw [hdescriptions] at hhidden
        cases hhidden
      · rw [hname] at hentered ⊢
        refine ⟨List.suffix_cons _ s, fun hvisits => absurd hvisits (Nat.not_le.mpr ?_)⟩
        exact Trace.one_lt_visits hentered
      · obtain ⟨hsuffix, hphrase⟩ :=
          yields_element hpretty hdescriptions ih (hchoices key r hr) _ hbody
        refine ⟨(List.suffix_cons _ s).trans hsuffix, fun hvisits => ?_⟩
        exact Grammar.phrase_nonTerminal hr (hphrase hvisits)

end Rules

end Walk

end Render

namespace Grammar

open Render

variable {g : Grammar} {o : Render.Options}

/-- The first block of a document is the text of the root. -/
theorem exists_run_root
    {texts : List String}
    {trace : Trace}
    (h : (Render.blocks g o).run [] = .ok (texts, trace)) :
    ∃ main trace' rest,
      (Walk.rule g o o.maxDepth g.root .start).run [] = .ok (main, trace') ∧
        texts = main :: rest := by
  obtain ⟨main, trace', hmain, hcases⟩ := run_blocks_cases h
  rcases hcases with ⟨-, -, schema, htexts, -⟩ | ⟨-, htexts, -⟩
  · exact ⟨main, trace', [schema], hmain, htexts⟩
  · exact ⟨main, trace', [], hmain, htexts⟩

/-- **Documents are sentences.**  Without empty choices, on one line and with descriptions, the
text of the root is a sentence of the grammar: the texts of a string of terminals that the root
generates with single spaces between them, unless the schema definition comes up twice. -/
theorem render_generates
    (hchoices : ∀ key rule, g.rule? key = some rule → .oneOf [] ∉ rule.definition.walk)
    (hpretty : o.pretty = false)
    (hdescriptions : o.includeDescriptions = true)
    {text : String}
    (h : g.render o = .ok text) :
    ∃ main trace rest,
      (Walk.rule g o o.maxDepth g.root .start).run [] = .ok (main, trace) ∧
        text = o.layout.document (main :: rest) ∧
        (trace.visits RuleName.schemaDefinition ≤ 1 →
          ∃ w texts, g.Generates g.root w ∧ List.Forall₂ ReadsAs w texts ∧
            main = " ".intercalate (texts.filter fun text => !text.isEmpty)) := by
  obtain ⟨outline, houtline, rfl⟩ := render_eq_ok_iff.mp h
  obtain ⟨main, trace, rest, hrun, hblocks⟩ :=
    exists_run_root (run_blocks_of_outline_eq_ok houtline)
  refine ⟨main, trace, rest ++ outline.stubs.map (Stub.text o.layout), hrun, ?_, ?_⟩
  · rw [Render.Outline.text, hblocks, List.cons_append]
  · intro hvisits
    have hyields := Walk.yields_rule hchoices hpretty hdescriptions o.maxDepth g.root .start
    obtain ⟨w, texts, hw, htexts, hmain⟩ := (hyields hrun).2 hvisits
    exact ⟨w, texts, derives_nonTerminal_iff.mp hw, htexts, hmain⟩

/-- A schema whose root operations are the occurrences of one repetition. -/
def operationsGrammar : Grammar :=
  .ofRules RuleName.schemaDefinition
    [⟨RuleName.schemaDefinition,
      .sequence
        [.token "schema", .token "\x7b", .list (.nonTerminal RuleName.rootOperationTypeDefinition),
          .token "\x7d"]⟩,
      ⟨RuleName.rootOperationTypeDefinition,
        .sequence
          [.oneOf [.token "query", .token "mutation", .token "subscription"], .token ":",
            .optional (.terminal "TypeName" none)]⟩]

def operationsText : String :=
  "schema \x7b query : Query mutation : Mutation subscription : Subscription \x7d"

theorem render_generates_operations :
    ∃ w texts, operationsGrammar.Generates RuleName.schemaDefinition w ∧
      List.Forall₂ ReadsAs w texts ∧
      operationsText = " ".intercalate (texts.filter fun text => !text.isEmpty) := by
  have hchoices : ∀ key rule, operationsGrammar.rule? key = some rule →
      .oneOf [] ∉ rule.definition.walk := by
    intro key rule hrule
    have hall : ∀ e ∈ operationsGrammar.rules.entries, .oneOf [] ∉ e.2.definition.walk := by
      decide
    exact hall _ (Table.get?_eq_some_iff.mp hrule)
  have hrender : operationsGrammar.render .compact = .ok
      (operationsText ++ " type Query \x7b placeholder: String \x7d" ++
        " type Mutation \x7b placeholder: String \x7d" ++
        " type Subscription \x7b placeholder: String \x7d") := by
    decide +kernel
  have hroot : (Walk.rule operationsGrammar .compact 64 RuleName.schemaDefinition .start).run [] =
      .ok (operationsText,
        [.typeReferenced "Subscription" .object, .entered RuleName.rootOperationTypeDefinition,
          .typeReferenced "Mutation" .object, .entered RuleName.rootOperationTypeDefinition,
          .typeReferenced "Query" .object, .entered RuleName.rootOperationTypeDefinition,
          .entered RuleName.schemaDefinition]) := by
    decide +kernel
  obtain ⟨main, trace, rest, hrun, -, hsentence⟩ := render_generates hchoices rfl rfl hrender
  cases hroot.symm.trans hrun
  exact hsentence (by decide)

end Grammar

end SchemaGrammar
