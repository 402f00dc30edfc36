import SchemaGrammar.Proofs.Collection.Except
import SchemaGrammar.Proofs.Grammar.Element
import SchemaGrammar.Proofs.Render.Closure
import SchemaGrammar.Proofs.Render.Success

/-!
# Documents on one line

Without several lines no line is ever broken: the line feeds of a document can only come from
the terminals of its grammar.  The names that are written are noted down as well, since the
stubs of the missing ones repeat them.

**Results.**
* `onOneLine_terminalText`: what is written for a terminal, and the name that is noted down.
* `Walk.StaysOnLine.bind`: steps that are taken one after the other.
* `Walk.staysOnLine_element`, `Walk.staysOnLine_rule`: elements and rules.
* `Grammar.onOneLine_of_render_eq_ok`: documents.
-/

namespace SchemaGrammar

namespace Render

/-- A text without a line feed. -/
def OnOneLine (s : String) : Prop := '\n' ∉ s.toList

instance (s : String) : Decidable (OnOneLine s) :=
  inferInstanceAs (Decidable ('\n' ∉ s.toList))

section Texts

variable {s t : String}

theorem onOneLine_append_iff :
    OnOneLine (s ++ t) ↔ OnOneLine s ∧ OnOneLine t := by
  unfold OnOneLine
  rw [String.toList_append, List.mem_append, not_or]

theorem onOneLine_join
    {texts : List String}
    (h : ∀ text ∈ texts, OnOneLine text) :
    OnOneLine (String.join texts) := by
  unfold OnOneLine
  rw [String.toList_join, List.mem_flatMap]
  rintro ⟨text, htext, hfeed⟩
  exact h text htext hfeed

/-- Texts on one line, and what separates them, make a line. -/
theorem onOneLine_intercalate
    (hs : OnOneLine s)
    {texts : List String}
    (h : ∀ text ∈ texts, OnOneLine text) :
    OnOneLine (s.intercalate texts) := by
  induction texts with
  | nil =>
      rw [String.intercalate_nil]
      decide
  | cons text texts ih =>
      obtain ⟨htext, htexts⟩ := List.forall_mem_cons.mp h
      cases texts with
      | nil =>
          rw [String.intercalate_singleton]
          exact htext
      | cons next texts =>
          rw [String.intercalate_cons_cons, onOneLine_append_iff, onOneLine_append_iff]
          exact ⟨⟨htext, hs⟩, ih htexts⟩

theorem onOneLine_trim
    (h : OnOneLine s) :
    OnOneLine (Text.trim s) := by
  unfold OnOneLine Text.trim Text.trimChars
  rw [String.toList_ofList, List.mem_reverse]
  intro hfeed
  have hinner := (List.dropWhile_sublist _).subset hfeed
  rw [List.mem_reverse] at hinner
  exact h ((List.dropWhile_sublist _).subset hinner)

theorem onOneLine_toString
    (n : Nat) :
    OnOneLine (toString n) := by
  intro hfeed
  change '\n' ∈ n.repr.toList at hfeed
  rw [Nat.toList_repr] at hfeed
  have hdigit := Nat.isDigit_of_mem_toDigits (by decide) (by decide) hfeed
  exact absurd hdigit (by decide)

end Texts

namespace Layout

variable {l : Layout}

theorem onOneLine_block
    (hl : l.pretty = false)
    {head : String}
    (hhead : OnOneLine head)
    {lines : List String}
    (hlines : ∀ line ∈ lines, OnOneLine line) :
    OnOneLine (l.block head lines) := by
  have hbody : OnOneLine (String.join (lines.map fun line => " " ++ line)) := by
    refine onOneLine_join fun text htext => ?_
    obtain ⟨line, hline, rfl⟩ := List.mem_map.mp htext
    exact onOneLine_append_iff.mpr ⟨by decide, hlines line hline⟩
  unfold block
  rw [hl, onOneLine_append_iff]
  constructor
  · split
    · decide
    · exact onOneLine_append_iff.mpr ⟨hhead, by decide⟩
  · exact onOneLine_append_iff.mpr ⟨onOneLine_append_iff.mpr ⟨by decide, hbody⟩, by decide⟩

theorem onOneLine_sequence
    (hl : l.pretty = false)
    {parts : List Part}
    (h : ∀ p ∈ parts, OnOneLine p.text) :
    OnOneLine (l.sequence parts) := by
  unfold sequence
  rw [hl]
  refine onOneLine_intercalate (by decide) fun text htext => ?_
  obtain ⟨p, hp, rfl⟩ := List.mem_map.mp htext
  exact h p hp

theorem onOneLine_lines
    (hl : l.pretty = false)
    {items : List String}
    (h : ∀ item ∈ items, OnOneLine item) :
    OnOneLine (l.lines items) := by
  unfold lines
  rw [hl]
  exact onOneLine_intercalate (by decide) fun item hitem => h item (List.mem_filter.mp hitem).1

theorem onOneLine_document
    (hl : l.pretty = false)
    {blocks : List String}
    (h : ∀ block ∈ blocks, OnOneLine block) :
    OnOneLine (l.document blocks) := by
  unfold document
  rw [hl]
  refine onOneLine_intercalate (by decide) fun text htext => ?_
  obtain ⟨block, hblock, rfl⟩ := List.mem_map.mp (List.mem_filter.mp htext).1
  exact onOneLine_trim (h block hblock)

end Layout

/-- The name that an event says has been written. -/
def Event.written? : Event → Option String
  | .entered _ => none
  | .repeated _ => none
  | .typeDefined name _ => some name
  | .typeReferenced name _ => some name
  | .directiveDefined name => some name
  | .directiveReferenced name => some name
  | .directiveArgument name => some name

/-- All names written are on one line. -/
def Trace.OnOneLine (t : Trace) : Prop :=
  ∀ event ∈ t, ∀ name ∈ event.written?, Render.OnOneLine name

section Terminals

/-- Samples are written on one line. -/
theorem onOneLine_sample
    (role : Role)
    (c : Context) :
    OnOneLine (role.sample c) := by
  have hkind : ∀ kind : TypeKind, OnOneLine kind.sample := by
    intro kind
    cases kind <;> decide
  have hoperation : ∀ operation : Operation, OnOneLine operation.rootType := by
    intro operation
    cases operation <;> decide
  cases role with
  | typeReference kind =>
      unfold Role.sample
      dsimp only
      cases c.operation with
      | none => exact hkind kind
      | some operation => exact hoperation operation
  | typeDefinition kind => exact hkind kind
  | field =>
      unfold Role.sample
      dsimp only
      split
      · exact onOneLine_append_iff.mpr ⟨by decide, onOneLine_toString _⟩
      · decide
  | argument => exact (by decide : OnOneLine "arg")
  | enumValue => exact (by decide : OnOneLine "EXAMPLE_VALUE")
  | directiveReference | directiveDefinition | generic =>
      exact (by decide : OnOneLine "example")

theorem onOneLine_classSample
    (cls : TerminalClass)
    {name : String}
    (hname : OnOneLine name)
    (c : Context) :
    OnOneLine (cls.sample name c) := by
  cases cls with
  | name hint => exact hname
  | string =>
      unfold TerminalClass.sample
      dsimp only
      split <;> decide
  | int => exact (by decide : OnOneLine "42")
  | float => exact (by decide : OnOneLine "3.14")
  | boolean => exact (by decide : OnOneLine "true")
  | null => exact (by decide : OnOneLine "null")
  | enum => exact (by decide : OnOneLine "EXAMPLE_VALUE")
  | other =>
      unfold TerminalClass.sample
      dsimp only
      split
      · decide
      · exact hname

/-- The event of writing a name says that it has been written. -/
theorem written?_of_mem_event?
    {role : Role}
    {text : String}
    {c : Context}
    {event : Event}
    (h : event ∈ Walk.event? role text c) :
    event.written? = some text := by
  unfold Walk.event? at h
  cases role with
  | argument =>
      dsimp only at h
      split at h
      · cases h
        rfl
      · cases h
  | field | enumValue | generic => cases h
  | _ =>
      cases h
      rfl

/-- What is written for a terminal and the name that is noted down are on one line if its name
and its literal text are. -/
theorem onOneLine_terminalText
    {name : String}
    {pattern : Option Pattern}
    (hname : OnOneLine name)
    (hliteral : ∀ text ∈ pattern.bind Pattern.literal?, OnOneLine text)
    (c : Context) :
    OnOneLine (Walk.terminalText name pattern c).1 ∧
      ∀ event ∈ (Walk.terminalText name pattern c).2, ∀ text ∈ event.written?, OnOneLine text := by
  have hgetD : ∀ {sample : String}, OnOneLine sample →
      OnOneLine ((pattern.bind Pattern.literal?).getD sample) := by
    intro sample hsample
    cases hpattern : pattern.bind Pattern.literal? with
    | none => exact hsample
    | some text => exact hliteral text hpattern
  unfold Walk.terminalText
  split
  · exact ⟨hname, fun event hevent => nomatch hevent⟩
  · dsimp only
    split
    · next hint _ =>
        have htext := hgetD (onOneLine_sample (Role.resolve hint c) c)
        refine ⟨htext, fun event hevent text hwritten => ?_⟩
        rw [written?_of_mem_event? hevent] at hwritten
        cases hwritten
        exact htext
    · exact ⟨hgetD (onOneLine_classSample _ hname c), fun event hevent => nomatch hevent⟩

end Terminals

end Render

namespace Element

def texts : Element → List String
  | .terminal name pattern => name :: (pattern.bind Pattern.literal?).toList
  | _ => []

/-- The texts of all terminals of an element are on one line. -/
def OnOneLine (e : Element) : Prop := ∀ d ∈ e.walk, ∀ text ∈ d.texts, Render.OnOneLine text

instance (e : Element) : Decidable e.OnOneLine :=
  inferInstanceAs (Decidable (∀ d ∈ e.walk, ∀ text ∈ d.texts, Render.OnOneLine text))

theorem OnOneLine.of_walk_subset
    {d e : Element}
    (h : e.OnOneLine)
    (hsub : d.walk ⊆ e.walk) :
    d.OnOneLine :=
  fun part hpart => h part (hsub hpart)

end Element

namespace Render

namespace Walk

section Steps

variable {α β : Type} {P : α → Prop} {Q : β → Prop}

/-- No name that a step notes down has a line feed, and its value is as it should be. -/
def StaysOnLine (step : Walk α) (P : α → Prop) : Prop :=
  ∀ ⦃s : Trace⦄ ⦃a : α⦄ ⦃t : Trace⦄, step.run s = .ok (a, t) → s.OnOneLine → t.OnOneLine ∧ P a

theorem staysOnLine_pure
    {a : α}
    (h : P a) :
    StaysOnLine (pure a) P := by
  intro s b t hrun hs
  cases hrun
  exact ⟨hs, h⟩

theorem staysOnLine_note
    {event : Event}
    (h : ∀ name ∈ event.written?, OnOneLine name) :
    StaysOnLine (note event) fun _ => True := by
  intro s a t hrun hs
  cases hrun
  exact ⟨List.forall_mem_cons.mpr ⟨h, hs⟩, trivial⟩

/-- Two steps stay on the line if each of them does. -/
theorem StaysOnLine.bind
    {step : Walk α}
    {next : α → Walk β}
    (h : StaysOnLine step P)
    (hnext : ∀ a, P a → StaysOnLine (next a) Q) :
    StaysOnLine (step >>= next) Q := by
  intro s b t hrun hs
  rw [StateT.run_bind] at hrun
  obtain ⟨⟨a, u⟩, hstep, hrun⟩ := Except.bind_eq_ok_iff.mp hrun
  obtain ⟨hu, ha⟩ := h hstep hs
  exact hnext a ha hrun hu

theorem StaysOnLine.map
    {step : Walk α}
    {f : α → β}
    (h : StaysOnLine step P)
    (hf : ∀ a, P a → Q (f a)) :
    StaysOnLine (step >>= fun a => pure (f a)) Q :=
  h.bind fun a ha => staysOnLine_pure (hf a ha)

/-- A step that looks at the trace before it goes on. -/
theorem staysOnLine_get_bind
    {next : Trace → Walk α}
    (h : ∀ s, StaysOnLine (next s) P) :
    StaysOnLine (get >>= next) P :=
  fun s _ _ hrun hs => h s hrun hs

/-- A terminal stays on the line if its name and its literal do. -/
theorem staysOnLine_terminal
    {name : String}
    {pattern : Option Pattern}
    (hname : OnOneLine name)
    (hliteral : ∀ text ∈ pattern.bind Pattern.literal?, OnOneLine text)
    (c : Context) :
    StaysOnLine (terminal name pattern c) OnOneLine := by
  obtain ⟨htext, hevents⟩ := onOneLine_terminalText hname hliteral c
  unfold terminal
  generalize terminalText name pattern c = written at htext hevents
  obtain ⟨text, event⟩ := written
  cases event with
  | none => exact staysOnLine_pure htext
  | some event => exact (staysOnLine_note (hevents event rfl)).map fun _ _ => htext

end Steps

section Elements

variable {o : Options} {enter : String → Context → Walk String}

theorem staysOnLine_sequenceParts
    {es : List Element}
    (hes : ∀ e ∈ es, ∀ c, StaysOnLine (element o enter e c) OnOneLine)
    (previous : Option Element)
    (c : Context) :
    StaysOnLine (sequenceParts o enter previous es c) fun parts =>
      ∀ p ∈ parts, OnOneLine p.text := by
  induction es generalizing previous with
  | nil => exact staysOnLine_pure (List.forall_mem_nil _)
  | cons e es ih =>
      obtain ⟨he, hes⟩ := List.forall_mem_cons.mp hes
      rw [sequenceParts]
      refine (he _).bind fun text htext => ?_
      refine (ih hes (some e)).map fun parts hparts => ?_
      split
      · exact hparts
      · exact List.forall_mem_cons.mpr ⟨htext, hparts⟩

theorem staysOnLine_firstAdmitted
    {es : List Element}
    (hes : ∀ e ∈ es, ∀ c, StaysOnLine (element o enter e c) OnOneLine)
    (admitted : Element → Bool)
    (c : Context) :
    StaysOnLine (firstAdmitted o enter admitted es c) OnOneLine := by
  induction es with
  | nil => exact staysOnLine_pure (by decide)
  | cons e es ih =>
      obtain ⟨he, hes⟩ := List.forall_mem_cons.mp hes
      rw [firstAdmitted]
      split
      · exact he c
      · exact ih hes

/-- Elements are rendered on one line if rules are. -/
theorem staysOnLine_element
    (hpretty : o.pretty = false)
    (henter : ∀ name c, StaysOnLine (enter name c) OnOneLine)
    {e : Element}
    (he : e.OnOneLine)
    (c : Context) :
    StaysOnLine (element o enter e c) OnOneLine := by
  have hempty : OnOneLine "" := by decide
  induction e using Element.inductionOn generalizing c with
  | terminal name pattern =>
      rw [element]
      split
      · exact staysOnLine_pure hempty
      · obtain ⟨hname, hliteral⟩ := List.forall_mem_cons.mp (he _ List.mem_cons_self)
        exact staysOnLine_terminal hname (fun text h => hliteral text (Option.mem_toList.mpr h)) c
  | nonTerminal name =>
      rw [element]
      split
      · exact staysOnLine_pure hempty
      · exact henter name c
  | sequence es ih =>
      rw [element]
      have hparts := fun e hmem => ih e hmem (he.of_walk_subset (Element.walk_subset_sequence hmem))
      exact (staysOnLine_sequenceParts hparts none _).map fun parts =>
        Layout.onOneLine_sequence hpretty
  | oneOf es ih =>
      rw [element]
      have hparts := fun e hmem => ih e hmem (he.of_walk_subset (Element.walk_subset_oneOf hmem))
      exact staysOnLine_firstAdmitted hparts _ c
  | optional e ih =>
      have hinner := he.of_walk_subset (List.subset_cons_self _ _)
      rw [element]
      split
      · exact staysOnLine_pure hempty
      · exact ih hinner c
  | list e ih =>
      have hinner := he.of_walk_subset (List.subset_cons_self _ _)
      rw [element]
      split
      · refine (ih hinner _).bind fun query hquery => ?_
        refine (ih hinner _).bind fun mutation hmutation => ?_
        refine (ih hinner _).map fun subscription hsubscription => ?_
        refine Layout.onOneLine_lines hpretty ?_
        rw [List.forall_mem_cons, List.forall_mem_cons, List.forall_mem_singleton]
        exact ⟨hquery, hmutation, hsubscription⟩
      · exact ih hinner _

end Elements

section Rules

variable {g : Grammar} {o : Options}

/-- Rules are rendered on one line. -/
theorem staysOnLine_rule
    (hpretty : o.pretty = false)
    (hg : ∀ key rule, g.rule? key = some rule → rule.definition.OnOneLine)
    (allowance : Nat)
    (key : String)
    (c : Context) :
    StaysOnLine (rule g o allowance key c) OnOneLine := by
  have hempty : OnOneLine "" := by decide
  have hcons : ∀ {event : Event} {s : Trace}, event.written? = none → s.OnOneLine →
      Trace.OnOneLine (event :: s) := by
    intro event s hevent hs
    refine List.forall_mem_cons.mpr ⟨fun name hname => ?_, hs⟩
    rw [hevent] at hname
    cases hname
  induction allowance generalizing key c with
  | zero =>
      intro s text t hrun
      obtain ⟨r, n, -, hn, -⟩ := run_rule_cases hrun
      cases hn
  | succ allowance ih =>
      intro s text t hrun hs
      obtain ⟨r, n, hr, hn, hcases⟩ := run_rule_cases hrun
      cases hn
      rcases hcases with ⟨-, -, rfl, rfl⟩ | ⟨-, -, rfl, rfl⟩ | ⟨-, hbody⟩
      · exact ⟨hs, hempty⟩
      · exact ⟨hcons rfl hs, hempty⟩
      · exact staysOnLine_element hpretty ih (hg key r hr) _ hbody (hcons rfl hs)

/-- The blocks of a document are on one line. -/
theorem staysOnLine_blocks
    (hpretty : o.pretty = false)
    (hg : ∀ key rule, g.rule? key = some rule → rule.definition.OnOneLine) :
    StaysOnLine (Render.blocks g o) fun texts => ∀ text ∈ texts, OnOneLine text := by
  have hrule := fun key => staysOnLine_rule hpretty hg o.maxDepth key .start
  refine (hrule g.root).bind fun main hmain => staysOnLine_get_bind fun s => ?_
  split
  · refine (hrule RuleName.schemaDefinition).map fun schema hschema => ?_
    exact List.forall_mem_cons.mpr ⟨hmain, List.forall_mem_singleton.mpr hschema⟩
  · exact staysOnLine_pure (List.forall_mem_singleton.mpr hmain)

end Rules

end Walk

namespace Stub

variable {l : Layout}

/-- A stub is on one line if the names in it are. -/
theorem onOneLine_typeText
    (hl : l.pretty = false)
    {name : String}
    (hname : OnOneLine name)
    (kind : TypeKind) :
    OnOneLine (typeText l name kind) := by
  have hhead : OnOneLine (kind.keyword ++ " " ++ name) := by
    have hkeyword : OnOneLine kind.keyword := by cases kind <;> decide
    rw [onOneLine_append_iff, onOneLine_append_iff]
    exact ⟨⟨hkeyword, by decide⟩, hname⟩
  unfold typeText
  cases kind with
  | object | interface | input | enum =>
      exact Layout.onOneLine_block hl hhead (List.forall_mem_singleton.mpr (by decide))
  | union =>
      dsimp only
      rw [onOneLine_append_iff, onOneLine_append_iff]
      exact ⟨⟨hhead, by decide⟩, by decide⟩
  | scalar => exact hhead

/-- The definition of a directive is on one line. -/
theorem onOneLine_directiveText
    {name : String}
    (hname : OnOneLine name)
    {arguments : List String}
    (harguments : ∀ argument ∈ arguments, OnOneLine argument) :
    OnOneLine (directiveText name arguments) := by
  have hlocations : OnOneLine (" | ".intercalate Schema.typeSystemLocations) :=
    onOneLine_intercalate (by decide) (by decide)
  have hlist : OnOneLine (", ".intercalate (arguments.map fun a => a ++ ": String")) := by
    refine onOneLine_intercalate (by decide) fun text htext => ?_
    obtain ⟨argument, hargument, rfl⟩ := List.mem_map.mp htext
    exact onOneLine_append_iff.mpr ⟨harguments argument hargument, by decide⟩
  unfold directiveText
  simp only [onOneLine_append_iff]
  refine ⟨⟨⟨⟨by decide, hname⟩, ?_⟩, by decide⟩, hlocations⟩
  split
  · decide
  · simp only [onOneLine_append_iff]
    exact ⟨⟨by decide, hlist⟩, by decide⟩

/-- The stubs of what is missing in a document on one line are on one line. -/
theorem onOneLine_text
    (hl : l.pretty = false)
    {t : Trace}
    (ht : t.OnOneLine)
    {stubs : List Stub}
    (hclosed : t.ClosedBy stubs)
    {stub : Stub}
    (hstub : stub ∈ stubs) :
    OnOneLine (stub.text l) := by
  cases stub with
  | type name kind =>
      refine onOneLine_typeText hl ?_ kind
      have hmem : name ∈ stubs.filterMap typeName? := List.mem_filterMap.mpr ⟨_, hstub, rfl⟩
      rcases (hclosed.types name).mp hmem with ⟨⟨⟨kind', hevent⟩, -⟩, -⟩ | ⟨rfl, -⟩
      · exact ht _ hevent name rfl
      · decide
  | directive name arguments =>
      have hmem : name ∈ stubs.filterMap directiveName? := List.mem_filterMap.mpr ⟨_, hstub, rfl⟩
      obtain ⟨⟨hevent, -⟩, -⟩ := (hclosed.directives name).mp hmem
      refine onOneLine_directiveText (ht _ hevent name rfl) fun argument hargument => ?_
      obtain ⟨after, before, rfl, -⟩ := (hclosed.arguments name arguments hstub argument).mp hargument
      exact ht _ (List.mem_append_right after List.mem_cons_self) argument rfl

end Stub

end Render

namespace Grammar

open Render

/-- A document on one line has no line feed if no terminal of its grammar has one. -/
theorem onOneLine_of_render_eq_ok
    {g : Grammar}
    {o : Render.Options}
    (hpretty : o.pretty = false)
    (hg : ∀ key rule, g.rule? key = some rule → rule.definition.OnOneLine)
    {text : String}
    (h : g.render o = .ok text) :
    OnOneLine text := by
  obtain ⟨outline, houtline, rfl⟩ := render_eq_ok_iff.mp h
  have hrun := run_blocks_of_outline_eq_ok houtline
  obtain ⟨htrace, hblocks⟩ := Walk.staysOnLine_blocks hpretty hg hrun (List.forall_mem_nil _)
  have hclosed := (Symbols.records_ofTrace outline.trace).stubs_close
  refine Layout.onOneLine_document hpretty fun block hblock => ?_
  rcases List.mem_append.mp hblock with hblock | hblock
  · exact hblocks block hblock
  · obtain ⟨stub, hstub, rfl⟩ := List.mem_map.mp hblock
    exact Stub.onOneLine_text hpretty htrace hclosed hstub

end Grammar

end SchemaGrammar
