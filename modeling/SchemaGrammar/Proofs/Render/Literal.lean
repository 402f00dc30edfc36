import SchemaGrammar.Proofs.Render.Joining
import SchemaGrammar.Proofs.Render.Similar

/-!
# Rendering literal texts

An element without references, choices and repetitions is rendered without failing: what it
notes down depends on the place where it stands, and its text is that of its terminals, however
they are put into sequences.

**Results.**
* `Walk.says_sayable`: what is rendered for an element of this kind, and what is noted down.
* `Walk.similar_leaves`: a sequence and the sequence of its terminals are rendered the same if
  what they note down is.
-/

namespace SchemaGrammar

namespace Element

/-- The terminals of an element, in order. -/
def leaves (e : Element) : List Element := e.walk.filter (·.kind = .terminal)

@[simp] theorem leaves_terminal
    (name : String)
    (pattern : Option Pattern) :
    (terminal name pattern).leaves = [terminal name pattern] := rfl

@[simp] theorem leaves_sequence
    (es : List Element) :
    (sequence es).leaves = es.flatMap leaves :=
  filter_walk_sequence rfl

/-- A terminal with a literal text that is no description, or a sequence of such elements. -/
inductive Plain : Element → Prop
  | literal {name text : String} (h : name ≠ RuleName.description) :
      Plain (.terminal name (some (.literal text)))
  | sequence {es : List Element} (h : ∀ e ∈ es, Plain e) : Plain (.sequence es)

/-- A plain element, or a description. -/
inductive Sayable : Element → Prop
  | plain {e : Element} (h : e.Plain) : Sayable e
  | description (text : String) :
      Sayable (.terminal RuleName.description (some (.literal text)))

theorem Plain.leaves
    {e : Element}
    (h : e.Plain) :
    ∀ leaf ∈ e.leaves, leaf.Plain := by
  induction h with
  | literal h =>
      intro leaf hleaf
      cases List.mem_singleton.mp hleaf
      exact .literal h
  | sequence h ih =>
      intro leaf hleaf
      rw [leaves_sequence] at hleaf
      obtain ⟨e, he, hleaf⟩ := List.mem_flatMap.mp hleaf
      exact ih e he leaf hleaf

theorem Sayable.leaves
    {e : Element}
    (h : e.Sayable) :
    ∀ leaf ∈ e.leaves, leaf.Sayable := by
  cases h with
  | plain h => exact fun leaf hleaf => .plain (h.leaves leaf hleaf)
  | description text =>
      intro leaf hleaf
      cases List.mem_singleton.mp hleaf
      exact .description text

theorem Plain.kind_of_mem_walk
    {e : Element}
    (h : e.Plain) :
    ∀ d ∈ e.walk, d.kind = .terminal ∨ d.kind = .sequence := by
  induction h with
  | literal _ =>
      intro d hd
      cases List.mem_singleton.mp hd
      exact .inl rfl
  | @sequence es _ ih =>
      intro d hd
      rcases mem_walk_sequence_iff.mp hd with rfl | ⟨e, he, hd⟩
      · exact .inr rfl
      · exact ih e he d hd

theorem Sayable.kind_of_mem_walk
    {e : Element}
    (h : e.Sayable) :
    ∀ d ∈ e.walk, d.kind = .terminal ∨ d.kind = .sequence := by
  cases h with
  | plain h => exact h.kind_of_mem_walk
  | description text =>
      intro d hd
      cases List.mem_singleton.mp hd
      exact .inl rfl

/-- The terminals of terminals are the terminals themselves. -/
theorem leaves_of_mem_leaves
    {e leaf : Element}
    (h : leaf ∈ e.leaves) :
    leaf.leaves = [leaf] := by
  have hkind := (List.mem_filter.mp h).2
  cases leaf with
  | terminal name pattern => rfl
  | _ => simp [kind] at hkind

/-- The leaves of leaves are the leaves. -/
theorem flatMap_leaves_leaves
    (es : List Element) :
    (es.flatMap leaves).flatMap leaves = es.flatMap leaves := by
  rw [List.flatMap_assoc]
  refine List.flatMap_congr fun e _ => ?_
  rw [List.flatMap_congr fun leaf hleaf => leaves_of_mem_leaves hleaf, List.flatMap_singleton']

end Element

namespace Render

namespace Walk

section Steps

variable {α β : Type}

/-- A step gives a value whatever has happened before, and notes down some events. -/
def Says (w : Walk α) (events : List Event) (a : α) : Prop :=
  ∀ t : Trace, w.run t = .ok (a, events.reverse ++ t)

theorem says_pure
    (a : α) :
    Says (pure a) [] a :=
  fun _ => rfl

theorem says_note
    (event : Event) :
    Says (note event) [event] () :=
  fun _ => rfl

/-- What two steps say, one behind the other. -/
theorem Says.bind
    {w : Walk α}
    {next : α → Walk β}
    {xs ys : List Event}
    {a : α}
    {b : β}
    (h : Says w xs a)
    (hnext : Says (next a) ys b) :
    Says (w >>= next) (xs ++ ys) b := by
  intro t
  rw [StateT.run_bind, h t]
  show (next a).run (xs.reverse ++ t) = _
  rw [hnext, List.reverse_append, List.append_assoc]

theorem Says.map
    {w : Walk α}
    {xs : List Event}
    {a : α}
    (h : Says w xs a)
    (f : α → β) :
    Says (w >>= fun a => pure (f a)) xs (f a) := by
  have hbind : Says (w >>= fun a => pure (f a)) (xs ++ []) (f a) := h.bind (says_pure (f a))
  rwa [List.append_nil] at hbind

/-- A terminal says its text, and the name that it mentions. -/
theorem says_terminal
    (name : String)
    (pattern : Option Pattern)
    (c : Context) :
    Says (terminal name pattern c) (terminalText name pattern c).2.toList
      (terminalText name pattern c).1 := by
  unfold terminal
  generalize terminalText name pattern c = written
  obtain ⟨text, event⟩ := written
  cases event with
  | none => exact says_pure text
  | some event => exact (says_note event).map fun _ => text

/-- Some events may take the place of others behind related traces. -/
def Swaps (R : Trace → Trace → Prop) (xs ys : List Event) : Prop :=
  ∀ s t : Trace, R s t → R (xs.reverse ++ s) (ys.reverse ++ t)

variable {R : Trace → Trace → Prop}

theorem swaps_refl
    (hR : Trace.Congruence R)
    (xs : List Event) :
    Swaps R xs xs := by
  induction xs with
  | nil => exact fun s t h => h
  | cons x xs ih =>
      intro s t h
      rw [List.reverse_cons, List.append_assoc, List.append_assoc]
      exact ih _ _ (hR.note x h)

/-- Traces may be exchanged part by part. -/
theorem Swaps.append
    {xs ys xs' ys' : List Event}
    (h : Swaps R xs ys)
    (h' : Swaps R xs' ys') :
    Swaps R (xs ++ xs') (ys ++ ys') := by
  intro s t hst
  rw [List.reverse_append, List.reverse_append, List.append_assoc, List.append_assoc]
  exact h' _ _ (h _ _ hst)

theorem swaps_flatMap
    {α : Type}
    {f g : α → List Event}
    {as : List α}
    (h : ∀ a ∈ as, Swaps R (f a) (g a)) :
    Swaps R (as.flatMap f) (as.flatMap g) := by
  induction as with
  | nil => exact fun s t h => h
  | cons a as ih =>
      obtain ⟨ha, has⟩ := List.forall_mem_cons.mp h
      rw [List.flatMap_cons, List.flatMap_cons]
      exact ha.append (ih has)

/-- Walks that say the same, up to an exchange of events, are similar. -/
theorem similar_of_says
    {v w : Walk α}
    {xs ys : List Event}
    {a : α}
    (hv : Says v xs a)
    (hw : Says w ys a)
    (h : Swaps R xs ys) :
    Similar R v w := by
  intro s t hst
  rw [hv s, hw t]
  exact .ok a (h s t hst)

end Steps

section Texts

/-- The text of a literal terminal. -/
def literalText : Element → String
  | .terminal name (some (.literal text)) =>
      if isKeyword name || isPunctuator name then name else text
  | _ => ""

variable (o : Options)

/-- No terminal is an opening brace, of which several lines would make a block. -/
def Braceless (leaves : List Element) : Prop :=
  o.pretty = true → ∀ leaf ∈ leaves, literalText leaf ≠ "\x7b"

/-- The part that a text makes in a sequence. -/
def partsOf (text : String) (e : Element) : List Part :=
  if text.isEmpty then [] else [⟨text, isDescription e⟩]

def leafParts (e : Element) : List Part :=
  partsOf (if o.hides e then "" else literalText e) e

/-- The text of an element that is made of literal terminals. -/
def said (e : Element) : String := o.layout.join (e.leaves.flatMap (leafParts o))

mutual

/-- The events of rendering an element that is made of terminals. -/
def mentions : Element → Context → List Event
  | .terminal name pattern, c => (terminalText name pattern c).2.toList
  | .sequence es, c => mentionsAll es (c.forSequence es)
  | _, _ => []

def mentionsAll : List Element → Context → List Event
  | [], _ => []
  | e :: es, c => mentions e c ++ mentionsAll es c

end

theorem mentionsAll_eq_flatMap
    (es : List Element)
    (c : Context) :
    mentionsAll es c = es.flatMap fun e => mentions e c := by
  induction es with
  | nil => rfl
  | cons e es ih => rw [mentionsAll, List.flatMap_cons, ih]

/-- A sequence mentions what its elements mention in its context. -/
theorem mentions_sequence
    (es : List Element)
    (c : Context) :
    mentions (.sequence es) c = es.flatMap fun e => mentions e (c.forSequence es) := by
  rw [mentions, mentionsAll_eq_flatMap]

section Parts

variable {o}

theorem Braceless.of_mem
    {es : List Element}
    (h : Braceless o (es.flatMap Element.leaves))
    {e : Element}
    (he : e ∈ es) :
    Braceless o e.leaves :=
  fun hpretty leaf hleaf => h hpretty leaf (List.mem_flatMap.mpr ⟨e, he, hleaf⟩)

theorem braceless_flatMap
    {es : List Element}
    (h : ∀ e ∈ es, Braceless o e.leaves) :
    Braceless o (es.flatMap Element.leaves) := by
  intro hpretty leaf hleaf
  obtain ⟨e, he, hleaf⟩ := List.mem_flatMap.mp hleaf
  exact h e he hpretty leaf hleaf

/-- A text and the part made of it. -/
@[simp] theorem join_partsOf
    (text : String)
    (e : Element) :
    o.layout.join (partsOf text e) = text := by
  unfold partsOf
  split
  · next h => simpa using (String.isEmpty_iff.mp h).symm
  · simp

theorem partsOf_of_ne_empty
    {text : String}
    (h : text ≠ "")
    (e : Element) :
    partsOf text e = [⟨text, isDescription e⟩] := by
  rw [partsOf, String.isEmpty_eq_false_iff.mpr h]
  rfl

theorem said_terminal
    (name : String)
    (pattern : Option Pattern) :
    said o (.terminal name pattern) =
      if o.hides (.terminal name pattern) then "" else literalText (.terminal name pattern) := by
  rw [said, Element.leaves_terminal, List.flatMap_singleton, leafParts, join_partsOf]

theorem isDescription_of_plain
    {e : Element}
    (h : e.Plain) :
    isDescription e = false := by
  cases h with
  | literal h => exact beq_eq_false_iff_ne.mpr h
  | sequence _ => rfl

/-- Only a text that is not empty makes a part. -/
theorem eq_of_mem_partsOf
    {text : String}
    {e : Element}
    {p : Part}
    (hp : p ∈ partsOf text e) :
    text ≠ "" ∧ p = ⟨text, isDescription e⟩ := by
  unfold partsOf at hp
  split at hp
  · cases hp
  · next htext =>
      exact ⟨fun h => htext (String.isEmpty_iff.mpr h), List.mem_singleton.mp hp⟩

/-- The leaves of a plain element make plain parts. -/
theorem isPlain_of_mem_leaves
    {e : Element}
    (h : e.Plain) :
    ∀ p ∈ e.leaves.flatMap (leafParts o), p.IsPlain := by
  intro p hp
  obtain ⟨leaf, hleaf, hp⟩ := List.mem_flatMap.mp hp
  obtain ⟨htext, rfl⟩ := eq_of_mem_partsOf hp
  exact ⟨htext, isDescription_of_plain (h.leaves leaf hleaf)⟩

/-- The part that an element makes takes the place of the parts of its terminals. -/
theorem joins_leaves
    {e : Element}
    (h : e.Sayable) :
    o.layout.Joins (partsOf (said o e) e) (e.leaves.flatMap (leafParts o)) := by
  have hterminal : ∀ name pattern, o.layout.Joins
      (partsOf (said o (.terminal name pattern)) (.terminal name pattern))
      ((Element.terminal name pattern).leaves.flatMap (leafParts o)) := by
    intro name pattern
    rw [said_terminal, Element.leaves_terminal, List.flatMap_singleton]
    exact Layout.joins_refl _
  cases h with
  | description text => exact hterminal _ _
  | plain h =>
      cases h with
      | literal _ => exact hterminal _ _
      | @sequence es hes =>
          have hplain := isPlain_of_mem_leaves (o := o) (.sequence hes)
          by_cases hnil : (Element.sequence es).leaves.flatMap (leafParts o) = []
          · rw [said, hnil, Layout.join_nil]
            exact Layout.joins_refl []
          · have hsaid : said o (.sequence es) ≠ "" :=
              Layout.join_ne_empty (fun p hp => (hplain p hp).text) hnil
            rw [partsOf_of_ne_empty hsaid]
            exact Layout.joins_group hplain hnil

/-- The text of a sequence is joined from those of its parts. -/
theorem said_sequence
    {es : List Element}
    (h : ∀ e ∈ es, e.Sayable) :
    said o (.sequence es) = o.layout.join (es.flatMap fun e => partsOf (said o e) e) := by
  have hjoins := Layout.joins_flatMap (l := o.layout) fun e he => joins_leaves (h e he)
  rw [said, Element.leaves_sequence, List.flatMap_assoc, Layout.join_eq_of_joins hjoins]

/-- A text is an opening brace only if that of a terminal is. -/
theorem said_ne_brace
    {e : Element}
    (h : e.Sayable)
    (hbrace : ∀ leaf ∈ e.leaves, literalText leaf ≠ "\x7b") :
    said o e ≠ "\x7b" := by
  have hterminal : ∀ name pattern, literalText (.terminal name pattern) ≠ "\x7b" →
      said o (.terminal name pattern) ≠ "\x7b" := by
    intro name pattern hne
    rw [said_terminal]
    split
    · decide
    · exact hne
  cases h with
  | description text => exact hterminal _ _ (hbrace _ List.mem_cons_self)
  | plain h =>
      refine Layout.join_ne_of_length_eq_one (isPlain_of_mem_leaves h) (by decide) ?_
      intro p hp
      obtain ⟨leaf, hleaf, hp⟩ := List.mem_flatMap.mp hp
      obtain ⟨htext, rfl⟩ := eq_of_mem_partsOf hp
      dsimp only
      split
      · decide
      · exact hbrace leaf hleaf

end Parts

end Texts

section Elements

variable {o : Options} {enter : String → Context → Walk String}

theorem terminalText_literal
    (name text : String)
    (c : Context) :
    (terminalText name (some (.literal text)) c).1 =
      literalText (.terminal name (some (.literal text))) := by
  unfold terminalText literalText
  dsimp only
  split
  · rfl
  · split <;> rfl

/-- A description mentions no name. -/
theorem mentions_of_isDescription
    {name : String}
    {pattern : Option Pattern}
    (h : isDescription (.terminal name pattern) = true)
    (c : Context) :
    mentions (.terminal name pattern) c = [] := by
  cases eq_of_beq h
  rfl

theorem says_literal
    (name text : String)
    (c : Context) :
    Says (element o enter (.terminal name (some (.literal text))) c)
      (mentions (.terminal name (some (.literal text))) c)
      (said o (.terminal name (some (.literal text)))) := by
  rw [element, said_terminal]
  split
  · next hhidden =>
      rw [mentions_of_isDescription ((Bool.and_eq_true _ _).mp hhidden).2]
      exact says_pure ""
  · rw [← terminalText_literal name text c]
    exact says_terminal name _ c

/-- The parts of a sequence say what each of them says. -/
theorem says_sequenceParts
    {es : List Element}
    (hes : ∀ e ∈ es, e.Sayable)
    (heach : ∀ e ∈ es, ∀ c, Says (element o enter e c) (mentions e c) (said o e))
    (previous : Option Element)
    (c : Context) :
    Says (sequenceParts o enter previous es c) (mentionsAll es c)
      (es.flatMap fun e => partsOf (said o e) e) := by
  induction es generalizing previous with
  | nil => exact says_pure []
  | cons e es ih =>
      obtain ⟨he, hes⟩ := List.forall_mem_cons.mp hes
      obtain ⟨hsay, heach⟩ := List.forall_mem_cons.mp heach
      have hopens : opensFieldList previous e es.head? = false := by
        cases he with
        | description text => rfl
        | plain h => cases h <;> rfl
      rw [sequenceParts, hopens, mentionsAll, List.flatMap_cons]
      refine (hsay c).bind ?_
      have hrest := (ih hes heach (some e)).map fun parts =>
        if (said o e).isEmpty then parts else ⟨said o e, isDescription e⟩ :: parts
      convert hrest using 1
      unfold partsOf
      split <;> rfl

theorem says_sequence_of_says
    {es : List Element}
    (hes : ∀ e ∈ es, e.Sayable)
    (heach : ∀ e ∈ es, ∀ c, Says (element o enter e c) (mentions e c) (said o e))
    (hbrace : Braceless o (es.flatMap Element.leaves))
    (c : Context) :
    Says (element o enter (.sequence es) c) (mentions (.sequence es) c)
      (said o (.sequence es)) := by
  have htext : o.layout.sequence (es.flatMap fun e => partsOf (said o e) e) =
      said o (.sequence es) := by
    rw [said_sequence hes]
    refine Layout.sequence_eq_join fun hpretty p hp => ?_
    obtain ⟨e, he, hp⟩ := List.mem_flatMap.mp hp
    obtain ⟨-, rfl⟩ := eq_of_mem_partsOf hp
    exact said_ne_brace (hes e he) (hbrace.of_mem he hpretty)
  rw [element, mentions, ← htext]
  exact (says_sequenceParts hes heach none _).map o.layout.sequence

theorem says_plain
    {e : Element}
    (h : e.Plain)
    (hbrace : Braceless o e.leaves)
    (c : Context) :
    Says (element o enter e c) (mentions e c) (said o e) := by
  induction h generalizing c with
  | literal _ => exact says_literal _ _ c
  | @sequence es hes ih =>
      rw [Element.leaves_sequence] at hbrace
      refine says_sequence_of_says (fun e he => .plain (hes e he)) (fun e he c => ?_) hbrace c
      exact ih e he (hbrace.of_mem he) c

/-- An element that can be said says its leaves. -/
theorem says_sayable
    {e : Element}
    (h : e.Sayable)
    (hbrace : Braceless o e.leaves)
    (c : Context) :
    Says (element o enter e c) (mentions e c) (said o e) := by
  cases h with
  | plain h => exact says_plain h hbrace c
  | description text => exact says_literal _ _ c

theorem says_sequence
    {es : List Element}
    (hes : ∀ e ∈ es, e.Sayable)
    (hbrace : Braceless o (es.flatMap Element.leaves))
    (c : Context) :
    Says (element o enter (.sequence es) c) (mentions (.sequence es) c)
      (said o (.sequence es)) := by
  refine says_sequence_of_says hes (fun e he c => ?_) hbrace c
  exact says_sayable (hes e he) (hbrace.of_mem he) c

/-- **Splicing literal texts.**  A sequence is rendered as the sequence of its terminals, up to
what is noted down. -/
theorem similar_leaves
    {R : Trace → Trace → Prop}
    {enter' : String → Context → Walk String}
    {es : List Element}
    (hes : ∀ e ∈ es, e.Sayable)
    (hbrace : Braceless o (es.flatMap Element.leaves))
    (c : Context)
    (hmentions : Swaps R (mentions (.sequence (es.flatMap Element.leaves)) c)
      (mentions (.sequence es) c)) :
    Similar R (element o enter (.sequence (es.flatMap Element.leaves)) c)
      (element o enter' (.sequence es) c) := by
  have hleaves : ∀ leaf ∈ es.flatMap Element.leaves, leaf.Sayable := by
    intro leaf hleaf
    obtain ⟨e, he, hleaf⟩ := List.mem_flatMap.mp hleaf
    exact (hes e he).leaves leaf hleaf
  have hsaid : said o (.sequence (es.flatMap Element.leaves)) = said o (.sequence es) := by
    rw [said, said, Element.leaves_sequence, Element.leaves_sequence,
      Element.flatMap_leaves_leaves]
  have hspliced : Says (element o enter (.sequence (es.flatMap Element.leaves)) c) _ _ :=
    says_sequence hleaves (by rwa [Element.flatMap_leaves_leaves]) c
  rw [hsaid] at hspliced
  exact similar_of_says hspliced (says_sequence hes hbrace c) hmentions

end Elements

end Walk

end Render

end SchemaGrammar
