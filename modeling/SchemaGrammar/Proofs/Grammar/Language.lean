import SchemaGrammar.Grammar.Basic
import SchemaGrammar.Proofs.Grammar.Element

/-!
# The language of a grammar

An element stands for the strings of terminals that can be derived from it: a sequence for
the strings of its parts one after the other, a choice for those of any alternative, an
optional part for its strings or none, a repetition for one or more of its strings, and a
reference for the strings of the rule that it names.

**Results.**
* `Grammar.derives_sequence_append_iff`: a sequence derives what its halves derive.
* `Grammar.equates_rebuild`: rebuilding by steps that keep the language of every node keeps
  the language of the whole.
* `Grammar.derives_mapRules_iff`: changing the definitions of all rules at once keeps every
  language, if each change does so in every grammar.
-/

namespace SchemaGrammar

/-- A terminal of a sentence. -/
structure Terminal where
  name : String
  pattern : Option Pattern
  deriving DecidableEq, Inhabited

namespace Grammar

/-- The strings of terminals that can be derived from an element. -/
inductive Derives (g : Grammar) : Element → List Terminal → Prop
  | terminal (name : String) (pattern : Option Pattern) :
      Derives g (.terminal name pattern) [⟨name, pattern⟩]
  | nonTerminal {name : String} {rule : Rule} {w : List Terminal} :
      g.rule? name = some rule →
      Derives g rule.definition w →
      Derives g (.nonTerminal name) w
  | sequenceNil :
      Derives g (.sequence []) []
  | sequenceCons {e : Element} {es : List Element} {u v : List Terminal} :
      Derives g e u →
      Derives g (.sequence es) v →
      Derives g (.sequence (e :: es)) (u ++ v)
  | oneOf {e : Element} {es : List Element} {w : List Terminal} :
      e ∈ es →
      Derives g e w →
      Derives g (.oneOf es) w
  | optionalNone (e : Element) :
      Derives g (.optional e) []
  | optionalSome {e : Element} {w : List Terminal} :
      Derives g e w →
      Derives g (.optional e) w
  | listOnce {e : Element} {w : List Terminal} :
      Derives g e w →
      Derives g (.list e) w
  | listMore {e : Element} {u v : List Terminal} :
      Derives g e u →
      Derives g (.list e) v →
      Derives g (.list e) (u ++ v)

/-- The strings of terminals that can be derived from a rule; none, if there is no such rule. -/
def Generates (g : Grammar) (key : String) (w : List Terminal) : Prop :=
  ∃ rule, g.rule? key = some rule ∧ g.Derives rule.definition w

/-- Two elements with the same language. -/
def Equates (g : Grammar) (d e : Element) : Prop := ∀ w, g.Derives d w ↔ g.Derives e w

section Groups

variable {g : Grammar} {w : List Terminal}

theorem derives_nonTerminal_iff
    {name : String} :
    g.Derives (.nonTerminal name) w ↔ g.Generates name w := by
  constructor
  · rintro (_ | ⟨hrule, h⟩)
    exact ⟨_, hrule, h⟩
  · rintro ⟨rule, hrule, h⟩
    exact .nonTerminal hrule h

theorem derives_sequence_nil_iff :
    g.Derives (.sequence []) w ↔ w = [] := by
  constructor
  · rintro ⟨⟩
    rfl
  · rintro rfl
    exact .sequenceNil

/-- The word of a sequence is cut into that of its first part and the rest. -/
theorem derives_sequence_cons_iff
    {e : Element}
    {es : List Element} :
    g.Derives (.sequence (e :: es)) w ↔
      ∃ u v, w = u ++ v ∧ g.Derives e u ∧ g.Derives (.sequence es) v := by
  constructor
  · intro h
    cases h with
    | sequenceCons hu hv => exact ⟨_, _, rfl, hu, hv⟩
  · rintro ⟨u, v, rfl, hu, hv⟩
    exact .sequenceCons hu hv

theorem derives_sequence_singleton_iff
    {e : Element} :
    g.Derives (.sequence [e]) w ↔ g.Derives e w := by
  rw [derives_sequence_cons_iff]
  constructor
  · rintro ⟨u, v, rfl, hu, hv⟩
    rw [derives_sequence_nil_iff.mp hv, List.append_nil]
    exact hu
  · intro h
    exact ⟨w, [], (List.append_nil w).symm, h, .sequenceNil⟩

/-- A sequence derives what its halves derive, one after the other. -/
theorem derives_sequence_append_iff
    {es ds : List Element} :
    g.Derives (.sequence (es ++ ds)) w ↔
      ∃ u v, w = u ++ v ∧ g.Derives (.sequence es) u ∧ g.Derives (.sequence ds) v := by
  induction es generalizing w with
  | nil =>
      constructor
      · intro h
        exact ⟨[], w, rfl, .sequenceNil, h⟩
      · rintro ⟨u, v, rfl, hu, hv⟩
        rw [derives_sequence_nil_iff.mp hu]
        exact hv
  | cons e es ih =>
      rw [List.cons_append, derives_sequence_cons_iff]
      constructor
      · rintro ⟨u, rest, rfl, hu, hrest⟩
        obtain ⟨v, v', rfl, hv, hv'⟩ := ih.mp hrest
        exact ⟨u ++ v, v', (List.append_assoc u v v').symm, .sequenceCons hu hv, hv'⟩
      · rintro ⟨uv, v', rfl, huv, hv'⟩
        obtain ⟨u, v, rfl, hu, hv⟩ := derives_sequence_cons_iff.mp huv
        exact ⟨u, v ++ v', List.append_assoc u v v', hu, ih.mpr ⟨v, v', rfl, hv, hv'⟩⟩

/-- A choice has the words of its alternatives. -/
theorem derives_oneOf_iff
    {es : List Element} :
    g.Derives (.oneOf es) w ↔ ∃ e ∈ es, g.Derives e w := by
  constructor
  · intro h
    cases h with
    | oneOf hmem h => exact ⟨_, hmem, h⟩
  · rintro ⟨e, hmem, h⟩
    exact .oneOf hmem h

theorem derives_optional_iff
    {e : Element} :
    g.Derives (.optional e) w ↔ w = [] ∨ g.Derives e w := by
  constructor
  · intro h
    cases h with
    | optionalNone => exact .inl rfl
    | optionalSome h => exact .inr h
  · rintro (rfl | h)
    · exact .optionalNone e
    · exact .optionalSome h

end Groups

section Congruence

variable {g : Grammar}

theorem equates_sequence_map
    {f : Element → Element}
    {es : List Element}
    (h : ∀ e ∈ es, g.Equates (f e) e) :
    g.Equates (.sequence (es.map f)) (.sequence es) := by
  intro w
  induction es generalizing w with
  | nil => exact Iff.rfl
  | cons e es ih =>
      obtain ⟨he, hes⟩ := List.forall_mem_cons.mp h
      rw [List.map_cons, derives_sequence_cons_iff, derives_sequence_cons_iff]
      simp only [he _, ih hes]

theorem equates_oneOf_map
    {f : Element → Element}
    {es : List Element}
    (h : ∀ e ∈ es, g.Equates (f e) e) :
    g.Equates (.oneOf (es.map f)) (.oneOf es) := by
  intro w
  rw [derives_oneOf_iff, derives_oneOf_iff]
  constructor
  · rintro ⟨_, hmem, hw⟩
    obtain ⟨e, he, rfl⟩ := List.mem_map.mp hmem
    exact ⟨e, he, (h e he w).mp hw⟩
  · rintro ⟨e, he, hw⟩
    exact ⟨f e, List.mem_map_of_mem he, (h e he w).mpr hw⟩

theorem equates_optional
    {d e : Element}
    (h : g.Equates d e) :
    g.Equates (.optional d) (.optional e) := by
  intro w
  rw [derives_optional_iff, derives_optional_iff, h w]

/-- A list has more words if its element has. -/
theorem derives_list_mono
    {d e : Element}
    (h : ∀ w, g.Derives d w → g.Derives e w)
    {w : List Terminal}
    (hw : g.Derives (.list d) w) :
    g.Derives (.list e) w := by
  generalize hd : Element.list d = list at hw
  induction hw with
  | listOnce hw =>
      cases hd
      exact .listOnce (h _ hw)
  | listMore hu _ _ ihv =>
      cases hd
      exact .listMore (h _ hu) (ihv rfl)
  | _ => cases hd

theorem equates_list
    {d e : Element}
    (h : g.Equates d e) :
    g.Equates (.list d) (.list e) :=
  fun _ => ⟨derives_list_mono fun w => (h w).mp, derives_list_mono fun w => (h w).mpr⟩

/-- Elements with the same language may stand for each other. -/
theorem congruence_equates : Element.Congruence g.Equates where
  trans hde hef := fun w => (hde w).trans (hef w)
  sequence := equates_sequence_map
  oneOf := equates_oneOf_map
  optional := equates_optional
  list := equates_list

/-- Rebuilding by steps that keep the language of every node keeps that of the whole. -/
theorem equates_rebuild
    {f : Element → Element}
    (hf : ∀ e, g.Equates (f e) e)
    (e : Element) :
    g.Equates (e.rebuild f) e :=
  congruence_equates.rebuild hf e

end Congruence

section Rules

variable {g h : Grammar}

/-- Derivations carry over to a grammar whose rules derive what the old definitions derive
there. -/
theorem Derives.transfer
    (hrules : ∀ {key : String} {rule : Rule} {w : List Terminal},
      g.rule? key = some rule → h.Derives rule.definition w → h.Generates key w)
    {e : Element}
    {w : List Terminal}
    (hw : g.Derives e w) :
    h.Derives e w := by
  induction hw with
  | terminal name pattern => exact .terminal name pattern
  | nonTerminal hrule _ ih => exact derives_nonTerminal_iff.mpr (hrules hrule ih)
  | sequenceNil => exact .sequenceNil
  | sequenceCons _ _ ihu ihv => exact .sequenceCons ihu ihv
  | oneOf hmem _ ih => exact .oneOf hmem ih
  | optionalNone e => exact .optionalNone e
  | optionalSome _ ih => exact .optionalSome ih
  | listOnce _ ih => exact .listOnce ih
  | listMore _ _ ihu ihv => exact .listMore ihu ihv

variable {f : Rule → Element}

/-- New definitions that keep the language of each rule in every grammar keep all languages
when all of them are put in at once. -/
theorem derives_mapRules_iff
    (hf : ∀ (h : Grammar) (rule : Rule), h.Equates (f rule) rule.definition)
    {e : Element}
    {w : List Terminal} :
    (g.mapRules f).Derives e w ↔ g.Derives e w := by
  constructor
  · refine Derives.transfer fun {key rule w} hrule hw => ?_
    rw [rule?_mapRules, Option.map_eq_some_iff] at hrule
    obtain ⟨old, hold, rfl⟩ := hrule
    exact ⟨old, hold, (hf g old w).mp hw⟩
  · refine Derives.transfer fun {key rule w} hrule hw => ?_
    refine ⟨rule.withDefinition (f rule), ?_, (hf _ rule w).mpr hw⟩
    rw [rule?_mapRules, hrule, Option.map_some]

/-- Definitions with the same words leave every rule its words. -/
theorem generates_mapRules_iff
    (hf : ∀ (h : Grammar) (rule : Rule), h.Equates (f rule) rule.definition)
    {key : String}
    {w : List Terminal} :
    (g.mapRules f).Generates key w ↔ g.Generates key w := by
  rw [← derives_nonTerminal_iff, ← derives_nonTerminal_iff, derives_mapRules_iff hf]

end Rules

end Grammar

end SchemaGrammar
