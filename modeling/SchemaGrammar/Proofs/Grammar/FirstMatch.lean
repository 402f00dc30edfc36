import SchemaGrammar.Proofs.Grammar.Language

/-!
# First-match parsing

An element read as a parser takes tokens from the front of a text or fails.  A sequence takes
its parts one after the other, a choice commits to the first alternative that succeeds, an
optional part that fails takes nothing, a repetition goes on as long as it can and takes its
element at least once, and a reference does what the rule does that it names.  Which tokens a
terminal takes is left open.

**Results.**
* `Grammar.Parses.deterministic`: an element has one outcome at most.
* `Grammar.congruence_parsesAlike`: elements with the same outcomes may replace each other.
* `Grammar.Parses.transfer`: outcomes carry over to a grammar with other definitions.
-/

namespace SchemaGrammar.Grammar

universe u

variable {τ : Type u} (takes : Terminal → τ → Bool)

/-- The outcome of an element at the front of some tokens: the tokens behind what it has taken,
or none if it fails.  An element that does not come to an end has no outcome. -/
inductive Parses (g : Grammar) : Element → List τ → Option (List τ) → Prop
  | terminalTaken {name : String} {pattern : Option Pattern} {t : τ} {ts : List τ} :
      takes ⟨name, pattern⟩ t = true →
      Parses g (.terminal name pattern) (t :: ts) (some ts)
  | terminalOther {name : String} {pattern : Option Pattern} {t : τ} {ts : List τ} :
      takes ⟨name, pattern⟩ t = false →
      Parses g (.terminal name pattern) (t :: ts) none
  | terminalEnd (name : String) (pattern : Option Pattern) :
      Parses g (.terminal name pattern) [] none
  | nonTerminal {name : String} {rule : Rule} {ts : List τ} {out : Option (List τ)} :
      g.rule? name = some rule →
      Parses g rule.definition ts out →
      Parses g (.nonTerminal name) ts out
  | sequenceNil (ts : List τ) :
      Parses g (.sequence []) ts (some ts)
  | sequenceCons {e : Element} {es : List Element} {ts rest : List τ} {out : Option (List τ)} :
      Parses g e ts (some rest) →
      Parses g (.sequence es) rest out →
      Parses g (.sequence (e :: es)) ts out
  | sequenceFail {e : Element} {ts : List τ} (es : List Element) :
      Parses g e ts none →
      Parses g (.sequence (e :: es)) ts none
  | oneOfNil (ts : List τ) :
      Parses g (.oneOf []) ts none
  | oneOfFirst {e : Element} {ts rest : List τ} (es : List Element) :
      Parses g e ts (some rest) →
      Parses g (.oneOf (e :: es)) ts (some rest)
  | oneOfNext {e : Element} {es : List Element} {ts : List τ} {out : Option (List τ)} :
      Parses g e ts none →
      Parses g (.oneOf es) ts out →
      Parses g (.oneOf (e :: es)) ts out
  | optionalSome {e : Element} {ts rest : List τ} :
      Parses g e ts (some rest) →
      Parses g (.optional e) ts (some rest)
  | optionalNone {e : Element} {ts : List τ} :
      Parses g e ts none →
      Parses g (.optional e) ts (some ts)
  | listFail {e : Element} {ts : List τ} :
      Parses g e ts none →
      Parses g (.list e) ts none
  | listLast {e : Element} {ts rest : List τ} :
      Parses g e ts (some rest) →
      Parses g (.list e) rest none →
      Parses g (.list e) ts (some rest)
  | listMore {e : Element} {ts rest last : List τ} :
      Parses g e ts (some rest) →
      Parses g (.list e) rest (some last) →
      Parses g (.list e) ts (some last)

def ParsesRule (g : Grammar) (key : String) (ts : List τ) (out : Option (List τ)) : Prop :=
  ∃ rule, g.rule? key = some rule ∧ g.Parses takes rule.definition ts out

/-- Two elements with the same outcomes. -/
def ParsesAlike (g : Grammar) (d e : Element) : Prop :=
  ∀ (ts : List τ) (out : Option (List τ)), g.Parses takes d ts out ↔ g.Parses takes e ts out

section Outcomes

variable {takes} {g : Grammar} {ts : List τ} {out out' : Option (List τ)}

/-- An element has one outcome at most. -/
theorem Parses.deterministic
    {e : Element}
    (h : g.Parses takes e ts out)
    (h' : g.Parses takes e ts out') :
    out = out' := by
  induction h generalizing out' with
  | terminalTaken ht =>
      cases h' with
      | terminalTaken _ => rfl
      | terminalOther ht' => rw [ht] at ht'; cases ht'
  | terminalOther ht =>
      cases h' with
      | terminalTaken ht' => rw [ht] at ht'; cases ht'
      | terminalOther _ => rfl
  | terminalEnd => cases h'; rfl
  | nonTerminal hrule _ ih =>
      cases h' with
      | nonTerminal hrule' h' =>
          rw [hrule] at hrule'
          cases hrule'
          exact ih h'
  | sequenceNil => cases h'; rfl
  | sequenceCons _ _ ihe ihes =>
      cases h' with
      | sequenceCons he hes =>
          cases ihe he
          exact ihes hes
      | sequenceFail _ he => cases ihe he
  | sequenceFail _ _ ihe =>
      cases h' with
      | sequenceCons he _ => cases ihe he
      | sequenceFail _ _ => rfl
  | oneOfNil => cases h'; rfl
  | oneOfFirst _ _ ihe =>
      cases h' with
      | oneOfFirst _ he => exact ihe he
      | oneOfNext he _ => cases ihe he
  | oneOfNext _ _ ihe ihes =>
      cases h' with
      | oneOfFirst _ he => cases ihe he
      | oneOfNext _ hes => exact ihes hes
  | optionalSome _ ihe =>
      cases h' with
      | optionalSome he => exact ihe he
      | optionalNone he => cases ihe he
  | optionalNone _ ihe =>
      cases h' with
      | optionalSome he => cases ihe he
      | optionalNone _ => rfl
  | listFail _ ihe =>
      cases h' with
      | listFail _ => rfl
      | listLast he _ => cases ihe he
      | listMore he _ => cases ihe he
  | listLast _ _ ihe ihlist =>
      cases h' with
      | listFail he => cases ihe he
      | listLast he _ => exact ihe he
      | listMore he hlist =>
          cases ihe he
          cases ihlist hlist
  | listMore _ _ ihe ihlist =>
      cases h' with
      | listFail he => cases ihe he
      | listLast he hlist =>
          cases ihe he
          cases ihlist hlist
      | listMore he hlist =>
          cases ihe he
          exact ihlist hlist

/-- A reference is parsed as the rule that it names. -/
theorem parses_nonTerminal_iff
    {name : String} :
    g.Parses takes (.nonTerminal name) ts out ↔ g.ParsesRule takes name ts out := by
  constructor
  · intro h
    cases h with
    | nonTerminal hrule h => exact ⟨_, hrule, h⟩
  · rintro ⟨rule, hrule, h⟩
    exact .nonTerminal hrule h

/-- A sequence fails with its first part, or is parsed on behind it. -/
theorem parses_sequence_cons_iff
    {e : Element}
    {es : List Element} :
    g.Parses takes (.sequence (e :: es)) ts out ↔
      (∃ rest, g.Parses takes e ts (some rest) ∧ g.Parses takes (.sequence es) rest out) ∨
        (out = none ∧ g.Parses takes e ts none) := by
  constructor
  · intro h
    cases h with
    | sequenceCons he hes => exact .inl ⟨_, he, hes⟩
    | sequenceFail _ he => exact .inr ⟨rfl, he⟩
  · rintro (⟨rest, he, hes⟩ | ⟨rfl, he⟩)
    · exact .sequenceCons he hes
    · exact .sequenceFail es he

theorem parses_oneOf_nil_iff :
    g.Parses takes (.oneOf []) ts out ↔ out = none := by
  constructor
  · rintro ⟨⟩
    rfl
  · rintro rfl
    exact .oneOfNil ts

/-- A choice takes its first alternative, and the others only where that one fails. -/
theorem parses_oneOf_cons_iff
    {e : Element}
    {es : List Element} :
    g.Parses takes (.oneOf (e :: es)) ts out ↔
      (out ≠ none ∧ g.Parses takes e ts out) ∨
        (g.Parses takes e ts none ∧ g.Parses takes (.oneOf es) ts out) := by
  constructor
  · intro h
    cases h with
    | oneOfFirst _ he => exact .inl ⟨Option.some_ne_none _, he⟩
    | oneOfNext he hes => exact .inr ⟨he, hes⟩
  · rintro (⟨hout, he⟩ | ⟨he, hes⟩)
    · obtain ⟨rest, rfl⟩ := Option.ne_none_iff_exists'.mp hout
      exact .oneOfFirst es he
    · exact .oneOfNext he hes

/-- An optional part takes nothing only where the part fails. -/
theorem parses_optional_iff
    {e : Element} :
    g.Parses takes (.optional e) ts out ↔
      (out ≠ none ∧ g.Parses takes e ts out) ∨ (out = some ts ∧ g.Parses takes e ts none) := by
  constructor
  · intro h
    cases h with
    | optionalSome he => exact .inl ⟨Option.some_ne_none _, he⟩
    | optionalNone he => exact .inr ⟨rfl, he⟩
  · rintro (⟨hout, he⟩ | ⟨rfl, he⟩)
    · obtain ⟨rest, rfl⟩ := Option.ne_none_iff_exists'.mp hout
      exact .optionalSome he
    · exact .optionalNone he

/-- A choice tries its first alternatives, and the others if all of these fail. -/
theorem parses_oneOf_append_iff
    {ds es : List Element} :
    g.Parses takes (.oneOf (ds ++ es)) ts out ↔
      (out ≠ none ∧ g.Parses takes (.oneOf ds) ts out) ∨
        (g.Parses takes (.oneOf ds) ts none ∧ g.Parses takes (.oneOf es) ts out) := by
  induction ds with
  | nil =>
      simp only [List.nil_append, parses_oneOf_nil_iff, true_and]
      exact ⟨.inr, fun h => h.elim (fun h => absurd h.2 h.1) id⟩
  | cons d ds ih =>
      rw [List.cons_append, parses_oneOf_cons_iff, ih, parses_oneOf_cons_iff,
        parses_oneOf_cons_iff]
      simp only [ne_eq, not_true_eq_false, false_and, false_or]
      tauto

/-- Where a choice fails, so does each of its alternatives. -/
theorem parses_none_of_mem
    {es : List Element}
    (hes : g.Parses takes (.oneOf es) ts none)
    {e : Element}
    (he : e ∈ es) :
    g.Parses takes e ts none := by
  induction es with
  | nil => cases he
  | cons d es ih =>
      obtain ⟨hnone, -⟩ | ⟨hd, hes⟩ := parses_oneOf_cons_iff.mp hes
      · exact absurd rfl hnone
      · rcases List.mem_cons.mp he with rfl | he
        · exact hd
        · exact ih hes he

end Outcomes

section Congruence

variable {takes} {g : Grammar}

theorem ParsesAlike.trans
    {d e f : Element}
    (hde : g.ParsesAlike takes d e)
    (hef : g.ParsesAlike takes e f) :
    g.ParsesAlike takes d f :=
  fun ts out => (hde ts out).trans (hef ts out)

theorem parsesAlike_sequence_map
    {f : Element → Element}
    {es : List Element}
    (h : ∀ e ∈ es, g.ParsesAlike takes (f e) e) :
    g.ParsesAlike takes (.sequence (es.map f)) (.sequence es) := by
  intro ts out
  induction es generalizing ts with
  | nil => exact Iff.rfl
  | cons e es ih =>
      obtain ⟨he, hes⟩ := List.forall_mem_cons.mp h
      rw [List.map_cons, parses_sequence_cons_iff, parses_sequence_cons_iff]
      simp only [he _ _, ih hes]

theorem parsesAlike_oneOf_map
    {f : Element → Element}
    {es : List Element}
    (h : ∀ e ∈ es, g.ParsesAlike takes (f e) e) :
    g.ParsesAlike takes (.oneOf (es.map f)) (.oneOf es) := by
  intro ts out
  induction es with
  | nil => exact Iff.rfl
  | cons e es ih =>
      obtain ⟨he, hes⟩ := List.forall_mem_cons.mp h
      rw [List.map_cons, parses_oneOf_cons_iff, parses_oneOf_cons_iff, he, he, ih hes]

/-- If the parses of one element are parses of another, so are those of their lists. -/
theorem parses_list_mono
    {d e : Element}
    (h : ∀ ts out, g.Parses takes d ts out → g.Parses takes e ts out)
    {ts : List τ}
    {out : Option (List τ)}
    (hd : g.Parses takes (.list d) ts out) :
    g.Parses takes (.list e) ts out := by
  generalize hlist : Element.list d = list at hd
  induction hd with
  | listFail hd =>
      cases hlist
      exact .listFail (h _ _ hd)
  | listLast hd _ _ ih =>
      cases hlist
      exact .listLast (h _ _ hd) (ih rfl)
  | listMore hd _ _ ih =>
      cases hlist
      exact .listMore (h _ _ hd) (ih rfl)
  | _ => cases hlist

/-- Elements with the same outcomes may replace each other inside an element. -/
theorem congruence_parsesAlike
    (g : Grammar) :
    Element.Congruence (g.ParsesAlike takes) where
  trans := ParsesAlike.trans
  sequence := parsesAlike_sequence_map
  oneOf := parsesAlike_oneOf_map
  optional h ts out := by rw [parses_optional_iff, parses_optional_iff, h, h]
  list h _ _ :=
    ⟨parses_list_mono fun ts out => (h ts out).mp, parses_list_mono fun ts out => (h ts out).mpr⟩

end Congruence

section Rules

variable {takes} {g h : Grammar}

/-- Outcomes carry over to a grammar whose rules have the outcomes that the old definitions
have there. -/
theorem Parses.transfer
    (hrules : ∀ {key : String} {rule : Rule} {ts : List τ} {out : Option (List τ)},
      g.rule? key = some rule → h.Parses takes rule.definition ts out →
        h.ParsesRule takes key ts out)
    {e : Element}
    {ts : List τ}
    {out : Option (List τ)}
    (hp : g.Parses takes e ts out) :
    h.Parses takes e ts out := by
  induction hp with
  | terminalTaken ht => exact .terminalTaken ht
  | terminalOther ht => exact .terminalOther ht
  | terminalEnd name pattern => exact .terminalEnd name pattern
  | nonTerminal hrule _ ih => exact parses_nonTerminal_iff.mpr (hrules hrule ih)
  | sequenceNil ts => exact .sequenceNil ts
  | sequenceCons _ _ ihe ihes => exact .sequenceCons ihe ihes
  | sequenceFail es _ ihe => exact .sequenceFail es ihe
  | oneOfNil ts => exact .oneOfNil ts
  | oneOfFirst es _ ihe => exact .oneOfFirst es ihe
  | oneOfNext _ _ ihe ihes => exact .oneOfNext ihe ihes
  | optionalSome _ ihe => exact .optionalSome ihe
  | optionalNone _ ihe => exact .optionalNone ihe
  | listFail _ ihe => exact .listFail ihe
  | listLast _ _ ihe ihlist => exact .listLast ihe ihlist
  | listMore _ _ ihe ihlist => exact .listMore ihe ihlist

/-- Grammars with the same rules, in any order, have the same outcomes. -/
theorem parsesRule_congr
    (hgh : ∀ key, g.rule? key = h.rule? key)
    {key : String}
    {ts : List τ}
    {out : Option (List τ)} :
    g.ParsesRule takes key ts out ↔ h.ParsesRule takes key ts out := by
  rw [← parses_nonTerminal_iff, ← parses_nonTerminal_iff]
  constructor
  · exact Parses.transfer fun hrule hp => ⟨_, (hgh _).symm.trans hrule, hp⟩
  · exact Parses.transfer fun hrule hp => ⟨_, (hgh _).trans hrule, hp⟩

variable {f : Rule → Element}

/-- New definitions that keep the outcomes of each rule in every grammar keep all outcomes when
all of them are put in at once. -/
theorem parsesRule_mapRules_iff
    (hf : ∀ (h : Grammar) (rule : Rule), h.ParsesAlike takes (f rule) rule.definition)
    {key : String}
    {ts : List τ}
    {out : Option (List τ)} :
    (g.mapRules f).ParsesRule takes key ts out ↔ g.ParsesRule takes key ts out := by
  rw [← parses_nonTerminal_iff, ← parses_nonTerminal_iff]
  constructor
  · refine Parses.transfer fun {key rule ts out} hrule hp => ?_
    rw [rule?_mapRules, Option.map_eq_some_iff] at hrule
    obtain ⟨old, hold, rfl⟩ := hrule
    exact ⟨old, hold, (hf g old ts out).mp hp⟩
  · refine Parses.transfer fun {key rule ts out} hrule hp => ?_
    refine ⟨rule.withDefinition (f rule), ?_, (hf _ rule ts out).mpr hp⟩
    rw [rule?_mapRules, hrule, Option.map_some]

end Rules

end SchemaGrammar.Grammar
