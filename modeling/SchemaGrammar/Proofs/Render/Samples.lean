import SchemaGrammar.Proofs.Render.Noting

/-!
# Sample names

A name without a text of its own is written as a sample.  Outside of field lists and arguments
these samples are of an object type, an interface, or a root operation.  Rules whose names are
all samples, and which refer only to such rules, mention no other type.

**Results.**
* `Context.Outside`: outside of field lists and arguments; `Element.Sampled`: without names of
  its own.
* `Walk.notes_nil_element`: outside, an element of this kind mentions no type but the samples.
* `Walk.notes_nil_rule`: neither does a rule of this kind.
-/

namespace SchemaGrammar

namespace Render

/-- Whether an event defines a type or refers to it. -/
def Event.mentionsType (name : String) : Event → Bool
  | .typeDefined other _ => other == name
  | .typeReferenced other _ => other == name
  | _ => false

/-- The names of types that are written outside of field lists and arguments. -/
def sampleNames : List String :=
  ["ExampleType", "ExampleInterface", "Query", "Mutation", "Subscription"]

/-- Whether a part of a sequence opens a field list. -/
def opensIn : Option Element → List Element → Bool
  | _, [] => false
  | previous, e :: es => opensFieldList previous e es.head? || opensIn (some e) es

end Render

namespace Element

/-- Whether a node has no name with a text of its own, opens no field list, and refers to one of
some rules if it refers to a rule. -/
def isSampled (rules : List String) : Element → Bool
  | .terminal name pattern =>
      match Render.TerminalClass.ofName name with
      | .name _ => (pattern.bind Pattern.literal?).isNone
      | _ => true
  | .nonTerminal name => rules.contains name
  | .sequence es => !Render.opensIn none es
  | _ => true

def Sampled (rules : List String) (e : Element) : Prop := ∀ d ∈ e.walk, d.isSampled rules = true

instance (rules : List String) (e : Element) : Decidable (e.Sampled rules) := by
  unfold Sampled
  infer_instance

end Element

/-- A rule whose definition is sampled, and which leads into no field list and no arguments. -/
structure Rule.Sampled (rules : List String) (r : Rule) : Prop where
  definition : r.definition.Sampled rules
  scope : Render.Scope.ofRule r.name ∉
    [Render.Scope.outputFields, Render.Scope.inputFields, Render.Scope.arguments]
  defines : TypeKind.definedBy? r.name = none

namespace Render

namespace Context

/-- Outside of field lists and arguments, and of rules that define other types than objects. -/
structure Outside (c : Context) : Prop where
  inFieldList : c.inFieldList = false
  inArguments : c.inArguments = false
  inInputFields : c.inInputFields = false
  rule : ∀ rule, c.rule = some rule →
    TypeKind.definedBy? rule = none ∨ TypeKind.definedBy? rule = some .object

section Outside

variable {c : Context}

/-- The walk begins outside of fields and arguments. -/
theorem outside_start : Outside start where
  inFieldList := rfl
  inArguments := rfl
  inInputFields := rfl
  rule := by simp [start]

/-- Sequences do not lead inside by themselves. -/
theorem Outside.forSequence
    (h : c.Outside)
    (es : List Element) :
    (c.forSequence es).Outside := by
  unfold Context.forSequence
  cases es.head? with
  | none => exact h
  | some e =>
      dsimp only
      split
      · exact ⟨h.inFieldList, h.inArguments, h.inInputFields, h.rule⟩
      · rw [h.inFieldList, Bool.and_false, Bool.false_and, if_neg Bool.false_ne_true]
        exact h

theorem Outside.withOperation
    (h : c.Outside)
    (operation : Operation) :
    (c.withOperation operation).Outside :=
  ⟨h.inFieldList, h.inArguments, h.inInputFields, h.rule⟩

theorem Outside.forOccurrence
    (h : c.Outside) :
    c.forOccurrence.Outside := by
  rw [Context.forOccurrence, h.inFieldList, if_neg Bool.false_ne_true]
  exact h

/-- Entering a rule without a field list and arguments of its own. -/
theorem Outside.enteringRule
    (h : c.Outside)
    {rule : String}
    (hscope : Scope.ofRule rule ∉ [Scope.outputFields, Scope.inputFields, Scope.arguments])
    (hdefines : TypeKind.definedBy? rule = none ∨ TypeKind.definedBy? rule = some .object) :
    (c.enteringRule rule).Outside := by
  have hrule : ∀ other, some rule = some other →
      TypeKind.definedBy? other = none ∨ TypeKind.definedBy? other = some .object := by
    rintro other ⟨⟩
    exact hdefines
  unfold Context.enteringRule
  cases hrule' : Scope.ofRule rule with
  | outputFields | inputFields | arguments => simp [hrule'] at hscope
  | definition => exact ⟨rfl, rfl, rfl, hrule⟩
  | _ => exact ⟨h.inFieldList, h.inArguments, h.inInputFields, hrule⟩

end Outside

end Context

section Names

variable {c : Context} {role : Role} {name : String} {event : Event}

/-- What a name may stand for outside of field lists and arguments. -/
def Role.Outside (role : Role) : Prop :=
  role = .typeReference .object ∨ role = .typeReference .interface ∨
    role = .typeDefinition .object ∨
      ∀ kind, role ≠ .typeReference kind ∧ role ≠ .typeDefinition kind

theorem typeReference_of_outside
    (hc : c.Outside) :
    (Role.typeReference (Role.referenceKind c)).Outside := by
  unfold Role.referenceKind
  rw [hc.inArguments, hc.inInputFields]
  split
  · exact .inl rfl
  · split
    · exact .inr (.inl rfl)
    · exact .inl rfl

theorem resolveBare_of_outside
    (hc : c.Outside) :
    (Role.resolveBare c).Outside := by
  have hdefined : ∀ kind, TypeKind.definedBy? (c.rule.getD "") = some kind → kind = .object := by
    intro kind hkind
    cases hrule : c.rule with
    | none =>
        rw [hrule] at hkind
        cases hkind
    | some rule =>
        rw [hrule, Option.getD_some] at hkind
        rcases hc.rule rule hrule with h | h
        · rw [h] at hkind
          cases hkind
        · rw [h] at hkind
          exact (Option.some.inj hkind).symm
  have hother : ∀ role : Role,
      (∀ kind, role ≠ .typeReference kind ∧ role ≠ .typeDefinition kind) → role.Outside :=
    fun role h => .inr (.inr (.inr h))
  unfold Role.resolveBare
  dsimp only
  split_ifs
  · exact typeReference_of_outside hc
  · exact hother _ (by simp)
  · exact hother _ (by simp)
  · exact hother _ (by simp)
  · exact hother _ (by simp)
  · exact hother _ (by simp)
  · exact hother _ (by simp)
  · split
    · next kind hkind =>
        rw [hdefined kind hkind]
        exact .inr (.inr (.inl rfl))
    · exact hother _ (by simp)

/-- A name mentions samples only, if it stands outside. -/
theorem resolve_of_outside
    (hc : c.Outside)
    (hint : Hint) :
    (Role.resolve hint c).Outside := by
  cases hint with
  | type => exact typeReference_of_outside hc
  | directive =>
      unfold Role.resolve
      dsimp only
      split
      · exact .inr (.inr (.inr (by simp)))
      · exact .inr (.inr (.inr (by simp)))
  | argument => exact .inr (.inr (.inr (by simp [Role.resolve])))
  | any => exact resolveBare_of_outside hc

/-- The samples that are written outside mention no other type. -/
theorem mentionsType_sample
    (hname : name ∉ sampleNames)
    (hrole : role.Outside)
    (hevent : Walk.event? role (role.sample c) c = some event) :
    event.mentionsType name = false := by
  have hne : ∀ sample ∈ sampleNames, (sample == name) = false := by
    intro sample hsample
    rw [beq_eq_false_iff_ne]
    rintro rfl
    exact hname hsample
  have hsample : ∀ kind, kind = .object ∨ kind = .interface →
      (Role.sample (.typeReference kind) c == name) = false := by
    intro kind hkind
    refine hne _ ?_
    unfold Role.sample
    cases c.operation with
    | none =>
        show kind.sample ∈ sampleNames
        rcases hkind with rfl | rfl <;> decide
    | some operation =>
        show operation.rootType ∈ sampleNames
        cases operation <;> decide
  rcases hrole with rfl | rfl | rfl | hother
  · cases hevent
    exact hsample .object (.inl rfl)
  · cases hevent
    exact hsample .interface (.inr rfl)
  · cases hevent
    exact hne "ExampleType" (by decide)
  · unfold Walk.event? at hevent
    cases role with
    | typeReference kind => exact absurd rfl (hother kind).1
    | typeDefinition kind => exact absurd rfl (hother kind).2
    | argument =>
        dsimp only at hevent
        split at hevent
        · cases hevent
          rfl
        · cases hevent
    | directiveReference | directiveDefinition =>
        cases hevent
        rfl
    | field | enumValue | generic => cases hevent

end Names

namespace Walk

section Elements

variable {name : String} {rules : List String} {o : Options}
  {enter : String → Context → Walk String} {e : Element} {es : List Element} {c : Context}

/-- A terminal outside of fields mentions no type but samples. -/
theorem notes_nil_terminal
    (hname : name ∉ sampleNames)
    (hc : c.Outside)
    {terminalName : String}
    {pattern : Option Pattern}
    (hsampled : (Element.terminal terminalName pattern).isSampled rules = true) :
    Notes (Event.mentionsType name) (terminal terminalName pattern c) [] := by
  refine (says_terminal terminalName pattern c).notes.nil fun event hevent => ?_
  rw [Option.mem_toList, terminalText] at hevent
  split at hevent
  · cases hevent
  · unfold Element.isSampled at hsampled
    dsimp only at hsampled hevent
    split at hevent
    · next hint hclass =>
        rw [hclass] at hsampled
        rw [Option.isNone_iff_eq_none.mp hsampled] at hevent
        exact mentionsType_sample hname (resolve_of_outside hc hint) hevent
    · cases hevent

/-- Parts that mention nothing make a sequence that does not. -/
theorem notes_nil_sequenceParts
    (heach : ∀ e ∈ es, Notes (Event.mentionsType name) (element o enter e c) [])
    {previous : Option Element}
    (hopens : opensIn previous es = false) :
    Notes (Event.mentionsType name) (sequenceParts o enter previous es c) [] := by
  induction es generalizing previous with
  | nil => exact notes_pure []
  | cons e es ih =>
      obtain ⟨hhead, heach⟩ := List.forall_mem_cons.mp heach
      obtain ⟨hopen, hopens⟩ := Bool.or_eq_false_iff.mp hopens
      refine notes_sequenceParts_cons_nil ?_ (ih heach hopens)
      rw [hopen]
      exact hhead

theorem notes_nil_firstAdmitted
    {admitted : Element → Bool}
    (heach : ∀ e ∈ es, Notes (Event.mentionsType name) (element o enter e c) []) :
    Notes (Event.mentionsType name) (firstAdmitted o enter admitted es c) [] := by
  induction es with
  | nil => exact notes_pure ""
  | cons e es ih =>
      obtain ⟨hhead, heach⟩ := List.forall_mem_cons.mp heach
      rw [firstAdmitted]
      split
      · exact hhead
      · exact ih heach

/-- **Sampled elements.**  Outside of field lists and arguments they mention no type but the
samples, if the rules that they refer to do not. -/
theorem notes_nil_element
    (hname : name ∉ sampleNames)
    (henter : ∀ key ∈ rules, ∀ c : Context, c.Outside →
      Notes (Event.mentionsType name) (enter key c) [])
    (he : e.Sampled rules)
    (hc : c.Outside) :
    Notes (Event.mentionsType name) (element o enter e c) [] := by
  induction e using Element.inductionOn generalizing c with
  | terminal terminalName pattern =>
      rw [element]
      split
      · exact notes_pure ""
      · exact notes_nil_terminal hname hc (he _ (Element.mem_walk_self _))
  | nonTerminal key =>
      rw [element]
      split
      · exact notes_pure ""
      · exact henter key (by simpa [Element.isSampled] using he _ (Element.mem_walk_self _)) c hc
  | sequence es ih =>
      refine notes_sequence (notes_nil_sequenceParts (fun e hmem => ?_) ?_)
      · exact ih e hmem (fun d hd => he d (Element.walk_subset_sequence hmem hd))
          (hc.forSequence es)
      · simpa [Element.isSampled] using he _ (Element.mem_walk_self _)
  | oneOf es ih =>
      rw [element]
      refine notes_nil_firstAdmitted fun e hmem => ?_
      exact ih e hmem (fun d hd => he d (Element.walk_subset_oneOf hmem hd)) hc
  | optional e ih =>
      rw [element]
      split
      · exact notes_pure ""
      · exact ih (fun d hd => he d (List.mem_cons_of_mem _ hd)) hc
  | list e ih =>
      have he : e.Sampled rules := fun d hd => he d (List.mem_cons_of_mem _ hd)
      rw [element]
      split
      · have hentry := fun operation => ih he (hc.withOperation operation)
        exact (hentry .query).bind fun query => (hentry .mutation).bind fun mutation =>
          (hentry .subscription).map _
      · exact ih he hc.forOccurrence

end Elements

section Rules

variable {name : String} {rules : List String} {g : Grammar} {o : Options}

/-- **Sampled rules.**  Outside of field lists and arguments they mention no type but the
samples. -/
theorem notes_nil_rule
    (hname : name ∉ sampleNames)
    (hrules : ∀ key ∈ rules, ∀ r, g.rule? key = some r → r.Sampled rules)
    (allowance : Nat)
    {key : String}
    (hkey : key ∈ rules)
    {c : Context}
    (hc : c.Outside) :
    Notes (Event.mentionsType name) (rule g o allowance key c) [] := by
  induction allowance generalizing key c with
  | zero =>
      unfold rule
      split <;> exact notes_throw _
  | succ n ih =>
      cases hrule : g.rule? key with
      | none =>
          unfold rule
          rw [hrule]
          exact notes_throw _
      | some r =>
          have hr := hrules key hkey r hrule
          refine notes_rule (fun _ => rfl) (fun _ => rfl) (.inl rfl) hrule ?_
          rintro _ ⟨⟩
          exact notes_nil_element hname (fun key hkey c hc => ih hkey hc) hr.definition
            (hc.enteringRule hr.scope (.inl hr.defines))

end Rules

end Walk

end Render

end SchemaGrammar
