import SchemaGrammar.Proofs.Collection.Distinct
import SchemaGrammar.Proofs.Collection.Table
import SchemaGrammar.Render.Symbols

/-!
# What the symbols of a document know

The symbols of a document are kept up to date event by event, and they point to the directive
that the next argument is given to.  What they hold can be said of the events alone: which
names have been defined and referred to, and which arguments have been written while the
directive mentioned last was referred to.

**Results.**
* `Symbols.Records.record`: the symbols still say what has happened after one more event.
* `Symbols.records_ofTrace`: the symbols of a trace say what happens in it.
-/

namespace SchemaGrammar.Render

/-- Whether an event mentions a directive by its name. -/
@[simp] def Event.mentionsDirective : Event → Bool
  | .directiveDefined _ => true
  | .directiveReferenced _ => true
  | _ => false

namespace Trace

section Names

variable (t : Trace)

def DefinesType (name : String) : Prop := ∃ kind, Event.typeDefined name kind ∈ t

/-- A type is referred to that is not a scalar of the language itself. -/
def RefersToType (name : String) : Prop :=
  (∃ kind, Event.typeReferenced name kind ∈ t) ∧ name ∉ builtInScalars

def DefinesDirective (name : String) : Prop := Event.directiveDefined name ∈ t

/-- A directive is referred to that is not one of the language itself. -/
def RefersToDirective (name : String) : Prop :=
  Event.directiveReferenced name ∈ t ∧ name ∉ builtInDirectives

/-- The latest event that mentions a directive. -/
def latestDirective : Option Event := t.find? Event.mentionsDirective

/-- An argument is written while the directive mentioned last is one referred to. -/
def GivesArgument (directive argument : String) : Prop :=
  ∃ after before : Trace, t = after ++ .directiveArgument argument :: before ∧
    before.latestDirective = some (.directiveReferenced directive)

end Names

section OneMoreEvent

variable {event : Event} {t : Trace} {name directive argument : String}

@[simp] theorem definesType_cons :
    DefinesType (event :: t) name ↔
      (∃ kind, event = .typeDefined name kind) ∨ DefinesType t name := by
  simp only [DefinesType, List.mem_cons, exists_or, eq_comm]

@[simp] theorem refersToType_cons :
    RefersToType (event :: t) name ↔
      ((∃ kind, event = .typeReferenced name kind) ∧ name ∉ builtInScalars) ∨
        RefersToType t name := by
  simp only [RefersToType, List.mem_cons, exists_or, eq_comm, or_and_right]

@[simp] theorem definesDirective_cons :
    DefinesDirective (event :: t) name ↔
      event = .directiveDefined name ∨ DefinesDirective t name := by
  simp only [DefinesDirective, List.mem_cons, eq_comm]

@[simp] theorem refersToDirective_cons :
    RefersToDirective (event :: t) name ↔
      (event = .directiveReferenced name ∧ name ∉ builtInDirectives) ∨
        RefersToDirective t name := by
  simp only [RefersToDirective, List.mem_cons, eq_comm, or_and_right]

@[simp] theorem latestDirective_cons :
    latestDirective (event :: t) =
      if event.mentionsDirective then some event else latestDirective t := by
  unfold latestDirective
  rw [List.find?_cons]
  cases event.mentionsDirective <;> rfl

/-- An argument belongs to the latest directive. -/
@[simp] theorem givesArgument_cons :
    GivesArgument (event :: t) directive argument ↔
      (event = .directiveArgument argument ∧
          latestDirective t = some (.directiveReferenced directive)) ∨
        GivesArgument t directive argument := by
  constructor
  · rintro ⟨after, before, heq, hlatest⟩
    rcases List.cons_eq_append_iff.mp heq with ⟨rfl, hcons⟩ | ⟨rest, rfl, rfl⟩
    · cases hcons
      exact .inl ⟨rfl, hlatest⟩
    · exact .inr ⟨rest, before, rfl, hlatest⟩
  · rintro (⟨rfl, hlatest⟩ | ⟨after, before, rfl, hlatest⟩)
    · exact ⟨[], t, rfl, hlatest⟩
    · exact ⟨event :: after, before, rfl, hlatest⟩

/-- A directive that is given an argument is referred to. -/
theorem GivesArgument.referenced
    (h : GivesArgument t directive argument) :
    Event.directiveReferenced directive ∈ t := by
  obtain ⟨after, before, rfl, hlatest⟩ := h
  have hmem : Event.directiveReferenced directive ∈ before := List.mem_of_find?_eq_some hlatest
  exact List.mem_append_right _ (List.mem_cons_of_mem _ hmem)

end OneMoreEvent

end Trace

theorem mem_appendNew
    {x y : String}
    {xs : List String} :
    x ∈ appendNew xs y ↔ x ∈ xs ∨ x = y :=
  Distinct.mem_appendIfNew

/-- Elements that are appended only if they are new are distinct. -/
theorem nodup_appendNew
    {y : String}
    {xs : List String}
    (h : xs.Nodup) :
    (appendNew xs y).Nodup :=
  Distinct.nodup_appendIfNew h

namespace Symbols

/-- The symbols say what has happened. -/
structure Records (s : Symbols) (t : Trace) : Prop where
  definedTypes : ∀ name, s.definedTypes.contains name = true ↔ Trace.DefinesType t name
  referencedTypes : ∀ name, s.referencedTypes.contains name = true ↔ Trace.RefersToType t name
  definedDirectives : ∀ name, name ∈ s.definedDirectives ↔ Trace.DefinesDirective t name
  referencedDirectives : ∀ name,
    s.referencedDirectives.contains name = true ↔ Trace.RefersToDirective t name
  /-- The pointer stands at the directive mentioned last, if the next argument is its own. -/
  lastDirective : ∀ name,
    s.lastDirective = some name ↔
      Trace.latestDirective t = some (.directiveReferenced name) ∧ name ∉ builtInDirectives
  arguments : ∀ name given,
    s.referencedDirectives.get? name = some given →
      given.Nodup ∧ ∀ argument, argument ∈ given ↔ Trace.GivesArgument t name argument

theorem records_empty : Records {} [] where
  definedTypes name := by simp [Trace.DefinesType, Table.contains, Table.get?, Table.empty]
  referencedTypes name := by simp [Trace.RefersToType, Table.contains, Table.get?, Table.empty]
  definedDirectives name := by simp [Trace.DefinesDirective]
  referencedDirectives name := by
    simp [Trace.RefersToDirective, Table.contains, Table.get?, Table.empty]
  lastDirective name := by simp [Trace.latestDirective]
  arguments name given := by simp [Table.get?, Table.empty]

section Operations

variable (s : Symbols) (name argument : String) (kind : TypeKind)

/-- A definition changes the defined types only. -/
theorem defineType_spec :
    ∃ types, s.defineType name kind = { s with definedTypes := types } ∧
      ∀ name', types.contains name' = true ↔
        name = name' ∨ s.definedTypes.contains name' = true := by
  unfold defineType
  split
  · next hname =>
      refine ⟨s.definedTypes, rfl, fun name' => ⟨.inr, ?_⟩⟩
      rintro (rfl | h)
      · exact hname
      · exact h
  · refine ⟨s.definedTypes.insert name kind, rfl, fun name' => ?_⟩
    rw [Table.contains_insert, Bool.or_eq_true, beq_iff_eq, eq_comm]

/-- A reference changes the referenced types only. -/
theorem referenceType_spec :
    ∃ types, s.referenceType name kind = { s with referencedTypes := types } ∧
      ∀ name', types.contains name' = true ↔
        (name = name' ∧ name' ∉ builtInScalars) ∨ s.referencedTypes.contains name' = true := by
  unfold referenceType
  split
  · next hname =>
      rw [List.contains_iff_mem] at hname
      refine ⟨s.referencedTypes, rfl, fun name' => ⟨.inr, ?_⟩⟩
      rintro (⟨rfl, hnew⟩ | h)
      · exact absurd hname hnew
      · exact h
  · next hname =>
      rw [List.contains_iff_mem] at hname
      refine ⟨_, rfl, fun name' => ?_⟩
      rw [Table.contains_insert, Bool.or_eq_true, beq_iff_eq]
      constructor
      · rintro (rfl | h)
        · exact .inl ⟨rfl, hname⟩
        · exact .inr h
      · rintro (⟨rfl, -⟩ | h)
        · exact .inl rfl
        · exact .inr h

/-- A directive that is referred to for the first time has no arguments yet. -/
theorem referenceDirective_spec :
    ∃ directives,
      s.referenceDirective name =
          { s with
            referencedDirectives := directives
            lastDirective := if name ∈ builtInDirectives then none else some name } ∧
        ∀ name', directives.get? name' =
          if name = name' ∧ name' ∉ builtInDirectives then
            some ((s.referencedDirectives.get? name').getD [])
          else s.referencedDirectives.get? name' := by
  unfold referenceDirective
  split
  · next hname =>
      rw [List.contains_iff_mem] at hname
      refine ⟨s.referencedDirectives, by rw [if_pos hname], fun name' => ?_⟩
      rw [if_neg]
      rintro ⟨rfl, hnew⟩
      exact hnew hname
  · next hname =>
      rw [List.contains_iff_mem] at hname
      refine ⟨_, by rw [if_neg hname], fun name' => ?_⟩
      by_cases heq : name = name'
      · subst heq
        rw [if_pos (And.intro rfl hname)]
        cases hget : s.referencedDirectives.get? name with
        | none => simp [Table.contains, hget, Table.get?_insert]
        | some arguments => simp [Table.contains, hget]
      · rw [if_neg fun h : name = name' ∧ _ => heq h.1]
        split
        · rfl
        · rw [Table.get?_insert, if_neg (Ne.symm heq)]

/-- An argument goes to the directive of the pointer, and to no other. -/
theorem addArgument_spec :
    ∃ directives, s.addArgument argument = { s with referencedDirectives := directives } ∧
      ∀ name', directives.get? name' =
        (s.referencedDirectives.get? name').map fun arguments =>
          if s.lastDirective = some name' then appendNew arguments argument else arguments := by
  unfold addArgument
  split
  · next hlast =>
      refine ⟨s.referencedDirectives, rfl, fun name' => ?_⟩
      simp [hlast]
  · next directive hlast =>
      split
      · next hget =>
          refine ⟨s.referencedDirectives, rfl, fun name' => ?_⟩
          rw [hlast]
          by_cases heq : directive = name'
          · subst heq
            simp [hget]
          · simp [heq]
      · next arguments hget =>
          refine ⟨_, rfl, fun name' => ?_⟩
          rw [hlast, Table.get?_insert]
          by_cases heq : directive = name'
          · subst heq
            simp [hget]
          · simp [heq, Ne.symm heq]

end Operations

section OneMoreEvent

variable {s : Symbols} {t : Trace}

/-- An event at a rule mentions no name. -/
theorem Records.rule
    (h : s.Records t)
    {rule : String}
    {event : Event}
    (hevent : event = .entered rule ∨ event = .repeated rule) :
    s.Records (event :: t) := by
  rcases hevent with rfl | rfl
  all_goals
    exact {
      definedTypes := by simpa using h.definedTypes
      referencedTypes := by simpa using h.referencedTypes
      definedDirectives := by simpa using h.definedDirectives
      referencedDirectives := by simpa using h.referencedDirectives
      lastDirective := by simpa using h.lastDirective
      arguments := by simpa using h.arguments }

/-- A definition of a type is recorded. -/
theorem Records.defineType
    (h : s.Records t)
    (name : String)
    (kind : TypeKind) :
    (s.defineType name kind).Records (.typeDefined name kind :: t) := by
  obtain ⟨types, heq, htypes⟩ := s.defineType_spec name kind
  rw [heq]
  exact {
    definedTypes := fun name' => by simp [htypes, h.definedTypes]
    referencedTypes := by simpa using h.referencedTypes
    definedDirectives := by simpa using h.definedDirectives
    referencedDirectives := by simpa using h.referencedDirectives
    lastDirective := by simpa using h.lastDirective
    arguments := by simpa using h.arguments }

theorem Records.referenceType
    (h : s.Records t)
    (name : String)
    (kind : TypeKind) :
    (s.referenceType name kind).Records (.typeReferenced name kind :: t) := by
  obtain ⟨types, heq, htypes⟩ := s.referenceType_spec name kind
  rw [heq]
  exact {
    definedTypes := by simpa using h.definedTypes
    referencedTypes := fun name' => by simp [htypes, h.referencedTypes]
    definedDirectives := by simpa using h.definedDirectives
    referencedDirectives := by simpa using h.referencedDirectives
    lastDirective := by simpa using h.lastDirective
    arguments := by simpa using h.arguments }

/-- A definition of a directive is recorded, and ends its arguments. -/
theorem Records.defineDirective
    (h : s.Records t)
    (name : String) :
    (s.defineDirective name).Records (.directiveDefined name :: t) where
  definedTypes := by simpa [Symbols.defineDirective] using h.definedTypes
  referencedTypes := by simpa [Symbols.defineDirective] using h.referencedTypes
  definedDirectives name' := by
    simp [Symbols.defineDirective, mem_appendNew, h.definedDirectives, or_comm, eq_comm]
  referencedDirectives := by simpa [Symbols.defineDirective] using h.referencedDirectives
  lastDirective := by simp [Symbols.defineDirective]
  arguments := by simpa [Symbols.defineDirective] using h.arguments

theorem Records.referenceDirective
    (h : s.Records t)
    (name : String) :
    (s.referenceDirective name).Records (.directiveReferenced name :: t) := by
  obtain ⟨directives, heq, hget⟩ := s.referenceDirective_spec name
  rw [heq]
  exact {
    definedTypes := by simpa using h.definedTypes
    referencedTypes := by simpa using h.referencedTypes
    definedDirectives := by simpa using h.definedDirectives
    referencedDirectives := fun name' => by
      have hold := h.referencedDirectives name'
      unfold Table.contains at hold ⊢
      rw [hget, Trace.refersToDirective_cons, ← hold]
      split
      · next hname => simp [hname]
      · next hname => rw [Event.directiveReferenced.injEq, or_iff_right hname]
    lastDirective := fun name' => by
      by_cases heq : name = name'
      · subst heq
        simp
      · simp [heq]
    arguments := fun name' given hgiven => by
      simp only [Trace.givesArgument_cons, reduceCtorEq, false_and, false_or]
      rw [hget] at hgiven
      split at hgiven
      · next hname =>
          cases hold : s.referencedDirectives.get? name' with
          | some old =>
              rw [hold] at hgiven
              cases hgiven
              exact h.arguments name' _ hold
          | none =>
              rw [hold] at hgiven
              cases hgiven
              refine ⟨List.nodup_nil, fun argument => ?_⟩
              refine ⟨fun hmem => absurd hmem List.not_mem_nil, ?_⟩
              -- a directive that has been given an argument is in the table
              intro hargument
              have hin := (h.referencedDirectives name').mpr ⟨hargument.referenced, hname.2⟩
              rw [Table.contains, hold] at hin
              cases hin
      · exact h.arguments name' given hgiven }

/-- An argument is recorded under the latest directive. -/
theorem Records.addArgument
    (h : s.Records t)
    (argument : String) :
    (s.addArgument argument).Records (.directiveArgument argument :: t) := by
  obtain ⟨directives, heq, hget⟩ := s.addArgument_spec argument
  rw [heq]
  exact {
    definedTypes := by simpa using h.definedTypes
    referencedTypes := by simpa using h.referencedTypes
    definedDirectives := by simpa using h.definedDirectives
    referencedDirectives := fun name' => by
      have hold := h.referencedDirectives name'
      unfold Table.contains at hold ⊢
      simpa [hget] using hold
    lastDirective := by simpa using h.lastDirective
    arguments := fun name' given hgiven => by
      rw [hget, Option.map_eq_some_iff] at hgiven
      obtain ⟨old, hold, rfl⟩ := hgiven
      obtain ⟨hnodup, hmem⟩ := h.arguments name' old hold
      have hname : name' ∉ builtInDirectives := by
        refine ((h.referencedDirectives name').mp ?_).2
        rw [Table.contains, hold]
        rfl
      by_cases hlast : s.lastDirective = some name'
      · rw [if_pos hlast]
        refine ⟨nodup_appendNew hnodup, fun argument' => ?_⟩
        have hlatest := ((h.lastDirective name').mp hlast).1
        rw [mem_appendNew, hmem]
        simp [hlatest, or_comm, eq_comm]
      · rw [if_neg hlast]
        refine ⟨hnodup, fun argument' => ?_⟩
        have hlatest : Trace.latestDirective t ≠ some (.directiveReferenced name') :=
          fun hlatest => hlast ((h.lastDirective name').mpr ⟨hlatest, hname⟩)
        rw [hmem]
        simp [hlatest] }

/-- **What one event adds.**  The symbols still say what has happened. -/
theorem Records.record
    (h : s.Records t)
    (event : Event) :
    (s.record event).Records (event :: t) := by
  cases event with
  | entered rule => exact h.rule (.inl rfl)
  | repeated rule => exact h.rule (.inr rfl)
  | typeDefined name kind => exact h.defineType name kind
  | typeReferenced name kind => exact h.referenceType name kind
  | directiveDefined name => exact h.defineDirective name
  | directiveReferenced name => exact h.referenceDirective name
  | directiveArgument name => exact h.addArgument name

end OneMoreEvent

/-- The symbols of a trace say what has happened. -/
theorem records_ofTrace
    (t : Trace) :
    (ofTrace t).Records t := by
  induction t with
  | nil => exact records_empty
  | cons event t ih => exact ih.record event

end Symbols

end SchemaGrammar.Render
