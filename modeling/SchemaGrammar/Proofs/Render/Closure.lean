import SchemaGrammar.Proofs.Render.Symbols

/-!
# The stubs that a document needs

Behind the blocks of a document stands a stub for every name that has been referred to and not
been defined.  Since the symbols say what has happened while the blocks were rendered, the
stubs can be told from the events of the walk.

**Results.**
* `Trace.ClosedBy`: which stubs are due after the events of a walk.
* `Symbols.Records.stubs_close`: the stubs of symbols that say what has happened.
-/

namespace SchemaGrammar

namespace Render

namespace Stub

def typeName? : Stub → Option String
  | .type name _ => some name
  | .directive _ _ => none

def directiveName? : Stub → Option String
  | .type _ _ => none
  | .directive name _ => some name

end Stub

/-- A type is missing after the events of a walk: it is referred to and not defined, or it is the
query type of a document that has types, and is not among them. -/
def Trace.LacksType (t : Trace) (name : String) : Prop :=
  (t.RefersToType name ∧ ¬ t.DefinesType name) ∨
    (name = Stub.queryType ∧ ¬ t.DefinesType name ∧ ¬ t.RefersToType name ∧
      ∃ other, t.DefinesType other ∨ t.RefersToType other)

/-- Stubs define what is missing after the events of a walk, each name once. -/
structure Trace.ClosedBy (t : Trace) (stubs : List Stub) : Prop where
  types_nodup : (stubs.filterMap Stub.typeName?).Nodup
  types : ∀ name, name ∈ stubs.filterMap Stub.typeName? ↔ t.LacksType name
  directives_nodup : (stubs.filterMap Stub.directiveName?).Nodup
  directives : ∀ name,
    name ∈ stubs.filterMap Stub.directiveName? ↔
      t.RefersToDirective name ∧ ¬ t.DefinesDirective name
  arguments_nodup : ∀ name arguments, .directive name arguments ∈ stubs → arguments.Nodup
  arguments : ∀ name arguments, .directive name arguments ∈ stubs →
    ∀ argument, argument ∈ arguments ↔ t.GivesArgument name argument

namespace Symbols

section Names

variable (s : Symbols)

/-- The missing types are those referred to and not defined, each once. -/
theorem typeNames_missingTypes :
    s.missingTypes.filterMap Stub.typeName? =
      s.referencedTypes.keys.filter fun name => !s.definedTypes.contains name := by
  unfold missingTypes Table.keys
  rw [List.filterMap_map, List.filter_map]
  exact congrFun (List.filterMap_eq_map (f := Prod.fst)) _

theorem typeNames_missingDirectives : s.missingDirectives.filterMap Stub.typeName? = [] := by
  unfold missingDirectives
  rw [List.filterMap_map]
  exact List.filterMap_eq_nil_iff.mpr fun _ _ => rfl

theorem directiveNames_missingTypes : s.missingTypes.filterMap Stub.directiveName? = [] := by
  unfold missingTypes
  rw [List.filterMap_map]
  exact List.filterMap_eq_nil_iff.mpr fun _ _ => rfl

theorem directiveNames_missingQuery : s.missingQuery.filterMap Stub.directiveName? = [] := by
  unfold missingQuery
  split
  · rfl
  · split <;> rfl

/-- The missing directives are those referred to and not defined. -/
theorem directiveNames_missingDirectives :
    s.missingDirectives.filterMap Stub.directiveName? =
      s.referencedDirectives.keys.filter fun name => !s.definedDirectives.contains name := by
  unfold missingDirectives Table.keys
  rw [List.filterMap_map, List.filter_map]
  exact congrFun (List.filterMap_eq_map (f := Prod.fst)) _

/-- The types of the stubs: the missing ones, and then the query type if it is due. -/
theorem typeNames_stubs :
    s.stubs.filterMap Stub.typeName? =
      (s.referencedTypes.keys.filter fun name => !s.definedTypes.contains name) ++
        s.missingQuery.filterMap Stub.typeName? := by
  unfold stubs
  rw [List.filterMap_append, List.filterMap_append, typeNames_missingTypes,
    typeNames_missingDirectives, List.append_nil]

theorem directiveNames_stubs :
    s.stubs.filterMap Stub.directiveName? =
      s.referencedDirectives.keys.filter fun name => !s.definedDirectives.contains name := by
  unfold stubs
  rw [List.filterMap_append, List.filterMap_append, directiveNames_missingTypes,
    directiveNames_missingQuery, directiveNames_missingDirectives, List.nil_append,
    List.nil_append]

theorem areTypes_iff :
    (s.definedTypes.isEmpty && s.referencedTypes.isEmpty) = false ↔
      ∃ other, s.definedTypes.contains other = true ∨ s.referencedTypes.contains other = true := by
  rw [Bool.and_eq_false_iff, Table.isEmpty_eq_false_iff, Table.isEmpty_eq_false_iff, exists_or]

theorem typeNames_missingQuery :
    s.missingQuery.filterMap Stub.typeName? =
      if s.definedTypes.contains Stub.queryType || s.referencedTypes.contains Stub.queryType then []
      else if s.definedTypes.isEmpty && s.referencedTypes.isEmpty then []
      else [Stub.queryType] := by
  unfold missingQuery
  split
  · rfl
  · split <;> rfl

/-- The query type is added only where there are other types and it is none of them. -/
theorem mem_typeNames_missingQuery
    {name : String} :
    name ∈ s.missingQuery.filterMap Stub.typeName? ↔
      name = Stub.queryType ∧ ¬ s.definedTypes.contains name = true ∧
        ¬ s.referencedTypes.contains name = true ∧
        ∃ other, s.definedTypes.contains other = true ∨ s.referencedTypes.contains other = true := by
  rw [typeNames_missingQuery, ← areTypes_iff]
  split
  · next hquery =>
      refine ⟨fun h => absurd h List.not_mem_nil, ?_⟩
      rintro ⟨rfl, hdefined, hreferenced, -⟩
      rcases (Bool.or_eq_true _ _).mp hquery with h | h
      · exact absurd h hdefined
      · exact absurd h hreferenced
  · next hquery =>
      rw [Bool.or_eq_true, not_or] at hquery
      split
      · next hnone => simp [hnone]
      · next hsome =>
          rw [List.mem_singleton]
          constructor
          · rintro rfl
            exact ⟨rfl, hquery.1, hquery.2, Bool.of_not_eq_true hsome⟩
          · exact fun h => h.1

/-- Which types the stubs define. -/
theorem mem_typeNames_stubs
    {name : String} :
    name ∈ s.stubs.filterMap Stub.typeName? ↔
      (s.referencedTypes.contains name = true ∧ ¬ s.definedTypes.contains name = true) ∨
        (name = Stub.queryType ∧ ¬ s.definedTypes.contains name = true ∧
          ¬ s.referencedTypes.contains name = true ∧
          ∃ other,
            s.definedTypes.contains other = true ∨ s.referencedTypes.contains other = true) := by
  rw [typeNames_stubs, List.mem_append, mem_typeNames_missingQuery, List.mem_filter,
    ← Table.contains_eq_true_iff, Bool.not_eq_true', Bool.not_eq_true]

/-- No type has two stubs. -/
theorem nodup_typeNames_stubs : (s.stubs.filterMap Stub.typeName?).Nodup := by
  rw [typeNames_stubs, List.nodup_append]
  refine ⟨s.referencedTypes.nodup_keys.filter _, ?_, ?_⟩
  · rw [typeNames_missingQuery]
    split
    · exact List.nodup_nil
    · split
      · exact List.nodup_nil
      · exact List.pairwise_singleton _ _
  · rintro name hname other hother rfl
    obtain ⟨-, -, hreferenced, -⟩ := s.mem_typeNames_missingQuery.mp hother
    exact hreferenced (Table.contains_eq_true_iff.mpr (List.mem_filter.mp hname).1)

theorem mem_directiveNames_stubs
    {name : String} :
    name ∈ s.stubs.filterMap Stub.directiveName? ↔
      s.referencedDirectives.contains name = true ∧ name ∉ s.definedDirectives := by
  rw [directiveNames_stubs, List.mem_filter, ← Table.contains_eq_true_iff, Bool.not_eq_true',
    ← Bool.not_eq_true, List.contains_iff_mem]

theorem nodup_directiveNames_stubs : (s.stubs.filterMap Stub.directiveName?).Nodup := by
  rw [directiveNames_stubs]
  exact s.referencedDirectives.nodup_keys.filter _

/-- The arguments of the stub of a directive are those kept for the directive. -/
theorem get?_of_directive_mem_stubs
    {name : String}
    {arguments : List String}
    (h : Stub.directive name arguments ∈ s.stubs) :
    s.referencedDirectives.get? name = some arguments := by
  unfold stubs at h
  rcases List.mem_append.mp h with h | h
  · rcases List.mem_append.mp h with h | h
    · obtain ⟨e, -, he⟩ := List.mem_map.mp h
      cases he
    · unfold missingQuery at h
      split at h
      · cases h
      · split at h
        · cases h
        · cases List.mem_singleton.mp h
  · obtain ⟨e, he, heq⟩ := List.mem_map.mp h
    cases heq
    exact Table.get?_eq_some_iff.mpr (List.mem_filter.mp he).1

end Names

section Records

variable {s : Symbols} {t : Trace}

/-- The stubs of symbols that say what has happened define what is missing. -/
theorem Records.stubs_close
    (h : s.Records t) :
    t.ClosedBy s.stubs where
  types_nodup := s.nodup_typeNames_stubs
  types name := by
    rw [mem_typeNames_stubs, Trace.LacksType]
    simp only [h.definedTypes, h.referencedTypes]
  directives_nodup := s.nodup_directiveNames_stubs
  directives name := by
    rw [mem_directiveNames_stubs, h.referencedDirectives, h.definedDirectives]
  arguments_nodup name arguments hstub :=
    (h.arguments name arguments (s.get?_of_directive_mem_stubs hstub)).1
  arguments name arguments hstub :=
    (h.arguments name arguments (s.get?_of_directive_mem_stubs hstub)).2

end Records

end Symbols

end Render

end SchemaGrammar
