import SchemaGrammar.Proofs.Render.Closure

/-!
# The kinds of stubs

A type that is referred to and not defined gets one stub.  The kind of the stub fits every
reference to the type, and the order of the references does not matter: an interface is one
wherever it is referred to, and a type that stands for output and for input is a scalar.

**Results.**
* `Trace.fittingKind?`: the kind that fits all references to a type.
* `Symbols.get?_referencedTypes_ofTrace`: it is the kind that the symbols keep.
* `Symbols.ofType_stubs`: the stubs of one type.
-/

namespace SchemaGrammar.Render

/-- The stubs of one type. -/
def Stub.ofType (name : String) (stubs : List Stub) : List Stub :=
  stubs.filter fun stub => stub.typeName? == some name

section OneType

variable {name : String} {stub : Stub} {stubs : List Stub}

theorem ofType_cons_of_eq
    (h : stub.typeName? = some name) :
    Stub.ofType name (stub :: stubs) = stub :: Stub.ofType name stubs :=
  List.filter_cons_of_pos (beq_iff_eq.mpr h)

theorem ofType_cons_of_ne
    (h : stub.typeName? ≠ some name) :
    Stub.ofType name (stub :: stubs) = Stub.ofType name stubs :=
  List.filter_cons_of_neg (mt beq_iff_eq.mp h)

/-- A type that no stub names has no stub. -/
theorem ofType_eq_nil
    (h : name ∉ stubs.filterMap Stub.typeName?) :
    Stub.ofType name stubs = [] := by
  rw [Stub.ofType, List.filter_eq_nil_iff]
  intro stub hstub hname
  exact h (List.mem_filterMap.mpr ⟨stub, hstub, eq_of_beq hname⟩)

/-- A type that a list of stubs names once has one stub. -/
theorem exists_ofType_eq_singleton
    (hnodup : (stubs.filterMap Stub.typeName?).Nodup)
    (hmem : name ∈ stubs.filterMap Stub.typeName?) :
    ∃ kind, Stub.ofType name stubs = [.type name kind] := by
  induction stubs with
  | nil => cases hmem
  | cons stub stubs ih =>
      cases stub with
      | type other kind =>
          have hnames : (Stub.type other kind :: stubs).filterMap Stub.typeName? =
              other :: stubs.filterMap Stub.typeName? := rfl
          rw [hnames, List.nodup_cons] at hnodup
          rw [hnames, List.mem_cons] at hmem
          by_cases hname : other = name
          · subst hname
            refine ⟨kind, ?_⟩
            rw [ofType_cons_of_eq rfl, ofType_eq_nil hnodup.1]
          · obtain ⟨kind', hone⟩ := ih hnodup.2 (hmem.resolve_left (Ne.symm hname))
            have hother : (Stub.type other kind).typeName? ≠ some name :=
              fun h => hname (Option.some.inj h)
            exact ⟨kind', (ofType_cons_of_ne hother).trans hone⟩
      | directive other arguments =>
          obtain ⟨kind, hone⟩ := ih hnodup hmem
          have hother : (Stub.directive other arguments).typeName? ≠ some name := nofun
          exact ⟨kind, (ofType_cons_of_ne hother).trans hone⟩

end OneType

namespace Trace

/-- The kind that fits all references to a type. -/
def fittingKind? (t : Trace) (name : String) : Option TypeKind :=
  if .typeReferenced name .interface ∈ t then some .interface
  else if .typeReferenced name .object ∈ t ∧ .typeReferenced name .input ∈ t then some .scalar
  else if .typeReferenced name .object ∈ t then some .object
  else if .typeReferenced name .input ∈ t then some .input
  else none

section OneMoreReference

variable {t : Trace} {name : String} {event : Event}

/-- Other events do not change the fitting kind. -/
theorem fittingKind?_cons_of_ne
    (h : ∀ kind, event ≠ .typeReferenced name kind) :
    fittingKind? (event :: t) name = fittingKind? t name := by
  unfold fittingKind?
  simp only [List.mem_cons, (h _).symm, false_or]

/-- One more reference has its kind merged with the one that has fitted so far. -/
theorem fittingKind?_cons
    {kind : TypeKind}
    (hkind : kind = .object ∨ kind = .interface ∨ kind = .input) :
    fittingKind? (.typeReferenced name kind :: t) name =
      some ((fittingKind? t name).elim kind fun seen => mergeKinds seen kind) := by
  unfold fittingKind?
  by_cases hinterface : Event.typeReferenced name .interface ∈ t
  · rcases hkind with rfl | rfl | rfl <;> simp [hinterface, mergeKinds]
  · by_cases hobject : Event.typeReferenced name .object ∈ t
    · by_cases hinput : Event.typeReferenced name .input ∈ t
      · rcases hkind with rfl | rfl | rfl <;> simp [hinterface, hobject, hinput, mergeKinds]
      · rcases hkind with rfl | rfl | rfl <;> simp [hinterface, hobject, hinput, mergeKinds]
    · by_cases hinput : Event.typeReferenced name .input ∈ t
      · rcases hkind with rfl | rfl | rfl <;> simp [hinterface, hobject, hinput, mergeKinds]
      · rcases hkind with rfl | rfl | rfl <;> simp [hinterface, hobject, hinput]

end OneMoreReference

end Trace

namespace Symbols

section Kinds

variable {s : Symbols} {name : String} {event : Event}

theorem get?_referencedTypes_record_of_ne
    (h : ∀ kind, event ≠ .typeReferenced name kind) :
    (s.record event).referencedTypes.get? name = s.referencedTypes.get? name := by
  cases event with
  | entered | repeated | directiveDefined => rfl
  | typeDefined other kind =>
      unfold record defineType
      dsimp only
      split <;> rfl
  | typeReferenced other kind =>
      have hne : name ≠ other := fun heq => h kind (by rw [heq])
      unfold record referenceType
      dsimp only
      split
      · rfl
      · rw [Table.get?_insert, if_neg hne]
  | directiveReferenced other =>
      unfold record referenceDirective
      dsimp only
      split <;> rfl
  | directiveArgument other =>
      unfold record addArgument
      dsimp only
      split
      · rfl
      · split <;> rfl

/-- A reference is merged with the kind that is kept. -/
theorem get?_referencedTypes_record
    (hname : name ∉ builtInScalars)
    (kind : TypeKind) :
    (s.record (.typeReferenced name kind)).referencedTypes.get? name =
      some ((s.referencedTypes.get? name).elim kind fun seen => mergeKinds seen kind) := by
  have hname : builtInScalars.contains name = false := by simpa using hname
  unfold record referenceType
  dsimp only
  rw [hname, if_neg Bool.false_ne_true, Table.get?_insert, if_pos rfl]
  cases s.referencedTypes.get? name <;> rfl

/-- **Kinds of references.**  The symbols keep the kind that fits all references to a type. -/
theorem get?_referencedTypes_ofTrace
    (hname : name ∉ builtInScalars)
    {t : Trace}
    (hkinds : ∀ kind, .typeReferenced name kind ∈ t →
      kind = .object ∨ kind = .interface ∨ kind = .input) :
    (ofTrace t).referencedTypes.get? name = t.fittingKind? name := by
  induction t with
  | nil => rfl
  | cons event t ih =>
      have ih := ih fun kind hmem => hkinds kind (List.mem_cons_of_mem _ hmem)
      show ((ofTrace t).record event).referencedTypes.get? name = _
      by_cases hevent : ∃ kind, event = .typeReferenced name kind
      · obtain ⟨kind, rfl⟩ := hevent
        rw [get?_referencedTypes_record hname,
          Trace.fittingKind?_cons (hkinds kind List.mem_cons_self), ih]
      · have hne : ∀ kind, event ≠ .typeReferenced name kind :=
          fun kind heq => hevent ⟨kind, heq⟩
        rw [get?_referencedTypes_record_of_ne hne, Trace.fittingKind?_cons_of_ne hne, ih]

end Kinds

section Stubs

variable (s : Symbols) {name : String}

/-- A missing type has one stub, of the kind that is kept. -/
theorem ofType_missingTypes :
    Stub.ofType name s.missingTypes =
      if s.definedTypes.contains name then []
      else ((s.referencedTypes.get? name).map (Stub.type name)).toList := by
  have hcomm : (s.referencedTypes.entries.filter fun e => !s.definedTypes.contains e.1).filter
      ((fun stub => stub.typeName? == some name) ∘ fun e => Stub.type e.1 e.2) =
        (s.referencedTypes.entries.filter fun e => e.1 == name).filter
          fun e => !s.definedTypes.contains e.1 := by
    rw [List.filter_filter, List.filter_filter]
    refine List.filter_congr fun e _ => ?_
    rw [Bool.and_comm]
    rfl
  unfold missingTypes Stub.ofType
  rw [List.filter_map, hcomm, Table.filter_entries]
  cases s.referencedTypes.get? name with
  | none => simp
  | some kind => cases hdefined : s.definedTypes.contains name <;> simp [hdefined]

/-- The stubs of one type that is not the query type. -/
theorem ofType_stubs
    (hname : name ≠ Stub.queryType) :
    Stub.ofType name s.stubs =
      if s.definedTypes.contains name then []
      else ((s.referencedTypes.get? name).map (Stub.type name)).toList := by
  have hquery : Stub.ofType name s.missingQuery = [] :=
    ofType_eq_nil fun h => hname (s.mem_typeNames_missingQuery.mp h).1
  have hdirectives : Stub.ofType name s.missingDirectives = [] := by
    refine ofType_eq_nil ?_
    rw [typeNames_missingDirectives]
    exact List.not_mem_nil
  have happend : Stub.ofType name s.stubs = Stub.ofType name s.missingTypes ++
      Stub.ofType name s.missingQuery ++ Stub.ofType name s.missingDirectives := by
    unfold stubs Stub.ofType
    rw [List.filter_append, List.filter_append]
  rw [happend, hquery, hdirectives, List.append_nil, List.append_nil, ofType_missingTypes]

end Stubs

end Symbols

end SchemaGrammar.Render
