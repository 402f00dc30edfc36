import SchemaGrammar.Proofs.Render.Closure
import SchemaGrammar.Proofs.Render.Literal

/-!
# What symbols say apart from kinds and arguments

Events change the symbols of a document, and the names in them, one after the other.  The kind
as which a type is referred to and the arguments that are given to a directive do not show in
the names.  They do not show at all where a type or a directive needs no definition.

**Results.**
* `Symbols.names_record`: the names after one more event.
* `Trace.congruence_sameView`: a view of the symbols that events respect is kept by a walk.
* `Trace.ignoresKind_names` and its companions: what the two views do not see.
-/

namespace SchemaGrammar.Render

def Event.IsArgument (event : Event) : Prop := ∃ name, event = .directiveArgument name

/-- The names that a document defines and refers to. -/
structure Names where
  definedTypes : List String
  referencedTypes : List String
  definedDirectives : List String
  referencedDirectives : List String
  deriving DecidableEq, Inhabited

/-- The names after one more event. -/
def Names.record (n : Names) : Event → Names
  | .entered _ => n
  | .repeated _ => n
  | .typeDefined name _ => { n with definedTypes := appendNew n.definedTypes name }
  | .typeReferenced name _ =>
      if builtInScalars.contains name then n
      else { n with referencedTypes := appendNew n.referencedTypes name }
  | .directiveDefined name => { n with definedDirectives := appendNew n.definedDirectives name }
  | .directiveReferenced name =>
      if builtInDirectives.contains name then n
      else { n with referencedDirectives := appendNew n.referencedDirectives name }
  | .directiveArgument _ => n

namespace Symbols

def names (s : Symbols) : Names :=
  ⟨s.definedTypes.keys, s.referencedTypes.keys, s.definedDirectives, s.referencedDirectives.keys⟩

section Keys

variable {α : Type} (t : Table α) (key : String) (value : α)

theorem contains_keys : t.keys.contains key = t.contains key := by
  rw [Bool.eq_iff_iff, List.contains_iff_mem, Table.contains_eq_true_iff]

/-- To insert under a key appends it if it is new. -/
theorem keys_insert_eq_appendNew : (t.insert key value).keys = appendNew t.keys key := by
  rw [Table.keys_insert, appendNew]
  simp only [List.contains_iff_mem]

end Keys

/-- The names after one more event can be told from the names before. -/
theorem names_record
    (s : Symbols)
    (event : Event) :
    (s.record event).names = s.names.record event := by
  cases event with
  | entered rule => rfl
  | repeated rule => rfl
  | typeDefined name kind =>
      unfold record defineType names Names.record
      dsimp only
      rw [← keys_insert_eq_appendNew s.definedTypes name kind]
      split
      · next h =>
          rw [Table.keys_insert, if_pos (Table.contains_eq_true_iff.mp h)]
      · rfl
  | typeReferenced name kind =>
      unfold record referenceType names Names.record
      dsimp only
      split
      · rfl
      · rw [← keys_insert_eq_appendNew s.referencedTypes name]
  | directiveDefined name => rfl
  | directiveReferenced name =>
      unfold record referenceDirective names Names.record
      dsimp only
      split
      · rfl
      · rw [← keys_insert_eq_appendNew s.referencedDirectives name []]
        split
        · next h =>
            rw [Table.keys_insert, if_pos (Table.contains_eq_true_iff.mp h)]
        · rfl
  | directiveArgument name =>
      unfold record addArgument names Names.record
      dsimp only
      split
      · rfl
      · split
        · rfl
        · next directive _ _ arguments hget =>
            have hin : directive ∈ s.referencedDirectives.keys := by
              rw [← Table.contains_eq_true_iff, Table.contains, hget]
              rfl
            dsimp only
            rw [Table.keys_insert, if_pos hin]

/-- Later events are read after the earlier ones. -/
theorem ofTrace_append
    (xs : List Event)
    (t : Trace) :
    ofTrace (xs.reverse ++ t) = xs.foldl record (ofTrace t) := by
  unfold ofTrace
  rw [List.foldr_append, List.foldr_reverse]

/-- Arguments leave no trace behind a directive that needs no definition. -/
theorem foldl_record_of_isArgument
    {s : Symbols}
    (hs : s.lastDirective = none)
    {xs : List Event}
    (hxs : ∀ x ∈ xs, x.IsArgument) :
    xs.foldl record s = s := by
  induction xs with
  | nil => rfl
  | cons x xs ih =>
      obtain ⟨⟨name, rfl⟩, hrest⟩ := List.forall_mem_cons.mp hxs
      have hstep : s.record (.directiveArgument name) = s := by
        unfold record addArgument
        dsimp only
        rw [hs]
      rw [List.foldl_cons, hstep, ih hrest]

/-- Arguments change no names. -/
theorem names_foldl_record_of_isArgument
    (s : Symbols)
    {xs : List Event}
    (hxs : ∀ x ∈ xs, x.IsArgument) :
    (xs.foldl record s).names = s.names := by
  induction xs generalizing s with
  | nil => rfl
  | cons x xs ih =>
      obtain ⟨⟨name, rfl⟩, hrest⟩ := List.forall_mem_cons.mp hxs
      rw [List.foldl_cons, ih _ hrest, names_record]
      rfl

section Stubs

variable {s t : Symbols}

/-- The types of the stubs depend on the names only. -/
theorem typeNames_stubs_congr
    (h : s.names = t.names) :
    s.stubs.filterMap Stub.typeName? = t.stubs.filterMap Stub.typeName? := by
  obtain ⟨hdefined, hreferenced, -, -⟩ := Names.mk.inj h
  have hcontains : ∀ {x y : Table TypeKind}, x.keys = y.keys → x.contains = y.contains :=
    fun {x y} h => funext fun key => by rw [← contains_keys, h, contains_keys]
  have hempty : ∀ {x y : Table TypeKind}, x.keys = y.keys → x.isEmpty = y.isEmpty :=
    fun {x y} h => by
      have hkeys : ∀ z : Table TypeKind, z.isEmpty = z.keys.isEmpty := fun z => by
        rw [Table.isEmpty, Table.keys, List.isEmpty_map]
      rw [hkeys, h, hkeys]
  rw [typeNames_stubs, typeNames_stubs, typeNames_missingQuery, typeNames_missingQuery,
    hcontains hdefined, hcontains hreferenced, hempty hdefined, hempty hreferenced, hreferenced]

/-- The directives of the stubs depend on the names only. -/
theorem directiveNames_stubs_congr
    (h : s.names = t.names) :
    s.stubs.filterMap Stub.directiveName? = t.stubs.filterMap Stub.directiveName? := by
  obtain ⟨-, -, hdefined, hreferenced⟩ := Names.mk.inj h
  rw [directiveNames_stubs, directiveNames_stubs, hdefined, hreferenced]

end Stubs

end Symbols

namespace Trace

variable {σ : Type} {view : Symbols → σ}

/-- Two traces in which the same rules have been entered, and of which the symbols look the
same. -/
structure SameView (view : Symbols → σ) (s t : Trace) : Prop where
  entered : ∀ rule, s.contains (.entered rule) = t.contains (.entered rule)
  symbols : view (Symbols.ofTrace s) = view (Symbols.ofTrace t)

theorem sameView_refl
    (t : Trace) :
    SameView view t t :=
  ⟨fun _ => rfl, rfl⟩

/-- A view that each event respects is respected by traces. -/
theorem congruence_sameView
    (hview : ∀ {x y : Symbols} (event : Event), view x = view y →
      view (x.record event) = view (y.record event)) :
    Congruence (SameView view) where
  note event h := by
    refine ⟨fun rule => ?_, hview event h.symbols⟩
    rw [List.contains_cons, List.contains_cons, h.entered]
  entered h rule := h.entered rule

/-- It does not matter as what kind a type is referred to. -/
def IgnoresKind (R : Trace → Trace → Prop) (name : String) : Prop :=
  ∀ kind kind', Walk.Swaps R [.typeReferenced name kind] [.typeReferenced name kind']

/-- It does not matter which arguments are given to a directive. -/
def IgnoresArguments (R : Trace → Trace → Prop) (directive : String) : Prop :=
  ∀ event xs ys, event = .directiveDefined directive ∨ event = .directiveReferenced directive →
    (∀ x ∈ xs, Event.IsArgument x) → (∀ y ∈ ys, Event.IsArgument y) →
      Walk.Swaps R (event :: xs) (event :: ys)

/-- Events may be exchanged where the view does not see it. -/
theorem swaps_sameView
    {xs ys : List Event}
    (hxs : ∀ rule, Event.entered rule ∉ xs)
    (hys : ∀ rule, Event.entered rule ∉ ys)
    (h : ∀ x y : Symbols, view x = view y →
      view (xs.foldl Symbols.record x) = view (ys.foldl Symbols.record y)) :
    Walk.Swaps (SameView view) xs ys := by
  intro s t hst
  have hentered : ∀ {zs : List Event} {t : Trace} {rule}, Event.entered rule ∉ zs →
      (zs.reverse ++ t).contains (.entered rule) = t.contains (.entered rule) := by
    intro zs t rule hzs
    rw [Bool.eq_iff_iff, List.contains_iff_mem, List.contains_iff_mem, List.mem_append,
      List.mem_reverse, or_iff_right hzs]
  refine ⟨fun rule => ?_, ?_⟩
  · rw [hentered (hxs rule), hentered (hys rule), hst.entered]
  · rw [Symbols.ofTrace_append, Symbols.ofTrace_append]
    exact h _ _ hst.symbols

theorem ignoresKind_sameView
    {name : String}
    (h : ∀ (x y : Symbols) kind kind', view x = view y →
      view (x.record (.typeReferenced name kind)) = view (y.record (.typeReferenced name kind'))) :
    IgnoresKind (SameView view) name := fun kind kind' =>
  swaps_sameView (by simp) (by simp) fun x y hxy => h x y kind kind' hxy

theorem ignoresArguments_sameView
    {directive : String}
    (h : ∀ (x y : Symbols) (event : Event) (xs ys : List Event),
      event = .directiveDefined directive ∨ event = .directiveReferenced directive →
      (∀ x ∈ xs, Event.IsArgument x) → (∀ y ∈ ys, Event.IsArgument y) → view x = view y →
        view (xs.foldl Symbols.record (x.record event)) =
          view (ys.foldl Symbols.record (y.record event))) :
    IgnoresArguments (SameView view) directive := by
  have hnone : ∀ {event : Event} {xs : List Event} (rule : String),
      event = .directiveDefined directive ∨ event = .directiveReferenced directive →
      (∀ x ∈ xs, Event.IsArgument x) → Event.entered rule ∉ event :: xs := by
    rintro event xs rule hevent hxs hmem
    rcases List.mem_cons.mp hmem with rfl | hmem
    · rcases hevent with h | h <;> cases h
    · obtain ⟨name, h⟩ := hxs _ hmem
      cases h
  intro event xs ys hevent hxs hys
  exact swaps_sameView (fun rule => hnone rule hevent hxs) (fun rule => hnone rule hevent hys)
    fun x y hxy => h x y event xs ys hevent hxs hys hxy

section Names

theorem congruence_names : Congruence (SameView Symbols.names) :=
  congruence_sameView fun event h => by rw [Symbols.names_record, Symbols.names_record, h]

theorem ignoresKind_names
    (name : String) :
    IgnoresKind (SameView Symbols.names) name :=
  ignoresKind_sameView fun x y kind kind' h => by
    rw [Symbols.names_record, Symbols.names_record, h]
    rfl

theorem ignoresArguments_names
    (directive : String) :
    IgnoresArguments (SameView Symbols.names) directive :=
  ignoresArguments_sameView fun x y event xs ys _ hxs hys h => by
    rw [Symbols.names_foldl_record_of_isArgument _ hxs,
      Symbols.names_foldl_record_of_isArgument _ hys, Symbols.names_record,
      Symbols.names_record, h]

end Names

section Everything

theorem congruence_id : Congruence (SameView id) :=
  congruence_sameView fun {x y} event (h : x = y) => congrArg (fun s => id (s.record event)) h

/-- Nothing is kept about the kind of a built-in scalar. -/
theorem ignoresKind_of_builtIn
    {name : String}
    (hname : name ∈ builtInScalars) :
    IgnoresKind (SameView id) name :=
  ignoresKind_sameView fun x y kind kind' h => by
    have hsame : ∀ (s : Symbols) kind, s.record (.typeReferenced name kind) = s :=
      fun s kind => if_pos (List.contains_iff_mem.mpr hname)
    rw [hsame, hsame, h]

/-- Nothing is kept about the arguments of a built-in directive. -/
theorem ignoresArguments_of_builtIn
    {directive : String}
    (hdirective : directive ∈ builtInDirectives) :
    IgnoresArguments (SameView id) directive :=
  ignoresArguments_sameView fun x y event xs ys hevent hxs hys h => by
    have hlast : ∀ s : Symbols, (s.record event).lastDirective = none := by
      intro s
      rcases hevent with rfl | rfl
      · rfl
      · show (s.referenceDirective directive).lastDirective = none
        unfold Symbols.referenceDirective
        rw [if_pos (List.contains_iff_mem.mpr hdirective)]
    rw [Symbols.foldl_record_of_isArgument (hlast x) hxs,
      Symbols.foldl_record_of_isArgument (hlast y) hys, show x = y from h]

end Everything

end Trace

end SchemaGrammar.Render
