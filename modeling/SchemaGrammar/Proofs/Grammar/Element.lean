import SchemaGrammar.Grammar.Element
import Mathlib.Data.List.Basic

/-!
# References of elements

The names that an element refers to are the names that its parts refer to, in order, and so it
is with all of its symbols, the terminals and the references.  A rebuilding that keeps the
symbols of every node keeps those of the whole.

**Results.**
* `Element.inductionOn`: induction over elements, with the claim for every part of a group.
* `Element.references_sequence` and its companions: the references of a node by its parts.
* `Element.symbols_rebuild`, `Element.references_rebuild_subset`: the symbols and the references
  of a rebuilt element.
* `Element.Congruence.rebuild`: a rebuilding by steps that keep a meaning keeps the meaning of
  the whole.
-/

namespace SchemaGrammar.Element

/-- Induction over elements: a group may use the claim for all of its parts. -/
@[elab_as_elim]
theorem inductionOn
    {motive : Element → Prop}
    (e : Element)
    (terminal : ∀ name pattern, motive (.terminal name pattern))
    (nonTerminal : ∀ name, motive (.nonTerminal name))
    (sequence : ∀ es, (∀ e ∈ es, motive e) → motive (.sequence es))
    (oneOf : ∀ es, (∀ e ∈ es, motive e) → motive (.oneOf es))
    (optional : ∀ e, motive e → motive (.optional e))
    (list : ∀ e, motive e → motive (.list e)) :
    motive e :=
  @Element.rec motive (fun es => ∀ e ∈ es, motive e)
    terminal nonTerminal sequence oneOf optional list
    (List.forall_mem_nil motive)
    (fun _ _ he hes => List.forall_mem_cons.mpr ⟨he, hes⟩)
    e

section Parts

/-- The walks of several elements, one behind the other. -/
theorem walkList_eq_flatMap
    (es : List Element) :
    walkList es = es.flatMap walk := by
  induction es with
  | nil => rfl
  | cons e es ih => rw [walkList, List.flatMap_cons, ih]

/-- Below a sequence are the sequence itself and what is below its parts. -/
theorem mem_walk_sequence_iff
    {d : Element}
    {es : List Element} :
    d ∈ (sequence es).walk ↔ d = .sequence es ∨ ∃ e ∈ es, d ∈ e.walk := by
  rw [walk, walkList_eq_flatMap, List.mem_cons, List.mem_flatMap]

theorem mem_walk_oneOf_iff
    {d : Element}
    {es : List Element} :
    d ∈ (oneOf es).walk ↔ d = .oneOf es ∨ ∃ e ∈ es, d ∈ e.walk := by
  rw [walk, walkList_eq_flatMap, List.mem_cons, List.mem_flatMap]

theorem mem_walk_self
    (e : Element) :
    e ∈ e.walk := by
  cases e <;> exact List.mem_cons_self

/-- What is below a part of a sequence is below the sequence. -/
theorem walk_subset_sequence
    {e : Element}
    {es : List Element}
    (he : e ∈ es) :
    e.walk ⊆ (sequence es).walk :=
  fun _ hd => mem_walk_sequence_iff.mpr (.inr ⟨e, he, hd⟩)

/-- The walk of an alternative is part of that of the choice. -/
theorem walk_subset_oneOf
    {e : Element}
    {es : List Element}
    (he : e ∈ es) :
    e.walk ⊆ (oneOf es).walk :=
  fun _ hd => mem_walk_oneOf_iff.mpr (.inr ⟨e, he, hd⟩)

theorem filterMap_nonTerminal?_walkList
    (es : List Element) :
    (walkList es).filterMap nonTerminal? = es.flatMap references := by
  rw [walkList_eq_flatMap, List.filterMap_flatMap]
  rfl

@[simp] theorem references_terminal
    (name : String)
    (pattern : Option Pattern) :
    (terminal name pattern).references = [] := rfl

@[simp] theorem references_token
    (text : String) :
    (token text).references = [] := rfl

@[simp] theorem references_nonTerminal
    (name : String) :
    (nonTerminal name).references = [name] := rfl

@[simp] theorem references_sequence
    (es : List Element) :
    (sequence es).references = es.flatMap references :=
  filterMap_nonTerminal?_walkList es

@[simp] theorem references_oneOf
    (es : List Element) :
    (oneOf es).references = es.flatMap references :=
  filterMap_nonTerminal?_walkList es

@[simp] theorem references_optional
    (e : Element) :
    (optional e).references = e.references := rfl

@[simp] theorem references_list
    (e : Element) :
    (list e).references = e.references := rfl

end Parts

section Symbols

/-- Where a sequence itself is not among the parts that are asked for, they are found in its
elements. -/
theorem filter_walk_sequence
    {p : Element → Bool}
    {es : List Element}
    (hp : p (.sequence es) = false) :
    (sequence es).walk.filter p = es.flatMap fun e => e.walk.filter p := by
  rw [walk, List.filter_cons_of_neg (ne_true_of_eq_false hp), walkList_eq_flatMap,
    List.filter_flatMap]

/-- Where the choice itself does not count, its alternatives do. -/
theorem filter_walk_oneOf
    {p : Element → Bool}
    {es : List Element}
    (hp : p (.oneOf es) = false) :
    (oneOf es).walk.filter p = es.flatMap fun e => e.walk.filter p := by
  rw [walk, List.filter_cons_of_neg (ne_true_of_eq_false hp), walkList_eq_flatMap,
    List.filter_flatMap]

/-- The terminals and references of the tree, in pre-order. -/
def symbols (e : Element) : List Element :=
  e.walk.filter fun d => d.kind = .terminal ∨ d.kind = .nonTerminal

theorem symbols_sequence
    (es : List Element) :
    (sequence es).symbols = es.flatMap symbols :=
  filter_walk_sequence rfl

theorem symbols_oneOf
    (es : List Element) :
    (oneOf es).symbols = es.flatMap symbols :=
  filter_walk_oneOf rfl

/-- The references are found among the symbols. -/
theorem filterMap_nonTerminal?_symbols
    (e : Element) :
    e.symbols.filterMap nonTerminal? = e.references := by
  rw [symbols, List.filterMap_filter, references]
  refine List.filterMap_congr fun d _ => ?_
  cases d <;> rfl

end Symbols

section Congruence

variable {R : Element → Element → Prop}

/-- A relation that may be used inside groups, optional parts and repetitions. -/
structure Congruence (R : Element → Element → Prop) : Prop where
  trans : ∀ {d e f : Element}, R d e → R e f → R d f
  sequence : ∀ {f : Element → Element} {es : List Element},
    (∀ e ∈ es, R (f e) e) → R (.sequence (es.map f)) (.sequence es)
  oneOf : ∀ {f : Element → Element} {es : List Element},
    (∀ e ∈ es, R (f e) e) → R (.oneOf (es.map f)) (.oneOf es)
  optional : ∀ {d e : Element}, R d e → R (.optional d) (.optional e)
  list : ∀ {d e : Element}, R d e → R (.list d) (.list e)

/-- If every node is related to what it becomes, so is the whole. -/
theorem Congruence.rebuild
    (hR : Congruence R)
    {f : Element → Element}
    (hf : ∀ e, R (f e) e)
    (e : Element) :
    R (e.rebuild f) e := by
  induction e using inductionOn with
  | terminal name pattern => exact hf _
  | nonTerminal name => exact hf _
  | sequence es ih =>
      rw [rebuild_sequence]
      exact hR.trans (hf _) (hR.sequence ih)
  | oneOf es ih =>
      rw [rebuild_oneOf]
      exact hR.trans (hf _) (hR.oneOf ih)
  | optional e ih => exact hR.trans (hf _) (hR.optional ih)
  | list e ih => exact hR.trans (hf _) (hR.list ih)

end Congruence

section Rebuilding

variable {f : Element → Element}

/-- Elements with the same symbols may be exchanged inside others. -/
theorem congruence_symbols : Congruence fun d e => d.symbols = e.symbols where
  trans hde hef := hde.trans hef
  sequence h := by
    rw [symbols_sequence, symbols_sequence, List.flatMap_map]
    exact List.flatMap_congr h
  oneOf h := by
    rw [symbols_oneOf, symbols_oneOf, List.flatMap_map]
    exact List.flatMap_congr h
  optional h := h
  list h := h

/-- If no node gets another list of symbols, neither does the whole. -/
theorem symbols_rebuild
    (hf : ∀ e, (f e).symbols = e.symbols)
    (e : Element) :
    (rebuild f e).symbols = e.symbols :=
  congruence_symbols.rebuild hf e

theorem references_map_subset
    {es : List Element}
    (h : ∀ e ∈ es, (f e).references ⊆ e.references) :
    (es.map f).flatMap references ⊆ es.flatMap references := by
  intro name hname
  rw [List.flatMap_map, List.mem_flatMap] at hname
  obtain ⟨e, he, hname⟩ := hname
  exact List.mem_flatMap.mpr ⟨e, he, h e he hname⟩

/-- Dropping references inside an element drops them from the whole. -/
theorem congruence_references_subset : Congruence fun d e => d.references ⊆ e.references where
  trans hde hef := List.Subset.trans hde hef
  sequence h := by
    rw [references_sequence, references_sequence]
    exact references_map_subset h
  oneOf h := by
    rw [references_oneOf, references_oneOf]
    exact references_map_subset h
  optional h := h
  list h := h

/-- If no node gets a new reference, neither does the whole. -/
theorem references_rebuild_subset
    (hf : ∀ e, (f e).references ⊆ e.references)
    (e : Element) :
    (rebuild f e).references ⊆ e.references :=
  congruence_references_subset.rebuild hf e

end Rebuilding

end SchemaGrammar.Element
