import SchemaGrammar.Proofs.Transform.References
import SchemaGrammar.Proofs.Transform.Simple

/-!
# The normal form of a definition

One pass of simplification leaves nothing to be simplified at any depth.  It drops groups and
nothing else: the terminals and references stay in their order, and every pass that changes a
tree makes it smaller.

**Results.**
* `Element.Simple.of_mem_walk`: the parts of a simple element are simple.
* `Element.Shrinks`: to stay the same or to lose nodes, which may be used inside a tree.
* `Element.shrinks_simplify`: simplification loses nodes wherever it changes something.
* `Element.simplify_normalForm`: the normal form, reached in one pass.
-/

namespace SchemaGrammar.Element

section Depth

variable {o : SimplifyOptions} {d e : Element}

/-- The parts of a simple element are simple. -/
theorem Simple.of_mem_walk
    (h : e.Simple o)
    (hd : d ∈ e.walk) :
    d.Simple o := by
  induction h with
  | terminal name pattern =>
      obtain rfl := List.mem_singleton.mp hd
      exact .terminal name pattern
  | nonTerminal name =>
      obtain rfl := List.mem_singleton.mp hd
      exact .nonTerminal name
  | sequence hes hflat hlength ih =>
      rcases mem_walk_sequence_iff.mp hd with rfl | ⟨e, he, hd⟩
      · exact .sequence hes hflat hlength
      · exact ih e he hd
  | oneOf hes hlength ih =>
      rcases mem_walk_oneOf_iff.mp hd with rfl | ⟨e, he, hd⟩
      · exact .oneOf hes hlength
      · exact ih e he hd
  | optional h ih =>
      rcases List.mem_cons.mp hd with rfl | hd
      · exact .optional h
      · exact ih hd
  | list h ih =>
      rcases List.mem_cons.mp hd with rfl | hd
      · exact .list h
      · exact ih hd

end Depth

section Size

/-- The number of nodes of several trees. -/
def totalSize (es : List Element) : Nat := (walkList es).length

@[simp] theorem totalSize_singleton
    (e : Element) :
    totalSize [e] = e.size := by
  simp [totalSize, walkList, size]

@[simp] theorem totalSize_append
    (es ds : List Element) :
    totalSize (es ++ ds) = totalSize es + totalSize ds := by
  simp only [totalSize, walkList_eq_flatMap, List.flatMap_append, List.length_append]

theorem size_sequence
    (es : List Element) :
    (sequence es).size = totalSize es + 1 := rfl

theorem size_oneOf
    (es : List Element) :
    (oneOf es).size = totalSize es + 1 := rfl

/-- The same element, or one with fewer nodes. -/
def Shrinks (d e : Element) : Prop := d = e ∨ d.size < e.size

/-- What shrinks twice has shrunk. -/
theorem Shrinks.trans
    {d e f : Element}
    (hde : d.Shrinks e)
    (hef : e.Shrinks f) :
    d.Shrinks f := by
  rcases hde with rfl | hde
  · exact hef
  · rcases hef with rfl | hef
    · exact .inr hde
    · exact .inr (Nat.lt_trans hde hef)

/-- Elements that are replaced one by one, each by itself or by smaller ones, stay the same or
become smaller together. -/
theorem flatMap_eq_or_totalSize_lt
    {f : Element → List Element}
    {es : List Element}
    (h : ∀ e ∈ es, f e = [e] ∨ totalSize (f e) < e.size) :
    es.flatMap f = es ∨ totalSize (es.flatMap f) < totalSize es := by
  induction es with
  | nil => exact .inl rfl
  | cons e es ih =>
      obtain ⟨he, hes⟩ := List.forall_mem_cons.mp h
      rw [List.flatMap_cons, ← List.singleton_append, totalSize_append, totalSize_append,
        totalSize_singleton]
      rcases he with he | he <;> rcases ih hes with hes | hes
      · left
        rw [he, hes]
      · right
        rw [he, totalSize_singleton]
        omega
      · right
        rw [hes]
        omega
      · right
        omega

/-- If every element shrinks, all stay or the total gets smaller. -/
theorem map_eq_or_totalSize_lt
    {f : Element → Element}
    {es : List Element}
    (h : ∀ e ∈ es, (f e).Shrinks e) :
    es.map f = es ∨ totalSize (es.map f) < totalSize es := by
  rw [List.map_eq_flatMap]
  refine flatMap_eq_or_totalSize_lt fun e he => (h e he).imp (fun heq => ?_) fun hlt => ?_
  · rw [heq]
  · rwa [totalSize_singleton]

theorem shrinks_sequence
    {ds es : List Element}
    (h : ds = es ∨ totalSize ds < totalSize es) :
    (sequence ds).Shrinks (.sequence es) := by
  refine h.imp (congrArg Element.sequence) fun hlt => ?_
  rw [size_sequence, size_sequence]
  omega

/-- Losing nodes may be used inside groups, optional parts and repetitions. -/
theorem congruence_shrinks : Congruence Shrinks where
  trans := Shrinks.trans
  sequence h := shrinks_sequence (map_eq_or_totalSize_lt h)
  oneOf h := by
    refine (map_eq_or_totalSize_lt h).imp (congrArg Element.oneOf) fun hlt => ?_
    rw [size_oneOf, size_oneOf]
    omega
  optional h := h.imp (congrArg Element.optional) (Nat.add_lt_add_right · 1)
  list h := h.imp (congrArg Element.list) (Nat.add_lt_add_right · 1)

end Size

section Pass

variable (o : SimplifyOptions)

/-- A sequence that is spliced loses its node. -/
theorem spliced_eq_or_totalSize_lt
    (e : Element) :
    e.spliced = [e] ∨ totalSize e.spliced < e.size := by
  cases e with
  | sequence es =>
      right
      rw [spliced, size_sequence]
      omega
  | _ => exact .inl rfl

/-- A group that is replaced by its only element loses its node. -/
theorem shrinks_collapse
    {group : List Element → Element}
    (hgroup : ∀ es, (group es).size = totalSize es + 1)
    (es : List Element) :
    (collapse o group es).Shrinks (group es) := by
  unfold collapse
  split
  · next e =>
      split
      · right
        rw [hgroup, totalSize_singleton]
        omega
      · exact .inl rfl
  · exact .inl rfl

/-- One step of simplification shrinks an element, if it changes it. -/
theorem shrinks_simplifyNode
    (e : Element) :
    (simplifyNode o e).Shrinks e := by
  cases e with
  | sequence es =>
      refine (shrinks_collapse o size_sequence _).trans (shrinks_sequence ?_)
      split
      · exact flatMap_eq_or_totalSize_lt fun e _ => spliced_eq_or_totalSize_lt e
      · exact .inl rfl
  | oneOf es => exact shrinks_collapse o size_oneOf es
  | _ => exact .inl rfl

/-- Simplification loses nodes wherever it changes something. -/
theorem shrinks_simplify
    (e : Element) :
    (e.simplify o).Shrinks e :=
  congruence_shrinks.rebuild (shrinks_simplifyNode o) e

/-- **Normal form.**  After one pass no sequence stands directly in a sequence and no group has
a single element, at any depth and as far as the options ask for it; a second pass changes
nothing; the terminals and references are the same in the same order; and there are fewer nodes
than before unless the element is the same. -/
theorem simplify_normalForm
    (e : Element) :
    (o.flattenSequences = true →
      ∀ es, .sequence es ∈ (e.simplify o).walk → ∀ d ∈ es, d.kind ≠ .sequence) ∧
    (o.collapseSingletons = true →
      ∀ es, .sequence es ∈ (e.simplify o).walk ∨ .oneOf es ∈ (e.simplify o).walk →
        es.length ≠ 1) ∧
    (e.simplify o).simplify o = e.simplify o ∧
    (e.simplify o).symbols = e.symbols ∧
    (e.simplify o).size ≤ e.size ∧
    ((e.simplify o).size = e.size → e.simplify o = e) := by
  have hsimple : (e.simplify o).Simple o := simple_simplify o e
  have hshrinks : (e.simplify o).Shrinks e := shrinks_simplify o e
  refine ⟨fun hflat es hes => ?_, fun hcollapse es hes => ?_, hsimple.simplify_eq,
    symbols_simplify o e, ?_, fun hsize => ?_⟩
  · cases hsimple.of_mem_walk hes with
    | sequence _ hnested _ => exact hnested hflat
  · rcases hes with hes | hes
    · cases hsimple.of_mem_walk hes with
      | sequence _ _ hlength => exact hlength hcollapse
    · cases hsimple.of_mem_walk hes with
      | oneOf _ hlength => exact hlength hcollapse
  · rcases hshrinks with heq | hlt
    · exact Nat.le_of_eq (congrArg size heq)
    · exact Nat.le_of_lt hlt
  · exact hshrinks.resolve_right (Nat.not_lt.mpr (Nat.le_of_eq hsize.symm))

/-- Where only flattening is asked for, the sequence that is left may have a single element. -/
example :
    (sequence [.sequence [.token "x"], .sequence []]).simplify ⟨true, false⟩ =
      .sequence [.token "x"] := by
  decide

end Pass

end SchemaGrammar.Element
