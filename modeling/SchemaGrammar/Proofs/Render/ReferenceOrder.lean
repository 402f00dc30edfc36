import SchemaGrammar.Proofs.Render.StubKinds

/-!
# The order of references

References to types come in one by one, and with each of them the kind kept for its type may
change: a type can be an object first, then a scalar, and an interface in the end.  The kinds
met on the way depend on the order of the references; the kind that a type ends with does not.

**Results.**
* `Symbols.ofReferences` are the symbols after references to types and nothing else.
* `Symbols.get?_ofReferences_of_perm`: whatever the order of the references, each type ends with
  the kind that fits all of them.
-/

namespace SchemaGrammar.Render

/-- The fitting kind does not depend on the order of the events. -/
theorem Trace.fittingKind?_perm
    {t u : Trace}
    (hperm : t.Perm u)
    (name : String) :
    t.fittingKind? name = u.fittingKind? name := by
  unfold fittingKind?
  simp only [hperm.mem_iff]

namespace Symbols

/-- The symbols after references to types, the first reference first: each is the name of a type
and the kind that the type is taken for. -/
def ofReferences (references : List (String × TypeKind)) : Symbols :=
  references.foldl (fun s reference => s.referenceType reference.1 reference.2) {}

/-- References as events, the latest first. -/
def traceOfReferences (references : List (String × TypeKind)) : Trace :=
  (references.map fun reference => .typeReferenced reference.1 reference.2).reverse

section References

variable {references : List (String × TypeKind)}

/-- References are recorded like the events of a walk. -/
theorem ofReferences_eq_ofTrace
    (references : List (String × TypeKind)) :
    ofReferences references = ofTrace (traceOfReferences references) := by
  rw [ofTrace, traceOfReferences, List.foldr_reverse, List.foldl_map]
  rfl

theorem mem_traceOfReferences_iff
    {name : String}
    {kind : TypeKind} :
    .typeReferenced name kind ∈ traceOfReferences references ↔ (name, kind) ∈ references := by
  simp [traceOfReferences]

/-- References in another order are events in another order. -/
theorem perm_traceOfReferences
    {others : List (String × TypeKind)}
    (hperm : others.Perm references) :
    (traceOfReferences others).Perm (traceOfReferences references) :=
  (List.reverse_perm _).trans ((hperm.map _).trans (List.reverse_perm _).symm)

/-- A scalar of the language itself is not kept, whatever it is taken for. -/
theorem get?_referencedTypes_ofTrace_of_builtIn
    {name : String}
    (hname : name ∈ builtInScalars)
    (t : Trace) :
    (ofTrace t).referencedTypes.get? name = none := by
  have hnot : ¬ (ofTrace t).referencedTypes.contains name = true :=
    fun h => (((records_ofTrace t).referencedTypes name).mp h).2 hname
  simpa [Table.contains] using hnot

/-- Every type that is kept ends with the kind that fits all references to it. -/
theorem get?_ofReferences
    (hkinds : ∀ reference ∈ references,
      reference.2 = .object ∨ reference.2 = .interface ∨ reference.2 = .input)
    (name : String) :
    (ofReferences references).referencedTypes.get? name =
      if name ∈ builtInScalars then none
      else (traceOfReferences references).fittingKind? name := by
  rw [ofReferences_eq_ofTrace]
  split
  · next hname => exact get?_referencedTypes_ofTrace_of_builtIn hname _
  · next hname =>
      exact get?_referencedTypes_ofTrace hname fun kind hmem =>
        hkinds _ (mem_traceOfReferences_iff.mp hmem)

/-- **Order of references.**  However references to objects, interfaces and inputs are ordered,
each type ends with the same kind, the one that fits all references to it; a scalar of the
language itself has none. -/
theorem get?_ofReferences_of_perm
    {others : List (String × TypeKind)}
    (hperm : others.Perm references)
    (hkinds : ∀ reference ∈ references,
      reference.2 = .object ∨ reference.2 = .interface ∨ reference.2 = .input)
    (name : String) :
    (ofReferences others).referencedTypes.get? name =
        (ofReferences references).referencedTypes.get? name ∧
      (ofReferences references).referencedTypes.get? name =
        if name ∈ builtInScalars then none
        else (traceOfReferences references).fittingKind? name := by
  have hothers := get?_ofReferences (fun reference hmem => hkinds reference (hperm.subset hmem)) name
  rw [Trace.fittingKind?_perm (perm_traceOfReferences hperm)] at hothers
  have hreferences := get?_ofReferences hkinds name
  exact ⟨hothers.trans hreferences.symm, hreferences⟩

/-- Posts are taken for objects and for inputs, nodes for objects and for interfaces. -/
def mixedReferences : List (String × TypeKind) :=
  [("Post", .object), ("Node", .object), ("ID", .input), ("Post", .input), ("Node", .interface),
    ("Post", .object), ("Filter", .input)]

theorem get?_ofReferences_of_perm_mixed :
    mixedReferences.reverse.Perm mixedReferences ∧
      (∀ reference ∈ mixedReferences,
        reference.2 = .object ∨ reference.2 = .interface ∨ reference.2 = .input) ∧
      (ofReferences mixedReferences.reverse).referencedTypes.get? "Post" = some .scalar ∧
      (ofReferences mixedReferences.reverse).referencedTypes.get? "Node" = some .interface ∧
      (ofReferences mixedReferences.reverse).referencedTypes.get? "Filter" = some .input ∧
      (ofReferences mixedReferences.reverse).referencedTypes.get? "ID" = none := by
  have hperm : mixedReferences.reverse.Perm mixedReferences := List.reverse_perm _
  have hkinds : ∀ reference ∈ mixedReferences,
      reference.2 = .object ∨ reference.2 = .interface ∨ reference.2 = .input := by decide
  have hkind (name : String) :=
    (get?_ofReferences_of_perm hperm hkinds name).1.trans
      (get?_ofReferences_of_perm hperm hkinds name).2
  refine ⟨hperm, hkinds, ?_, ?_, ?_, ?_⟩
  · rw [hkind]; decide
  · rw [hkind]; decide
  · rw [hkind]; decide
  · rw [hkind]; decide

end References

end Symbols

end SchemaGrammar.Render
