import SchemaGrammar.Proofs.Collection.Distinct
import SchemaGrammar.Proofs.Collection.Except
import SchemaGrammar.Proofs.Grammar.Element
import SchemaGrammar.Transform.Field
import SchemaGrammar.Transform.Normalize
import SchemaGrammar.Transform.Simplify

/-!
# References of transformed definitions

No transformation of a definition makes up a reference: simplification keeps the terminals and
the references with their order, dropping repeated alternatives loses some, and a field, which
is made of terminals alone, brings none.

**Results.**
* `Element.symbols_simplify`, `Element.references_simplify`: simplification keeps the symbols,
  and so the references.
* `Element.references_dedup_subset`: a definition without repeated alternatives has no new one.
* `FieldOptions.references_element`: a field has no references.
* `Element.references_withContainer_subset`: neither has a definition with a new field list.
-/

namespace SchemaGrammar

namespace Element

section Simplify

/-- Splicing keeps the symbols. -/
theorem symbols_spliced
    (e : Element) :
    e.spliced.flatMap symbols = e.symbols := by
  cases e with
  | sequence es => rw [spliced, symbols_sequence]
  | _ => exact List.flatMap_singleton _ _

theorem symbols_collapse
    (o : SimplifyOptions)
    {group : List Element → Element}
    (hgroup : ∀ es, (group es).symbols = es.flatMap symbols)
    (es : List Element) :
    (collapse o group es).symbols = es.flatMap symbols := by
  unfold collapse
  split
  · next e =>
      split
      · exact (List.flatMap_singleton _ _).symm
      · exact hgroup [e]
  · exact hgroup es

theorem symbols_simplifyNode
    (o : SimplifyOptions)
    (e : Element) :
    (simplifyNode o e).symbols = e.symbols := by
  cases e with
  | sequence es =>
      rw [simplifyNode, symbols_collapse o symbols_sequence, symbols_sequence]
      split
      · rw [List.flatMap_assoc]
        exact List.flatMap_congr fun e _ => symbols_spliced e
      · rfl
  | oneOf es => rw [simplifyNode, symbols_collapse o symbols_oneOf, symbols_oneOf]
  | _ => rfl

/-- Simplification keeps the terminals and references, in their order. -/
theorem symbols_simplify
    (o : SimplifyOptions)
    (e : Element) :
    (e.simplify o).symbols = e.symbols :=
  symbols_rebuild (symbols_simplifyNode o) e

/-- Simplification keeps the references. -/
theorem references_simplify
    (o : SimplifyOptions)
    (e : Element) :
    (e.simplify o).references = e.references := by
  rw [← filterMap_nonTerminal?_symbols, symbols_simplify, filterMap_nonTerminal?_symbols]

end Simplify

section Dedup

theorem mem_distinct
    {e : Element}
    {es : List Element} :
    e ∈ distinct es ↔ e ∈ es := by
  unfold distinct
  rw [Distinct.mem_foldl_appendIfNew]
  simp

theorem references_dedupNode_subset
    (e : Element) :
    (dedupNode e).references ⊆ e.references := by
  cases e with
  | oneOf es =>
      rw [dedupNode, references_oneOf, references_oneOf]
      intro name hname
      obtain ⟨e, he, hname⟩ := List.mem_flatMap.mp hname
      exact List.mem_flatMap.mpr ⟨e, mem_distinct.mp he, hname⟩
  | _ => exact List.Subset.refl _

/-- Dropping alternatives adds no reference. -/
theorem references_dedup_subset
    (e : Element) :
    e.dedup.references ⊆ e.references :=
  references_rebuild_subset references_dedupNode_subset e

end Dedup

section Containers

variable {replacement : Element}

/-- Elements that have the references of other elements and perhaps those of a replacement. -/
def NothingNew (replacement : Element) (replaced parts : List Element) : Prop :=
  replaced.flatMap references ⊆ parts.flatMap references ++ replacement.references

theorem nothingNew_singleton
    {e replaced : Element}
    (h : replaced.references ⊆ e.references ++ replacement.references) :
    NothingNew replacement [replaced] [e] := by
  simpa [NothingNew] using h

theorem nothingNew_append
    {replaced parts replaced' parts' : List Element}
    (h : NothingNew replacement replaced parts)
    (h' : NothingNew replacement replaced' parts') :
    NothingNew replacement (replaced ++ replaced') (parts ++ parts') := by
  intro name hname
  rw [List.flatMap_append, List.mem_append] at hname
  rw [List.flatMap_append, List.append_assoc, List.mem_append, List.mem_append]
  rcases hname with hname | hname
  · rcases List.mem_append.mp (h hname) with hname | hname
    · exact .inl hname
    · exact .inr (.inr hname)
  · exact .inr (List.mem_append.mp (h' hname))

theorem nothingNew_refl
    (parts : List Element) :
    NothingNew replacement parts parts :=
  List.subset_append_left _ _

theorem nothingNew_replacement
    (parts : List Element) :
    NothingNew replacement [replacement] parts := by
  simp [NothingNew]

/-- The claim about one element, for the elements of a group. -/
abbrev NothingNewIn (replacement e : Element) : Prop :=
  ∀ replaced, replaceContainer? replacement e = some replaced →
    replaced.references ⊆ e.references ++ replacement.references

theorem nothingNew_replaceInOptions?
    {es replaced : List Element}
    (hes : ∀ e ∈ es, NothingNewIn replacement e)
    (h : replaceInOptions? replacement es = some replaced) :
    NothingNew replacement replaced es := by
  induction es generalizing replaced with
  | nil => cases h
  | cons e es ih =>
      rw [replaceInOptions?] at h
      obtain ⟨he, hes⟩ := List.forall_mem_cons.mp hes
      split at h
      · next e' he' =>
          cases h
          exact nothingNew_append (nothingNew_singleton (he e' he')) (nothingNew_refl es)
      · obtain ⟨rest, hrest, rfl⟩ := Option.map_eq_some_iff.mp h
        exact nothingNew_append (nothingNew_refl [e]) (ih hes hrest)

/-- A replacement in a sequence adds its own references only. -/
theorem nothingNew_replaceInSequence?
    {es replaced : List Element}
    (hes : ∀ e ∈ es, NothingNewIn replacement e)
    (h : replaceInSequence? replacement es = some replaced) :
    NothingNew replacement replaced es := by
  induction es generalizing replaced with
  | nil => cases h
  | cons e es ih =>
      rw [replaceInSequence?] at h
      obtain ⟨he, hes⟩ := List.forall_mem_cons.mp hes
      split at h
      · cases h
        have hsplit : e :: es = (e :: es.take 2) ++ es.drop 2 := by
          rw [List.cons_append, List.take_append_drop]
        rw [hsplit]
        exact nothingNew_append (nothingNew_replacement _) (nothingNew_refl _)
      · split at h
        · next e' he' =>
            cases h
            exact nothingNew_append (nothingNew_singleton (he e' he')) (nothingNew_refl es)
        · obtain ⟨rest, hrest, rfl⟩ := Option.map_eq_some_iff.mp h
          exact nothingNew_append (nothingNew_refl [e]) (ih hes hrest)

/-- A replaced container adds its own references only. -/
theorem references_replaceContainer?_subset
    (e : Element) :
    NothingNewIn replacement e := by
  induction e using inductionOn with
  | terminal name pattern => rintro _ ⟨⟩
  | nonTerminal name =>
      intro replaced h
      rw [replaceContainer?] at h
      split at h
      · cases h
        exact List.subset_append_right _ _
      · cases h
  | sequence es ih =>
      intro replaced h
      rw [replaceContainer?] at h
      split at h
      · cases h
        exact List.subset_append_right _ _
      · obtain ⟨parts, hparts, rfl⟩ := Option.map_eq_some_iff.mp h
        rw [references_sequence, references_sequence]
        exact nothingNew_replaceInSequence? ih hparts
  | oneOf es ih =>
      intro replaced h
      obtain ⟨parts, hparts, rfl⟩ := Option.map_eq_some_iff.mp h
      rw [references_oneOf, references_oneOf]
      exact nothingNew_replaceInOptions? ih hparts
  | optional e ih =>
      intro replaced h
      obtain ⟨part, hpart, rfl⟩ := Option.map_eq_some_iff.mp h
      exact ih part hpart
  | list e ih =>
      intro replaced h
      obtain ⟨part, hpart, rfl⟩ := Option.map_eq_some_iff.mp h
      exact ih part hpart

theorem references_appended_subset
    (definition last : Element) :
    (definition.appended last).references ⊆ definition.references ++ last.references := by
  cases definition with
  | _ => simp [appended]

/-- A field list put into a definition brings no references but its own. -/
theorem references_withContainer_subset
    (definition : Element) :
    (definition.withContainer replacement).references ⊆
      definition.references ++ replacement.references := by
  unfold withContainer
  cases h : replaceContainer? replacement definition with
  | none => exact references_appended_subset definition replacement
  | some replaced => exact references_replaceContainer?_subset definition replaced h

@[simp] theorem references_container
    (field : Element) :
    (container field).references = field.references := by
  simp [container]

end Containers

end Element

namespace TypeRef

@[simp] theorem references_toElement
    (t : TypeRef) :
    t.toElement.references = [] := by
  induction t with
  | named name => rfl
  | list inner ih => simp [toElement, ih]
  | nonNull inner ih => simp [toElement, ih]

end TypeRef

namespace FieldOptions

section Field

variable {e : Element}

@[simp] theorem references_literal
    (name text : String) :
    (literal name text).references = [] := rfl

theorem references_nameElement
    {terminal name : String}
    (h : nameElement terminal name = .ok e) :
    e.references = [] := by
  unfold nameElement at h
  split at h
  · cases h
    rfl
  · cases h

theorem references_typeElement
    {source : String}
    (h : typeElement source = .ok e) :
    e.references = [] := by
  unfold typeElement at h
  split at h
  · cases h
    exact TypeRef.references_toElement _
  · cases h

theorem mem_of_mem_intersperse
    {separator : Element} :
    ∀ {items : List Element}, e ∈ items.intersperse separator → e = separator ∨ e ∈ items
  | [], h => nomatch h
  | [_], h => .inr h
  | x :: y :: rest, h => by
      rw [List.intersperse_cons_cons, List.mem_cons, List.mem_cons] at h
      rcases h with rfl | rfl | h
      · exact .inr List.mem_cons_self
      · exact .inl rfl
      · exact (mem_of_mem_intersperse h).imp_right (List.mem_cons_of_mem x)

/-- Separators that contribute nothing may be left out. -/
theorem flatMap_intersperse
    {α β : Type}
    {f : α → List β}
    {separator : α}
    (h : f separator = []) :
    ∀ items : List α, (items.intersperse separator).flatMap f = items.flatMap f
  | [] => rfl
  | [_] => rfl
  | x :: y :: rest => by
      rw [List.intersperse_cons_cons, List.flatMap_cons, List.flatMap_cons, h,
        flatMap_intersperse h (y :: rest)]
      rfl

theorem references_parenthesized
    {items : List Element}
    (h : ∀ e ∈ items, e.references = []) :
    (parenthesized items).references = [] := by
  unfold parenthesized
  rw [Element.references_sequence, List.flatMap_eq_nil_iff]
  intro e he
  rw [List.mem_append, List.mem_cons, List.mem_singleton] at he
  rcases he with (rfl | he) | rfl
  · rfl
  · rcases mem_of_mem_intersperse he with rfl | he
    · rfl
    · exact h e he
  · rfl

theorem references_argumentElement
    {a : FieldArgument}
    (h : argumentElement a = .ok e) :
    e.references = [] := by
  obtain ⟨name, hname, h⟩ := Except.bind_eq_ok_iff.mp h
  obtain ⟨type, htype, h⟩ := Except.bind_eq_ok_iff.mp h
  cases h
  have hname := references_nameElement hname
  have htype := references_typeElement htype
  cases a.default <;> simp [hname, htype, valueElement]

theorem references_directiveArgumentElement
    {a : DirectiveArgument}
    (h : directiveArgumentElement a = .ok e) :
    e.references = [] := by
  obtain ⟨name, hname, h⟩ := Except.bind_eq_ok_iff.mp h
  cases h
  have hname := references_nameElement hname
  simp [hname, valueElement]

theorem references_directiveElement
    {d : FieldDirective}
    (h : directiveElement d = .ok e) :
    e.references = [] := by
  obtain ⟨name, hname, h⟩ := Except.bind_eq_ok_iff.mp h
  have hname := references_nameElement hname
  split at h
  · cases h
    simp [hname]
  · obtain ⟨items, hitems, h⟩ := Except.bind_eq_ok_iff.mp h
    cases h
    have hlist : (parenthesized items).references = [] := by
      refine references_parenthesized fun item hitem => ?_
      obtain ⟨a, -, ha⟩ := Except.exists_of_mem_mapM hitems hitem
      exact references_directiveArgumentElement ha
    simp [hname, hlist]

/-- Arguments refer to no rule. -/
theorem references_argumentsElements
    {arguments : List FieldArgument}
    {es : List Element}
    (h : argumentsElements arguments = .ok es) :
    es.flatMap Element.references = [] := by
  unfold argumentsElements at h
  split at h
  · cases h
    rfl
  · obtain ⟨items, hitems, h⟩ := Except.bind_eq_ok_iff.mp h
    cases h
    have hlist : (parenthesized items).references = [] := by
      refine references_parenthesized fun item hitem => ?_
      obtain ⟨a, -, ha⟩ := Except.exists_of_mem_mapM hitems hitem
      exact references_argumentElement ha
    simp [hlist]

theorem references_descriptionElements
    (description : Option String) :
    (descriptionElements description).flatMap Element.references = [] := by
  cases description <;> rfl

/-- A field is made of terminals alone. -/
theorem references_element
    {o : FieldOptions}
    (h : o.element = .ok e) :
    e.references = [] := by
  obtain ⟨name, hname, h⟩ := Except.bind_eq_ok_iff.mp h
  obtain ⟨arguments, harguments, h⟩ := Except.bind_eq_ok_iff.mp h
  obtain ⟨type, htype, h⟩ := Except.bind_eq_ok_iff.mp h
  obtain ⟨directives, hdirectives, h⟩ := Except.bind_eq_ok_iff.mp h
  cases h
  have hname := references_nameElement hname
  have harguments := references_argumentsElements harguments
  have htype := references_typeElement htype
  have hdirectives : directives.flatMap Element.references = [] := by
    rw [List.flatMap_eq_nil_iff]
    intro d hd
    obtain ⟨directive, -, hdirective⟩ := Except.exists_of_mem_mapM hdirectives hd
    exact references_directiveElement hdirective
  simp [references_descriptionElements, hname, harguments, htype, hdirectives]

end Field

end FieldOptions

end SchemaGrammar
