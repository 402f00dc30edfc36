import SchemaGrammar.Proofs.Transform.FieldParts

/-!
# Checking a field

The problems of a field are found without making it, and all of them are listed; making the field
stops at the first one.  Both look at the same names and the same types, so that a field without
problems can be made, and a field that can be made has none but perhaps a rule without a name.

**Results.**
* `FieldOptions.valid_iff_element`: which fields can be made.
* `FieldOptions.length_problems`: how many problems a field has.
* `FieldOptions.problems_exact`: the check is exact.
-/

namespace SchemaGrammar.FieldOptions

section Making

theorem isName_of_nameElement
    {terminal name : String}
    {e : Element}
    (h : nameElement terminal name = .ok e) :
    Text.isName name = true := by
  unfold nameElement at h
  split at h
  · next hname => exact hname
  · cases h

theorem parse_of_typeElement
    {source : String}
    {e : Element}
    (h : typeElement source = .ok e) :
    TypeRef.parse source = .ok (typeOf source) := by
  unfold typeElement at h
  unfold typeOf
  split at h
  · next t ht => rw [ht]; rfl
  · cases h

/-- An argument that is accepted has a name and a type. -/
theorem valid_of_argumentElement
    {a : FieldArgument}
    {e : Element}
    (h : argumentElement a = .ok e) :
    Text.isName a.name = true ∧ TypeRef.parse a.type = .ok (typeOf a.type) := by
  unfold argumentElement at h
  obtain ⟨name, hname, h⟩ := Except.bind_eq_ok_iff.mp h
  obtain ⟨type, htype, -⟩ := Except.bind_eq_ok_iff.mp h
  exact ⟨isName_of_nameElement hname, parse_of_typeElement htype⟩

theorem isName_of_directiveArgumentElement
    {a : DirectiveArgument}
    {e : Element}
    (h : directiveArgumentElement a = .ok e) :
    Text.isName a.name = true := by
  unfold directiveArgumentElement at h
  obtain ⟨name, hname, -⟩ := Except.bind_eq_ok_iff.mp h
  exact isName_of_nameElement hname

/-- A directive that is accepted has names throughout. -/
theorem valid_of_directiveElement
    {d : FieldDirective}
    {e : Element}
    (h : directiveElement d = .ok e) :
    Text.isName d.name = true ∧ ∀ a ∈ d.arguments, Text.isName a.name = true := by
  unfold directiveElement at h
  obtain ⟨name, hname, h⟩ := Except.bind_eq_ok_iff.mp h
  refine ⟨isName_of_nameElement hname, fun a ha => ?_⟩
  split at h
  · next hnone =>
      rw [List.isEmpty_iff.mp hnone] at ha
      cases ha
  · obtain ⟨items, hitems, -⟩ := Except.bind_eq_ok_iff.mp h
    obtain ⟨item, hitem⟩ := Except.exists_ok_of_mem_mapM hitems ha
    exact isName_of_directiveArgumentElement hitem

theorem valid_of_argumentsElements
    {arguments : List FieldArgument}
    {es : List Element}
    (h : argumentsElements arguments = .ok es) :
    ∀ a ∈ arguments, Text.isName a.name = true ∧ TypeRef.parse a.type = .ok (typeOf a.type) := by
  unfold argumentsElements at h
  intro a ha
  split at h
  · next hnone =>
      rw [List.isEmpty_iff.mp hnone] at ha
      cases ha
  · obtain ⟨items, hitems, -⟩ := Except.bind_eq_ok_iff.mp h
    obtain ⟨item, hitem⟩ := Except.exists_ok_of_mem_mapM hitems ha
    exact valid_of_argumentElement hitem

/-- **Fields that can be made.**  They are those whose names and types are such. -/
theorem valid_iff_element
    {o : FieldOptions} :
    o.Valid ↔ ∃ e, o.element = .ok e := by
  constructor
  · exact fun h => ⟨_, element_eq h⟩
  · rintro ⟨e, h⟩
    unfold element at h
    obtain ⟨name, hname, h⟩ := Except.bind_eq_ok_iff.mp h
    obtain ⟨arguments, harguments, h⟩ := Except.bind_eq_ok_iff.mp h
    obtain ⟨type, htype, h⟩ := Except.bind_eq_ok_iff.mp h
    obtain ⟨directives, hdirectives, -⟩ := Except.bind_eq_ok_iff.mp h
    refine ⟨isName_of_nameElement hname, parse_of_typeElement htype,
      valid_of_argumentsElements harguments, fun d hd => ?_⟩
    obtain ⟨e, he⟩ := Except.exists_ok_of_mem_mapM hdirectives hd
    exact valid_of_directiveElement he

end Making

section Counting

def directiveNames (d : FieldDirective) : List String := d.name :: d.arguments.map (·.name)

def names (o : FieldOptions) : List String :=
  o.fieldName :: o.arguments.map (·.name) ++ o.directives.flatMap directiveNames

def types (o : FieldOptions) : List String := o.fieldType :: o.arguments.map (·.type)

def isMisnamed (name : String) : Bool := !Text.isName name

def isMistyped (source : String) : Bool := (TypeRef.parse source).toOption.isNone

/-- All names of valid options are names. -/
theorem isName_of_mem_names
    {o : FieldOptions}
    (h : o.Valid) :
    ∀ name ∈ o.names, Text.isName name = true := by
  intro name hname
  rw [names, List.mem_append, List.mem_cons, List.mem_map, List.mem_flatMap] at hname
  rcases hname with (rfl | ⟨a, ha, rfl⟩) | ⟨d, hd, hname⟩
  · exact h.fieldName
  · exact (h.arguments a ha).1
  · rw [directiveNames, List.mem_cons, List.mem_map] at hname
    rcases hname with rfl | ⟨a, ha, rfl⟩
    · exact (h.directives d hd).1
    · exact (h.directives d hd).2 a ha

theorem parse_of_mem_types
    {o : FieldOptions}
    (h : o.Valid) :
    ∀ source ∈ o.types, TypeRef.parse source = .ok (typeOf source) := by
  intro source hsource
  rw [types, List.mem_cons, List.mem_map] at hsource
  rcases hsource with rfl | ⟨a, ha, rfl⟩
  · exact h.fieldType
  · exact (h.arguments a ha).2

/-- Counted piece by piece or all at once. -/
theorem length_flatMap_eq_countP
    {α β γ : Type}
    {f : α → List β}
    {g : α → List γ}
    {p : γ → Bool}
    (h : ∀ a, (f a).length = (g a).countP p)
    (as : List α) :
    (as.flatMap f).length = (as.flatMap g).countP p := by
  induction as with
  | nil => rfl
  | cons a as ih =>
      rw [List.flatMap_cons, List.flatMap_cons, List.length_append, List.countP_append, h, ih]

/-- A name has one problem if it is none. -/
theorem length_nameProblem
    (what name : String) :
    (nameProblem what name).length = [name].countP isMisnamed := by
  unfold nameProblem
  split
  · next h => simp [isMisnamed, h]
  · next h => simp [isMisnamed, h]

theorem length_typeProblem
    (source : String) :
    (typeProblem source).length = [source].countP isMistyped := by
  unfold typeProblem
  split
  · next h => simp [isMistyped, h, Except.toOption]
  · next h => simp [isMistyped, h, Except.toOption]

theorem length_nameProblems
    {α : Type}
    (what : String)
    (name : α → String)
    (as : List α) :
    (as.flatMap fun a => nameProblem what (name a)).length = (as.map name).countP isMisnamed := by
  rw [List.map_eq_flatMap]
  exact length_flatMap_eq_countP (fun a => length_nameProblem what (name a)) as

theorem length_directiveProblems
    (d : FieldDirective) :
    (directiveProblems d).length = (directiveNames d).countP isMisnamed := by
  rw [directiveProblems, directiveNames, List.length_append, length_nameProblem,
    length_nameProblems, ← List.countP_append, List.singleton_append]

/-- Every name and every type that is none is a problem, and so is a rule without a name. -/
theorem length_problems
    (o : FieldOptions) :
    o.problems.length =
      o.names.countP isMisnamed + o.types.countP isMistyped +
        if o.ruleName = "" then 1 else 0 := by
  have htypes : (o.types.flatMap typeProblem).length = o.types.countP isMistyped := by
    rw [length_flatMap_eq_countP length_typeProblem, List.flatMap_singleton']
  have hrule : (if o.ruleName.isEmpty then ["ruleName must not be empty"] else []).length =
      if o.ruleName = "" then 1 else 0 := by
    simp only [String.isEmpty_iff]
    split <;> rfl
  have hnames : o.names.countP isMisnamed =
      (nameProblem "fieldName" o.fieldName).length +
        (o.arguments.flatMap fun a => nameProblem "argument name" a.name).length +
          (o.directives.flatMap directiveProblems).length := by
    rw [length_nameProblem, length_nameProblems,
      length_flatMap_eq_countP length_directiveProblems, ← List.countP_append,
      ← List.countP_append, List.singleton_append]
    rfl
  rw [hnames, ← htypes, ← hrule]
  unfold problems types
  simp only [List.length_append]
  omega

end Counting

/-- **The check of a field.**  A field has no problems exactly if the rule has a name and the
field can be made.  The number of its problems is that of the names and types that are none, and
one more if the rule has no name. -/
theorem problems_exact
    (o : FieldOptions) :
    (o.problems = [] ↔ o.ruleName ≠ "" ∧ ∃ e, o.element = .ok e) ∧
    o.problems.length =
      o.names.countP (fun name => !Text.isName name) +
        o.types.countP (fun source => (TypeRef.parse source).toOption.isNone) +
          if o.ruleName = "" then 1 else 0 := by
  refine ⟨?_, length_problems o⟩
  rw [← valid_iff_element]
  constructor
  · intro h
    refine ⟨fun hrule => ?_, valid_of_problems h⟩
    have hlength := length_problems o
    rw [h, if_pos hrule] at hlength
    simp at hlength
  · rintro ⟨hrule, hvalid⟩
    have hnames : o.names.countP isMisnamed = 0 := by
      refine List.countP_eq_zero.mpr fun name hname => ?_
      rw [isMisnamed, isName_of_mem_names hvalid name hname]
      exact Bool.false_ne_true
    have htypes : o.types.countP isMistyped = 0 := by
      refine List.countP_eq_zero.mpr fun source hsource => ?_
      rw [isMistyped, parse_of_mem_types hvalid source hsource]
      exact Bool.false_ne_true
    rw [← List.length_eq_zero_iff, length_problems, hnames, htypes, if_neg hrule]

end SchemaGrammar.FieldOptions
