import SchemaGrammar.Proofs.Collection.Except
import SchemaGrammar.Proofs.Render.Names
import SchemaGrammar.Proofs.Transform.References
import SchemaGrammar.Proofs.TypeRef.Naming

/-!
# The parts of an added field

A field is made of literal terminals in nested sequences: its arguments, its type and its
directives.  Spliced into one sequence they give the same text.  What the renderer notes down
differs in two ways: a type of an argument is not known to be one of an argument, and the
arguments of a directive go unnoticed.

**Results.**
* `FieldOptions.element_eq`: options without problems make a field.
* `FieldOptions.Part`: what a part of it does when it is spliced.
* `Grammar.addField_eq_ok_iff`: when a field is added, and what comes of it.
-/

namespace SchemaGrammar

namespace Render

namespace Context

variable (c : Context)

def inParentheses : Context :=
  if c.inFieldList && !c.inDirective then c.enteringArguments else c

@[simp] theorem inDirective_inParentheses : c.inParentheses.inDirective = c.inDirective := by
  unfold inParentheses
  split <;> rfl

theorem forSequence_parenthesis
    (es : List Element) :
    c.forSequence (.token "(" :: es) = c.inParentheses := rfl

theorem forSequence_at
    (es : List Element) :
    c.forSequence (.token "@" :: es) = c.enteringDirective := rfl

/-- Only the signs of a directive and of arguments change the context. -/
theorem forSequence_of_isToken
    {e : Element}
    (hat : e.isToken "@" = false)
    (hparenthesis : e.isToken "(" = false)
    (es : List Element) :
    c.forSequence (e :: es) = c := by
  unfold forSequence
  rw [List.head?_cons]
  dsimp only
  rw [hat, hparenthesis]
  rfl

/-- A name in front of a sequence does not change the context. -/
theorem forSequence_literal
    {name text : String}
    (hname : name ≠ "@" ∧ name ≠ "(")
    (htext : Text.isName text = true)
    (es : List Element) :
    c.forSequence (.terminal name (some (.literal text)) :: es) = c := by
  have hsign : ∀ sign, Text.isName sign = false → name ≠ sign →
      (Element.terminal name (some (.literal text))).isToken sign = false := by
    intro sign hsign hne
    have htextne : text ≠ sign := by
      rintro rfl
      rw [htext] at hsign
      cases hsign
    simp [Element.isToken, Pattern.literal?, hne, htextne]
  exact c.forSequence_of_isToken (hsign "@" (by decide) hname.1)
    (hsign "(" (by decide) hname.2) es

end Context

namespace Walk

section Mentions

variable (c : Context)

/-- What the terminals of an element note down where the element stands. -/
def leafMentions (e : Element) (c : Context) : List Event :=
  e.leaves.flatMap fun leaf => mentions leaf c

@[simp] theorem leafMentions_terminal
    (name : String)
    (pattern : Option Pattern) :
    leafMentions (.terminal name pattern) c = mentions (.terminal name pattern) c :=
  List.append_nil _

@[simp] theorem leafMentions_sequence
    (es : List Element) :
    leafMentions (.sequence es) c = es.flatMap fun e => leafMentions e c := by
  rw [leafMentions, Element.leaves_sequence, List.flatMap_assoc]
  rfl

theorem mentions_token
    {text : String}
    (h : isPunctuator text = true) :
    mentions (.token text) c = [] := by
  rw [Element.token, mentions, terminalText, h, Bool.or_true]
  rfl

theorem leafMentions_token
    {text : String}
    (h : isPunctuator text = true) :
    leafMentions (.token text) c = [] := by
  rw [Element.token, leafMentions_terminal, ← Element.token, mentions_token c h]

theorem mentions_value
    (text : String) :
    mentions (FieldOptions.literal "Value" text) c = [] := rfl

/-- The name of an argument counts within directives only. -/
theorem mentions_argumentName
    (name : String) :
    mentions (FieldOptions.literal "ArgumentName" name) c =
      if c.inDirective then [.directiveArgument name] else [] := by
  show (event? .argument name c).toList = _
  unfold event?
  dsimp only
  split <;> rfl

/-- The event of writing the name of a directive. -/
def directiveEvent (name : String) : Event :=
  if c.rule = some RuleName.directiveDefinition then .directiveDefined name
  else .directiveReferenced name

/-- The name of a directive is mentioned where it stands. -/
theorem mentions_directiveName
    (name : String) :
    mentions (FieldOptions.literal "DirectiveName" name) c = [directiveEvent c name] := by
  show (event? (Role.resolve .directive c) name c).toList = _
  unfold Role.resolve directiveEvent
  dsimp only
  split <;> rfl

/-- A type is noted down once, by its innermost name. -/
theorem leafMentions_toElement
    (t : TypeRef) :
    leafMentions t.toElement c = [.typeReferenced t.namedType (Role.referenceKind c)] := by
  induction t with
  | named name => rfl
  | list inner ih =>
      rw [TypeRef.toElement, leafMentions_sequence]
      simp only [List.flatMap_cons, List.flatMap_nil]
      rw [ih, leafMentions_token c (by decide), leafMentions_token c (by decide)]
      rfl
  | nonNull inner ih =>
      rw [TypeRef.toElement, leafMentions_sequence]
      simp only [List.flatMap_cons, List.flatMap_nil]
      rw [ih, leafMentions_token c (by decide)]
      rfl

/-- A type mentions its innermost name, in every wrapping. -/
theorem mentions_toElement
    {t : TypeRef}
    (h : Text.isName t.namedType = true) :
    mentions t.toElement c = [.typeReferenced t.namedType (Role.referenceKind c)] := by
  induction t with
  | named name => rfl
  | list inner ih =>
      have hcontext : c.forSequence [.token "[", inner.toElement, .token "]"] = c := rfl
      rw [TypeRef.toElement, mentions_sequence, hcontext]
      simp only [List.flatMap_cons, List.flatMap_nil]
      rw [ih h, mentions_token c (by decide), mentions_token c (by decide)]
      rfl
  | nonNull inner ih =>
      have hcontext : c.forSequence [inner.toElement, .token "!"] = c := by
        cases inner with
        | named name => exact c.forSequence_literal (by decide) h _
        | list _ => rfl
        | nonNull _ => rfl
      rw [TypeRef.toElement, mentions_sequence, hcontext]
      simp only [List.flatMap_cons, List.flatMap_nil]
      rw [ih h, mentions_token c (by decide)]
      rfl

/-- Within parentheses, what the items mention is mentioned. -/
theorem mentions_parenthesized
    (items : List Element) :
    mentions (FieldOptions.parenthesized items) c =
      items.flatMap fun e => mentions e c.inParentheses := by
  have hcomma : mentions (.token ",") c.inParentheses = [] := mentions_token _ (by decide)
  rw [FieldOptions.parenthesized, mentions_sequence, List.cons_append,
    Context.forSequence_parenthesis, List.flatMap_cons, List.flatMap_append,
    FieldOptions.flatMap_intersperse (f := fun e => mentions e c.inParentheses) hcomma,
    List.flatMap_singleton, mentions_token _ (by decide), mentions_token _ (by decide),
    List.append_nil, List.nil_append]

theorem leafMentions_parenthesized
    (items : List Element) :
    leafMentions (FieldOptions.parenthesized items) c =
      items.flatMap fun e => leafMentions e c := by
  have hcomma : leafMentions (.token ",") c = [] := leafMentions_token c (by decide)
  rw [FieldOptions.parenthesized, leafMentions_sequence, List.cons_append,
    List.flatMap_cons, List.flatMap_append,
    FieldOptions.flatMap_intersperse (f := fun e => leafMentions e c) hcomma, List.flatMap_singleton,
    leafMentions_token _ (by decide), leafMentions_token _ (by decide), List.append_nil,
    List.nil_append]

end Mentions

section Tidy

variable {r : Options}

/-- A plain element without an opening brace that would matter. -/
structure Tidy (r : Options) (e : Element) : Prop where
  plain : e.Plain
  braceless : Braceless r e.leaves

theorem tidy_literal
    {name text : String}
    (hname : name ≠ RuleName.description ∧ name ≠ "\x7b")
    (htext : r.pretty = true → text ≠ "\x7b") :
    Tidy r (FieldOptions.literal name text) := by
  refine ⟨.literal hname.1, fun hpretty leaf hleaf => ?_⟩
  cases List.mem_singleton.mp hleaf
  show (if isKeyword name || isPunctuator name then name else text) ≠ "\x7b"
  split
  · exact hname.2
  · exact htext hpretty

theorem tidy_token
    {text : String}
    (h : text ≠ RuleName.description ∧ text ≠ "\x7b") :
    Tidy r (.token text) :=
  tidy_literal h fun _ => h.2

theorem tidy_name
    {name text : String}
    (hname : name ≠ RuleName.description ∧ name ≠ "\x7b")
    (htext : Text.isName text = true) :
    Tidy r (FieldOptions.literal name text) := by
  refine tidy_literal hname fun _ => ?_
  rintro rfl
  revert htext
  decide

theorem tidy_sequence
    {es : List Element}
    (h : ∀ e ∈ es, Tidy r e) :
    Tidy r (.sequence es) := by
  refine ⟨.sequence fun e he => (h e he).plain, ?_⟩
  rw [Element.leaves_sequence]
  exact braceless_flatMap fun e he => (h e he).braceless

/-- Tidy items in parentheses are tidy. -/
theorem tidy_parenthesized
    {items : List Element}
    (h : ∀ e ∈ items, Tidy r e) :
    Tidy r (FieldOptions.parenthesized items) := by
  refine tidy_sequence fun e he => ?_
  rw [List.mem_append, List.mem_cons, List.mem_singleton] at he
  rcases he with (rfl | he) | rfl
  · exact tidy_token (by decide)
  · rcases FieldOptions.mem_of_mem_intersperse he with rfl | he
    · exact tidy_token (by decide)
    · exact h e he
  · exact tidy_token (by decide)

theorem tidy_toElement
    {t : TypeRef}
    (h : Text.isName t.namedType = true) :
    Tidy r t.toElement := by
  induction t with
  | named name => exact tidy_name (by decide) h
  | list inner ih =>
      refine tidy_sequence ?_
      simp only [List.mem_cons, List.not_mem_nil, or_false, forall_eq_or_imp, forall_eq]
      exact ⟨tidy_token (by decide), ih h, tidy_token (by decide)⟩
  | nonNull inner ih =>
      refine tidy_sequence ?_
      simp only [List.mem_cons, List.not_mem_nil, or_false, forall_eq_or_imp, forall_eq]
      exact ⟨ih h, tidy_token (by decide)⟩

end Tidy

end Walk

end Render

namespace FieldOptions

open Render Render.Walk

/-- A string in quotes begins with a quote. -/
theorem compact_str_ne
    (text : String)
    {other : String}
    (h : other.toList.head? ≠ some '"') :
    (Json.str text).compact ≠ other := by
  rintro rfl
  rw [Json.compact, String.toList_ofList] at h
  exact h rfl

/-- The text of a value. -/
def valueText : Json → String
  | .str text => text
  | v => v.compact

theorem valueElement_eq
    (v : Json) :
    valueElement v = literal "Value" (valueText v) := by
  cases v <;> rfl

def valueTexts (o : FieldOptions) : List String :=
  o.arguments.flatMap (fun a => a.default.toList.map valueText) ++
    o.directives.flatMap fun d => d.arguments.map fun a => valueText a.value

section Forms

def defaultElements (default : Option Json) : List Element :=
  default.toList.map fun v => .sequence [.token "=", literal "Value" (valueText v)]

/-- An argument of a field, its type read. -/
def argumentForm (a : FieldArgument) (t : TypeRef) : Element :=
  .sequence
    ([literal "ArgumentName" a.name, .token ":", t.toElement] ++ defaultElements a.default)

def directiveArgumentForm (a : DirectiveArgument) : Element :=
  .sequence [literal "ArgumentName" a.name, .token ":", literal "Value" (valueText a.value)]

def directiveForm (d : FieldDirective) : Element :=
  .sequence ([.token "@", literal "DirectiveName" d.name] ++
    if d.arguments.isEmpty then []
    else [parenthesized (d.arguments.map directiveArgumentForm)])

/-- The element of a valid argument. -/
theorem argumentElement_eq
    {a : FieldArgument}
    {t : TypeRef}
    (hname : Text.isName a.name = true)
    (htype : TypeRef.parse a.type = .ok t) :
    argumentElement a = .ok (argumentForm a t) := by
  unfold argumentElement nameElement typeElement argumentForm
  rw [hname, htype]
  cases a.default with
  | none => rfl
  | some v =>
      simp only [valueElement_eq]
      rfl

theorem directiveArgumentElement_eq
    {a : DirectiveArgument}
    (hname : Text.isName a.name = true) :
    directiveArgumentElement a = .ok (directiveArgumentForm a) := by
  unfold directiveArgumentElement nameElement
  rw [hname, valueElement_eq]
  rfl

theorem directiveElement_eq
    {d : FieldDirective}
    (hname : Text.isName d.name = true)
    (harguments : ∀ a ∈ d.arguments, Text.isName a.name = true) :
    directiveElement d = .ok (directiveForm d) := by
  unfold directiveElement nameElement directiveForm
  rw [hname, Except.mapM_eq_ok_map fun a ha => directiveArgumentElement_eq (harguments a ha)]
  cases d.arguments.isEmpty <;> rfl

/-- The type that a text denotes, if it denotes one. -/
def typeOf (source : String) : TypeRef := (TypeRef.parse source).toOption.getD (.named source)

def fieldParts (o : FieldOptions) : List Element :=
  descriptionElements o.description ++ [literal "Name" o.fieldName] ++
    (if o.arguments.isEmpty then []
      else [parenthesized (o.arguments.map fun a => argumentForm a (typeOf a.type))]) ++
    [.token ":", (typeOf o.fieldType).toElement] ++ o.directives.map directiveForm

/-- Options with names and types that are such. -/
structure Valid (o : FieldOptions) : Prop where
  fieldName : Text.isName o.fieldName = true
  fieldType : TypeRef.parse o.fieldType = .ok (typeOf o.fieldType)
  arguments : ∀ a ∈ o.arguments,
    Text.isName a.name = true ∧ TypeRef.parse a.type = .ok (typeOf a.type)
  directives : ∀ d ∈ o.directives,
    Text.isName d.name = true ∧ ∀ a ∈ d.arguments, Text.isName a.name = true

theorem isName_of_nameProblem
    {what name : String}
    (h : nameProblem what name = []) :
    Text.isName name = true := by
  unfold nameProblem at h
  split at h
  · next hname => exact hname
  · cases h

theorem parse_of_typeProblem
    {source : String}
    (h : typeProblem source = []) :
    TypeRef.parse source = .ok (typeOf source) := by
  unfold typeProblem at h
  unfold typeOf
  split at h
  · next t ht => rw [ht]; rfl
  · cases h

/-- Options without problems are valid. -/
theorem valid_of_problems
    {o : FieldOptions}
    (h : o.problems = []) :
    o.Valid := by
  unfold problems directiveProblems at h
  simp only [List.append_eq_nil_iff, List.flatMap_eq_nil_iff, List.mem_cons, List.mem_map,
    forall_eq_or_imp, forall_exists_index, and_imp, forall_apply_eq_imp_iff₂] at h
  obtain ⟨⟨⟨⟨-, hfield⟩, harguments⟩, hdirectives⟩, htype, htypes⟩ := h
  exact {
    fieldName := isName_of_nameProblem hfield
    fieldType := parse_of_typeProblem htype
    arguments := fun a ha =>
      ⟨isName_of_nameProblem (harguments a ha), parse_of_typeProblem (htypes a ha)⟩
    directives := fun d hd =>
      ⟨isName_of_nameProblem (hdirectives d hd).1,
        fun a ha => isName_of_nameProblem ((hdirectives d hd).2 a ha)⟩ }

/-- Options without problems make a field. -/
theorem element_eq
    {o : FieldOptions}
    (h : o.Valid) :
    o.element = .ok (.sequence o.fieldParts) := by
  unfold element nameElement argumentsElements typeElement fieldParts
  rw [h.fieldName, h.fieldType,
    Except.mapM_eq_ok_map fun a ha => argumentElement_eq (h.arguments a ha).1 (h.arguments a ha).2,
    Except.mapM_eq_ok_map fun d hd => directiveElement_eq (h.directives d hd).1 (h.directives d hd).2]
  cases o.arguments.isEmpty <;> rfl

end Forms

section Parts

variable {R : Trace → Trace → Prop} {r : Render.Options}

/-- What a part of a field does when it is spliced into the field: its text stays, and so does
what it notes down as far as that can be seen. -/
structure Part (R : Trace → Trace → Prop) (r : Render.Options) (e : Element) : Prop where
  sayable : e.Sayable
  braceless : Braceless r e.leaves
  swaps : ∀ c, Swaps R (leafMentions e c) (mentions e c)

/-- A tidy element is a part of a field if its events may be exchanged. -/
theorem part_of_tidy
    {e : Element}
    (h : Tidy r e)
    (hswaps : ∀ c, Swaps R (leafMentions e c) (mentions e c)) :
    Part R r e :=
  ⟨.plain h.plain, h.braceless, hswaps⟩

section Arguments

theorem tidy_value
    {text : String}
    (h : r.pretty = true → text ≠ "\x7b") :
    Tidy r (literal "Value" text) :=
  tidy_literal (by decide) h

theorem tidy_argumentForm
    {a : FieldArgument}
    {t : TypeRef}
    (hname : Text.isName a.name = true)
    (htype : Text.isName t.namedType = true)
    (hvalue : r.pretty = true → ∀ v ∈ a.default, valueText v ≠ "\x7b") :
    Tidy r (argumentForm a t) := by
  refine tidy_sequence fun e he => ?_
  rcases List.mem_append.mp he with he | he
  · simp only [List.mem_cons, List.not_mem_nil, or_false] at he
    rcases he with rfl | rfl | rfl
    · exact tidy_name (by decide) hname
    · exact tidy_token (by decide)
    · exact tidy_toElement htype
  · obtain ⟨v, hv, rfl⟩ := List.mem_map.mp he
    refine tidy_sequence ?_
    simp only [List.mem_cons, List.not_mem_nil, or_false, forall_eq_or_imp, forall_eq]
    exact ⟨tidy_token (by decide),
      tidy_value fun hpretty => hvalue hpretty v (Option.mem_toList.mp hv)⟩

theorem tidy_directiveArgumentForm
    {a : DirectiveArgument}
    (hname : Text.isName a.name = true)
    (hvalue : r.pretty = true → valueText a.value ≠ "\x7b") :
    Tidy r (directiveArgumentForm a) := by
  refine tidy_sequence ?_
  simp only [List.mem_cons, List.not_mem_nil, or_false, forall_eq_or_imp, forall_eq]
  exact ⟨tidy_name (by decide) hname, tidy_token (by decide), tidy_value hvalue⟩

/-- An argument mentions its type, and its name within directives. -/
theorem mentions_argumentForm
    {a : FieldArgument}
    {t : TypeRef}
    (hname : Text.isName a.name = true)
    (htype : Text.isName t.namedType = true)
    (c : Context) :
    mentions (argumentForm a t) c =
      (if c.inDirective then [.directiveArgument a.name] else []) ++
        [.typeReferenced t.namedType (Role.referenceKind c)] := by
  have hdefault : (defaultElements a.default).flatMap (fun e => mentions e c) = [] := by
    cases a.default <;> rfl
  rw [argumentForm, mentions_sequence, List.cons_append,
    show c.forSequence (literal "ArgumentName" a.name :: _) = c from
      c.forSequence_literal (by decide) hname _]
  simp only [List.flatMap_cons, List.cons_append, List.nil_append, hdefault]
  rw [mentions_argumentName, mentions_token c (by decide), mentions_toElement c htype]
  rfl

theorem leafMentions_argumentForm
    (a : FieldArgument)
    (t : TypeRef)
    (c : Context) :
    leafMentions (argumentForm a t) c =
      (if c.inDirective then [.directiveArgument a.name] else []) ++
        [.typeReferenced t.namedType (Role.referenceKind c)] := by
  have hdefault : (defaultElements a.default).flatMap (fun e => leafMentions e c) = [] := by
    cases a.default <;> rfl
  rw [argumentForm, leafMentions_sequence]
  simp only [List.flatMap_cons, List.cons_append, List.nil_append, hdefault]
  rw [literal, leafMentions_terminal, ← literal, mentions_argumentName,
    leafMentions_token c (by decide), leafMentions_toElement]
  rfl

theorem mentions_directiveArgumentForm
    {a : DirectiveArgument}
    (hname : Text.isName a.name = true)
    (c : Context) :
    mentions (directiveArgumentForm a) c =
      if c.inDirective then [.directiveArgument a.name] else [] := by
  rw [directiveArgumentForm, mentions_sequence,
    show c.forSequence (literal "ArgumentName" a.name :: _) = c from
      c.forSequence_literal (by decide) hname _]
  simp only [List.flatMap_cons, List.flatMap_nil]
  rw [mentions_argumentName, mentions_token c (by decide), mentions_value]
  simp

theorem leafMentions_directiveArgumentForm
    (a : DirectiveArgument)
    (c : Context) :
    leafMentions (directiveArgumentForm a) c =
      if c.inDirective then [.directiveArgument a.name] else [] := by
  rw [directiveArgumentForm, leafMentions_sequence]
  simp only [List.flatMap_cons, List.flatMap_nil, literal, leafMentions_terminal]
  rw [← literal, ← literal, mentions_argumentName, leafMentions_token c (by decide),
    mentions_value]
  simp

/-- The name of a directive is noted down, and perhaps arguments behind it. -/
theorem leafMentions_directiveForm
    (d : FieldDirective)
    (c : Context) :
    ∃ xs, (∀ x ∈ xs, Event.IsArgument x) ∧ (d.arguments = [] → xs = []) ∧
      leafMentions (directiveForm d) c = directiveEvent c d.name :: xs := by
  refine ⟨d.arguments.flatMap fun a => leafMentions (directiveArgumentForm a) c, ?_, ?_, ?_⟩
  · intro x hx
    obtain ⟨a, -, hx⟩ := List.mem_flatMap.mp hx
    rw [leafMentions_directiveArgumentForm] at hx
    split at hx
    · exact ⟨a.name, List.mem_singleton.mp hx⟩
    · cases hx
  · intro hnone
    rw [hnone, List.flatMap_nil]
  · have hname : leafMentions (literal "DirectiveName" d.name) c = [directiveEvent c d.name] := by
      rw [literal, leafMentions_terminal, ← literal, mentions_directiveName]
    rw [directiveForm, leafMentions_sequence]
    simp only [List.flatMap_append, List.flatMap_cons, List.flatMap_nil]
    rw [leafMentions_token c (by decide), hname]
    cases hnone : d.arguments with
    | nil => rfl
    | cons a rest => simp [leafMentions_parenthesized, List.flatMap_map]

/-- A directive mentions its name, and then its arguments. -/
theorem mentions_directiveForm
    {d : FieldDirective}
    (harguments : ∀ a ∈ d.arguments, Text.isName a.name = true)
    (c : Context) :
    ∃ xs, (∀ x ∈ xs, Event.IsArgument x) ∧ (d.arguments = [] → xs = []) ∧
      mentions (directiveForm d) c = directiveEvent c d.name :: xs := by
  refine ⟨d.arguments.flatMap fun a =>
    mentions (directiveArgumentForm a) c.enteringDirective.inParentheses, ?_, ?_, ?_⟩
  · intro x hx
    obtain ⟨a, ha, hx⟩ := List.mem_flatMap.mp hx
    rw [mentions_directiveArgumentForm (harguments a ha)] at hx
    split at hx
    · exact ⟨a.name, List.mem_singleton.mp hx⟩
    · cases hx
  · intro hnone
    rw [hnone, List.flatMap_nil]
  · have hevent : directiveEvent c.enteringDirective d.name = directiveEvent c d.name := rfl
    rw [directiveForm, mentions_sequence, List.cons_append, Context.forSequence_at]
    simp only [List.flatMap_cons, List.cons_append, List.nil_append]
    rw [mentions_token _ (by decide), mentions_directiveName, hevent]
    cases hnone : d.arguments with
    | nil => rfl
    | cons a rest => simp [mentions_parenthesized, List.flatMap_map]

/-- A directive with valid names is tidy. -/
theorem tidy_directiveForm
    {d : FieldDirective}
    (hname : Text.isName d.name = true)
    (harguments : ∀ a ∈ d.arguments, Text.isName a.name = true)
    (hvalues : r.pretty = true → ∀ a ∈ d.arguments, valueText a.value ≠ "\x7b") :
    Tidy r (directiveForm d) := by
  refine tidy_sequence fun e he => ?_
  rcases List.mem_append.mp he with he | he
  · simp only [List.mem_cons, List.not_mem_nil, or_false] at he
    rcases he with rfl | rfl
    · exact tidy_token (by decide)
    · exact tidy_name (by decide) hname
  · split at he
    · cases he
    · cases List.mem_singleton.mp he
      refine tidy_parenthesized fun item hitem => ?_
      obtain ⟨a, ha, rfl⟩ := List.mem_map.mp hitem
      exact tidy_directiveArgumentForm (harguments a ha) fun hpretty => hvalues hpretty a ha

end Arguments

section Field

variable (hR : Trace.Congruence R)
include hR

theorem part_literal
    {name text : String}
    (h : Tidy r (literal name text)) :
    Part R r (literal name text) := by
  refine part_of_tidy h fun c => ?_
  rw [literal, leafMentions_terminal]
  exact swaps_refl hR _

theorem part_description
    (text : String) :
    Part R r (literal RuleName.description (Json.str text).compact) := by
  refine ⟨.description _, fun _ leaf hleaf => ?_, fun c => ?_⟩
  · cases List.mem_singleton.mp hleaf
    exact compact_str_ne text (by decide)
  · rw [literal, leafMentions_terminal]
    exact swaps_refl hR _

theorem part_toElement
    {t : TypeRef}
    (h : Text.isName t.namedType = true) :
    Part R r t.toElement := by
  refine part_of_tidy (tidy_toElement h) fun c => ?_
  rw [leafMentions_toElement, mentions_toElement c h]
  exact swaps_refl hR _

/-- Arguments are a part of a field where the kinds of their types do not count. -/
theorem part_arguments
    {arguments : List FieldArgument}
    {type : FieldArgument → TypeRef}
    (hnames : ∀ a ∈ arguments, Text.isName a.name = true)
    (htypes : ∀ a ∈ arguments, Text.isName (type a).namedType = true)
    (hkinds : ∀ a ∈ arguments, Trace.IgnoresKind R (type a).namedType)
    (hvalues : r.pretty = true → ∀ a ∈ arguments, ∀ v ∈ a.default, valueText v ≠ "\x7b") :
    Part R r (parenthesized (arguments.map fun a => argumentForm a (type a))) := by
  refine part_of_tidy (tidy_parenthesized fun e he => ?_) fun c => ?_
  · obtain ⟨a, ha, rfl⟩ := List.mem_map.mp he
    exact tidy_argumentForm (hnames a ha) (htypes a ha) fun hpretty => hvalues hpretty a ha
  · rw [leafMentions_parenthesized, mentions_parenthesized, List.flatMap_map, List.flatMap_map]
    refine swaps_flatMap fun a ha => ?_
    rw [leafMentions_argumentForm, mentions_argumentForm (hnames a ha) (htypes a ha),
      Context.inDirective_inParentheses]
    exact (swaps_refl hR _).append (hkinds a ha _ _)

/-- A directive is a part of a field where its arguments do not count. -/
theorem part_directiveForm
    {d : FieldDirective}
    (hname : Text.isName d.name = true)
    (harguments : ∀ a ∈ d.arguments, Text.isName a.name = true)
    (hignores : d.arguments ≠ [] → Trace.IgnoresArguments R d.name)
    (hvalues : r.pretty = true → ∀ a ∈ d.arguments, valueText a.value ≠ "\x7b") :
    Part R r (directiveForm d) := by
  refine part_of_tidy (tidy_directiveForm hname harguments hvalues) fun c => ?_
  obtain ⟨xs, hxs, hxsnone, hleaves⟩ := leafMentions_directiveForm d c
  obtain ⟨ys, hys, hysnone, hwhole⟩ := mentions_directiveForm harguments c
  rw [hleaves, hwhole]
  by_cases hnone : d.arguments = []
  · rw [hxsnone hnone, hysnone hnone]
    exact swaps_refl hR _
  · refine hignores hnone _ xs ys ?_ hxs hys
    unfold directiveEvent
    split
    · exact .inl rfl
    · exact .inr rfl

/-- **Parts of a field.**  Every part of a field may be spliced if the types of its arguments and
the arguments of its directives do not matter. -/
theorem part_of_mem_fieldParts
    {o : FieldOptions}
    (ho : o.Valid)
    (hkinds : ∀ a ∈ o.arguments, Trace.IgnoresKind R (typeOf a.type).namedType)
    (hignores : ∀ d ∈ o.directives, d.arguments ≠ [] → Trace.IgnoresArguments R d.name)
    (hvalues : r.pretty = true → "\x7b" ∉ o.valueTexts) :
    ∀ e ∈ o.fieldParts, Part R r e := by
  have hdefaults : r.pretty = true → ∀ a ∈ o.arguments, ∀ v ∈ a.default,
      valueText v ≠ "\x7b" := by
    rintro hpretty a ha v hv heq
    refine hvalues hpretty (List.mem_append_left _ (List.mem_flatMap.mpr ⟨a, ha, ?_⟩))
    exact heq ▸ List.mem_map_of_mem (Option.mem_toList.mpr hv)
  have hgiven : r.pretty = true → ∀ d ∈ o.directives, ∀ a ∈ d.arguments,
      valueText a.value ≠ "\x7b" := by
    rintro hpretty d hd a ha heq
    refine hvalues hpretty (List.mem_append_right _ (List.mem_flatMap.mpr ⟨d, hd, ?_⟩))
    exact heq ▸ List.mem_map_of_mem (f := fun a => valueText a.value) ha
  intro e he
  simp only [fieldParts, List.mem_append, List.mem_cons, List.not_mem_nil, or_false] at he
  rcases he with (((he | rfl) | he) | rfl | rfl) | he
  · obtain ⟨text, -, rfl⟩ := List.mem_map.mp he
    exact part_description hR text
  · exact part_literal hR (tidy_name (by decide) ho.fieldName)
  · split at he
    · cases he
    · cases List.mem_singleton.mp he
      exact part_arguments hR (fun a ha => (ho.arguments a ha).1)
        (fun a ha => TypeRef.isName_namedType (ho.arguments a ha).2) hkinds hdefaults
  · exact part_literal hR (tidy_token (by decide))
  · exact part_toElement hR (TypeRef.isName_namedType ho.fieldType)
  · obtain ⟨d, hd, rfl⟩ := List.mem_map.mp he
    exact part_directiveForm hR (ho.directives d hd).1 (ho.directives d hd).2 (hignores d hd)
      fun hpretty => hgiven hpretty d hd

end Field

end Parts

end FieldOptions

namespace Grammar

/-- Adding a field succeeds exactly with a rule under the key and an element for the field. -/
theorem addField_eq_ok_iff
    {g h : Grammar}
    {o : FieldOptions} :
    g.addField o = .ok h ↔
      ∃ rule field, g.rule? o.ruleName = some rule ∧ o.element = .ok field ∧
        h = g.withRule (rule.withDefinition
          (rule.definition.withContainer (.container field))) := by
  unfold addField
  constructor
  · intro hadd
    split at hadd
    · cases hadd
    · next rule hrule =>
        split at hadd
        · cases hadd
        · next field hfield =>
            cases hadd
            exact ⟨rule, field, hrule, hfield, rfl⟩
  · rintro ⟨rule, field, hrule, hfield, rfl⟩
    simp [hrule, hfield]

/-- Options without problems add a field to the rule that they name, if there is one. -/
theorem exists_addField_of_contains
    {g : Grammar}
    {o : FieldOptions}
    (hproblems : o.problems = [])
    (hrule : g.contains o.ruleName = true) :
    ∃ h, g.addField o = .ok h := by
  obtain ⟨rule, hget⟩ := contains_eq_true_iff.mp hrule
  have hfield := FieldOptions.element_eq (FieldOptions.valid_of_problems hproblems)
  exact ⟨_, addField_eq_ok_iff.mpr ⟨rule, _, hget, hfield, rfl⟩⟩

end Grammar

end SchemaGrammar
