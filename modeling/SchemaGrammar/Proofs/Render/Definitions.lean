import Mathlib.Data.List.TakeWhile
import SchemaGrammar.Proofs.Collection.Front
import SchemaGrammar.Proofs.Render.StubKinds
import SchemaGrammar.Proofs.Render.Success
import SchemaGrammar.Text.Name

/-!
# The definitions at the end of a document

The stubs of a document are written out as definitions.  How the definition of a type or of a
directive is written can be said of the text alone: a keyword, the name, and what belongs to it.
The definition of a type can be read in one way only, whatever its name is, so a document that
needs a type has one definition of it, and a document that does not need it has none.

**Results.**
* `IsTypeDefinition.unique`: the definition of a type can be read in one way.
* `Stub.definedBy_text`: the text of a stub is the definition of what the stub stands for.
* `Trace.ClosedBy.closedIn`: the definitions of stubs define what is missing, and nothing else.
* `Outline.shownIn_text`: a document shows the blocks of its walk, and then definitions.
* `Grammar.render_closes_names`: every document that is rendered ends with the definitions that
  it needs, and with no other.
-/

namespace SchemaGrammar

namespace Render

section Written

/-- Members between braces. -/
def Braced (members : String) : Prop :=
  ∃ inner, members.toList = '\x7b' :: (inner ++ ['\x7d']) ∧ '\x7b' ∉ inner

/-- The text is the definition of a type of a kind. -/
inductive IsTypeDefinition (name : String) : TypeKind → String → Prop
  | object {members : String} (h : Braced members) :
      IsTypeDefinition name .object ("type " ++ name ++ " " ++ members)
  | interface {members : String} (h : Braced members) :
      IsTypeDefinition name .interface ("interface " ++ name ++ " " ++ members)
  | input {members : String} (h : Braced members) :
      IsTypeDefinition name .input ("input " ++ name ++ " " ++ members)
  | enum {members : String} (h : Braced members) :
      IsTypeDefinition name .enum ("enum " ++ name ++ " " ++ members)
  | union {member : String} (h : Text.isName member = true) :
      IsTypeDefinition name .union ("union " ++ name ++ " = " ++ member)
  | scalar : IsTypeDefinition name .scalar ("scalar " ++ name)

/-- The text lists arguments in order, each of them once and with a type. -/
inductive ListsArguments : List String → String → Prop
  | last (argument : String) {type : String} (h : Text.isName type = true) :
      ListsArguments [argument] (argument ++ ": " ++ type)
  | more (argument : String) {type : String} {arguments : List String} {list : String}
      (h : Text.isName type = true) (hrest : ListsArguments arguments list) :
      ListsArguments (argument :: arguments) (argument ++ ": " ++ type ++ ", " ++ list)

/-- The text is the definition of a directive with arguments, allowed everywhere in a type
system. -/
inductive IsDirectiveDefinition (name : String) : List String → String → Prop
  | bare :
      IsDirectiveDefinition name []
        ("directive @" ++ name ++ " on " ++ " | ".intercalate Schema.typeSystemLocations)
  | given {arguments : List String} {list : String} (h : ListsArguments arguments list) :
      IsDirectiveDefinition name arguments
        ("directive @" ++ name ++ "(" ++ list ++ ")" ++ " on " ++
          " | ".intercalate Schema.typeSystemLocations)

/-- The text defines what the stub stands for. -/
def Stub.DefinedBy : Stub → String → Prop
  | .type name kind, text => IsTypeDefinition name kind text
  | .directive name arguments, text => IsDirectiveDefinition name arguments text

/-- None of the texts defines the type. -/
def Undefined (name : String) (texts : List String) : Prop :=
  ∀ text ∈ texts, ∀ kind, ¬ IsTypeDefinition name kind text

/-- One of the texts defines the type, as a type of the kind, and no other text defines it. -/
def DefinedOnce (name : String) (kind : TypeKind) (texts : List String) : Prop :=
  ∃ before text after, texts = before ++ text :: after ∧ IsTypeDefinition name kind text ∧
    Undefined name (before ++ after)

end Written

section OneReading

variable {name other text : String} {kind kind' : TypeKind}

/-- The word with which the definition of a type begins. -/
def opening : TypeKind → List Char
  | .object => "type ".toList
  | .interface => "interface ".toList
  | .input => "input ".toList
  | .enum => "enum ".toList
  | .union => "union ".toList
  | .scalar => "scalar ".toList

/-- The sign that stands behind the name of a type, and not again. -/
def sign : TypeKind → Char
  | .union => '='
  | _ => '\x7b'

/-- No opening is the beginning of another one. -/
theorem eq_of_opening_append_eq
    {cs ds : List Char}
    (h : opening kind ++ cs = opening kind' ++ ds) :
    kind = kind' := by
  have hfree : opening kind <+: opening kind' ∨ opening kind' <+: opening kind :=
    List.prefix_or_prefix_of_prefix (List.prefix_append _ cs) (h ▸ List.prefix_append _ ds)
  revert hfree
  cases kind <;> cases kind' <;> decide

/-- What is written behind the name of a type. -/
theorem IsTypeDefinition.exists_tail
    (h : IsTypeDefinition name kind text) :
    ∃ tail, text.toList = opening kind ++ (name.toList ++ tail) ∧
      (kind = .scalar ∧ tail = [] ∨
        kind ≠ .scalar ∧ ∃ rest, tail = ' ' :: sign kind :: rest ∧ sign kind ∉ rest) := by
  have hbraced {members : String} (h : Braced members) :
      ∃ rest, (" " ++ members).toList = ' ' :: '\x7b' :: rest ∧ '\x7b' ∉ rest := by
    obtain ⟨inner, hmembers, hinner⟩ := h
    refine ⟨inner ++ ['\x7d'], by rw [String.toList_append, hmembers]; rfl, ?_⟩
    rw [List.mem_append, not_or]
    exact ⟨hinner, by decide⟩
  have happend (word behind : String) :
      (word ++ name ++ behind).toList = word.toList ++ (name.toList ++ behind.toList) := by
    rw [String.toList_append, String.toList_append, List.append_assoc]
  cases h with
  | object h => exact ⟨_, by rw [String.append_assoc, happend]; rfl, .inr ⟨nofun, hbraced h⟩⟩
  | interface h => exact ⟨_, by rw [String.append_assoc, happend]; rfl, .inr ⟨nofun, hbraced h⟩⟩
  | input h => exact ⟨_, by rw [String.append_assoc, happend]; rfl, .inr ⟨nofun, hbraced h⟩⟩
  | enum h => exact ⟨_, by rw [String.append_assoc, happend]; rfl, .inr ⟨nofun, hbraced h⟩⟩
  | @union member h =>
      have hsign : '=' ∉ (' ' :: member.toList) := by
        obtain ⟨c, cs, hchars, hstart, hrest⟩ := Text.exists_of_isName h
        rw [hchars]
        intro hmem
        rcases List.mem_cons.mp hmem with heq | hmem
        · cases heq
        · rcases List.mem_cons.mp hmem with rfl | hmem
          · cases hstart
          · cases hrest _ hmem
      have hbehind : (" = " ++ member).toList = ' ' :: '=' :: ' ' :: member.toList := by
        rw [String.toList_append]
        rfl
      exact ⟨_, by rw [String.append_assoc, happend]; rfl, .inr ⟨nofun, _, hbehind, hsign⟩⟩
  | scalar =>
      exact ⟨[], by rw [String.toList_append, List.append_nil]; rfl, .inl ⟨rfl, rfl⟩⟩

/-- Behind the last sign, what stands before it is told. -/
theorem append_sign_cancel
    {c : Char}
    {cs ds rest more : List Char}
    (hrest : c ∉ rest)
    (hmore : c ∉ more)
    (h : cs ++ ' ' :: c :: rest = ds ++ ' ' :: c :: more) :
    cs = ds := by
  have hfront {front : List Char} (hfront : c ∉ front) :
      ∀ a ∈ front.reverse, decide (a ≠ c) = true := by
    intro a ha
    refine decide_eq_true ?_
    rintro rfl
    exact hfront (List.mem_reverse.mp ha)
  have hsign (behind : List Char) : ∀ a ∈ (c :: behind).head?, decide (a ≠ c) = false := by
    rintro a ⟨⟩
    exact decide_eq_false (not_not_intro rfl)
  have hreverse := congrArg List.reverse h
  simp only [List.reverse_append, List.reverse_cons, List.append_assoc, List.cons_append,
    List.nil_append] at hreverse
  obtain ⟨-, hbehind⟩ :=
    Front.append_cancel (hfront hrest) (hfront hmore) (hsign _) (hsign _) hreverse
  exact List.reverse_inj.mp (List.cons.inj (List.cons.inj hbehind).2).2

/-- **One reading.**  A text is the definition of one type, of one kind. -/
theorem IsTypeDefinition.unique
    (h : IsTypeDefinition name kind text)
    (h' : IsTypeDefinition other kind' text) :
    name = other ∧ kind = kind' := by
  obtain ⟨tail, htext, htail⟩ := h.exists_tail
  obtain ⟨tail', htext', htail'⟩ := h'.exists_tail
  rw [htext] at htext'
  obtain rfl := eq_of_opening_append_eq htext'
  have hname := List.append_cancel_left htext'
  refine ⟨?_, rfl⟩
  rcases htail with ⟨hscalar, rfl⟩ | ⟨hkind, rest, rfl, hrest⟩
  · rcases htail' with ⟨-, rfl⟩ | ⟨hkind, -⟩
    · exact String.toList_inj.mp (List.append_cancel_right hname)
    · exact absurd hscalar hkind
  · rcases htail' with ⟨hscalar, -⟩ | ⟨-, more, rfl, hmore⟩
    · exact absurd hscalar hkind
    · exact String.toList_inj.mp (append_sign_cancel hrest hmore hname)

/-- The word with which the definition of a directive begins. -/
theorem IsDirectiveDefinition.exists_rest
    {arguments : List String}
    (h : IsDirectiveDefinition name arguments text) :
    ∃ rest, text.toList = "directive @".toList ++ rest := by
  cases h with
  | bare => exact ⟨_, by rw [String.append_assoc, String.append_assoc, String.toList_append]⟩
  | given h =>
      simp only [String.append_assoc]
      exact ⟨_, String.toList_append⟩

/-- The definition of a directive is no definition of a type. -/
theorem IsDirectiveDefinition.not_isTypeDefinition
    {arguments : List String}
    (h : IsDirectiveDefinition other arguments text) :
    ¬ IsTypeDefinition name kind text := by
  intro htype
  obtain ⟨tail, htext, -⟩ := htype.exists_tail
  obtain ⟨rest, hdirective⟩ := h.exists_rest
  rw [htext] at hdirective
  have hbegin : opening kind <+: "directive @".toList ∨ "directive @".toList <+: opening kind :=
    List.prefix_or_prefix_of_prefix (List.prefix_append _ _)
      (hdirective ▸ List.prefix_append _ rest)
  revert hbegin
  cases kind <;> decide

/-- The text of a stub defines a type only if the stub is one of that type. -/
theorem Stub.DefinedBy.typeName?_eq
    {stub : Stub}
    (h : stub.DefinedBy text)
    (htype : IsTypeDefinition name kind text) :
    stub.typeName? = some name := by
  cases stub with
  | type other kind' =>
      obtain ⟨rfl, -⟩ := htype.unique h
      rfl
  | directive other arguments =>
      exact absurd htype (IsDirectiveDefinition.not_isTypeDefinition h)

end OneReading

section Stubs

variable {name : String} {kind : TypeKind} {stub : Stub} {stubs : List Stub}
  {texts : List String}

/-- Texts that define stubs do not define a type that has no stub. -/
theorem undefined_of_ofType_eq_nil
    (h : List.Forall₂ Stub.DefinedBy stubs texts)
    (hnone : Stub.ofType name stubs = []) :
    Undefined name texts := by
  induction h with
  | nil => exact fun _ htext => nomatch htext
  | @cons stub text stubs texts hstub _ ih =>
      by_cases hname : stub.typeName? = some name
      · rw [ofType_cons_of_eq hname] at hnone
        cases hnone
      · rw [ofType_cons_of_ne hname] at hnone
        exact List.forall_mem_cons.mpr ⟨fun _ htype => hname (hstub.typeName?_eq htype), ih hnone⟩

/-- Texts that define stubs define a type once if it has one stub. -/
theorem definedOnce_of_ofType_eq_singleton
    (h : List.Forall₂ Stub.DefinedBy stubs texts)
    (hone : Stub.ofType name stubs = [.type name kind]) :
    DefinedOnce name kind texts := by
  induction h with
  | nil => cases hone
  | @cons stub text stubs texts hstub hrest ih =>
      by_cases hname : stub.typeName? = some name
      · rw [ofType_cons_of_eq hname] at hone
        obtain ⟨rfl, hnone⟩ := List.cons.inj hone
        exact ⟨[], text, texts, rfl, hstub, undefined_of_ofType_eq_nil hrest hnone⟩
      · rw [ofType_cons_of_ne hname] at hone
        obtain ⟨before, found, after, rfl, hfound, hnone⟩ := ih hone
        refine ⟨text :: before, found, after, rfl, hfound, ?_⟩
        exact List.forall_mem_cons.mpr ⟨fun _ htype => hname (hstub.typeName?_eq htype), hnone⟩

/-- Every stub has its definition among texts that define the stubs. -/
theorem exists_definedBy_of_mem
    (h : List.Forall₂ Stub.DefinedBy stubs texts)
    (hmem : stub ∈ stubs) :
    ∃ text ∈ texts, stub.DefinedBy text := by
  induction h with
  | nil => cases hmem
  | @cons other text stubs texts hother _ ih =>
      rcases List.mem_cons.mp hmem with rfl | hmem
      · exact ⟨text, List.mem_cons_self, hother⟩
      · obtain ⟨found, hfound, hstub⟩ := ih hmem
        exact ⟨found, List.mem_cons_of_mem _ hfound, hstub⟩

/-- Texts define what is missing after the events of a walk: a missing type is defined once, as a
type of some kind, no other type is defined, and a missing directive is defined with the
arguments that it has been given. -/
structure Trace.ClosedIn (t : Trace) (texts : List String) : Prop where
  missing : ∀ name, t.LacksType name → ∃ kind, DefinedOnce name kind texts
  others : ∀ name, ¬ t.LacksType name → Undefined name texts
  directives : ∀ name, t.RefersToDirective name → ¬ t.DefinesDirective name →
    ∃ arguments : List String, arguments.Nodup ∧
      (∀ argument, argument ∈ arguments ↔ t.GivesArgument name argument) ∧
      ∃ text ∈ texts, IsDirectiveDefinition name arguments text

/-- The definitions of stubs define what the stubs do. -/
theorem Trace.ClosedBy.closedIn
    {t : Trace}
    (h : t.ClosedBy stubs)
    (hdefined : List.Forall₂ Stub.DefinedBy stubs texts) :
    t.ClosedIn texts where
  missing name hlacks := by
    obtain ⟨kind, hone⟩ :=
      exists_ofType_eq_singleton h.types_nodup ((h.types name).mpr hlacks)
    exact ⟨kind, definedOnce_of_ofType_eq_singleton hdefined hone⟩
  others name hlacks :=
    undefined_of_ofType_eq_nil hdefined (ofType_eq_nil (mt (h.types name).mp hlacks))
  directives name hrefers hdefines := by
    obtain ⟨stub, hstub, hname⟩ :=
      List.mem_filterMap.mp ((h.directives name).mpr ⟨hrefers, hdefines⟩)
    cases stub with
    | type other kind => cases hname
    | directive other arguments =>
        cases hname
        obtain ⟨text, htext, hdirective⟩ := exists_definedBy_of_mem hdefined hstub
        exact ⟨arguments, h.arguments_nodup name arguments hstub,
          h.arguments name arguments hstub, text, htext, hdirective⟩

end Stubs

section Writing

variable {text : String}

/-- Around a text without an opening brace stand the braces of members. -/
theorem braced_around
    {inner : String}
    (h : '\x7b' ∉ inner.toList) :
    Braced ("\x7b" ++ inner ++ "\x7d") := by
  refine ⟨inner.toList, ?_, h⟩
  rw [String.toList_append, String.toList_append]
  rfl

/-- A block with one line is its head with members behind it. -/
theorem Layout.exists_braced_block
    (l : Layout)
    {head line : String}
    (hhead : head.isEmpty = false)
    (hline : '\x7b' ∉ line.toList) :
    ∃ members, l.block head [line] = head ++ " " ++ members ∧ Braced members := by
  have hbody : '\x7b' ∉ (l.bodyLine line).toList := by
    have hspaces : '\x7b' ∉ List.replicate l.indent ' ' := fun hmem =>
      absurd (List.eq_of_mem_replicate hmem) (by decide)
    unfold bodyLine
    split
    · decide
    · simp only [String.toList_append, String.toList_ofList, List.mem_append, not_or]
      exact ⟨⟨hspaces, hline⟩, by decide⟩
  have hjoin (text : String) : String.join [text] = text := by simp
  refine ⟨_, by rw [block, if_neg (by rw [hhead]; exact Bool.false_ne_true)], ?_⟩
  split
  · have hlines : "\x7b\n" ++ String.join [l.bodyLine line] ++ "\x7d" =
        "\x7b" ++ ("\n" ++ l.bodyLine line) ++ "\x7d" := by
      have hbreak : "\x7b\n" = "\x7b" ++ "\n" := by decide
      rw [hjoin, hbreak]
      simp only [String.append_assoc]
    rw [List.isEmpty_cons, if_neg Bool.false_ne_true, List.map_singleton, hlines]
    refine braced_around ?_
    rw [String.toList_append, List.mem_append, not_or]
    exact ⟨by decide, hbody⟩
  · have hline' : "\x7b" ++ String.join [" " ++ line] ++ " \x7d" =
        "\x7b" ++ (" " ++ line ++ " ") ++ "\x7d" := by
      have hspace : " \x7d" = " " ++ "\x7d" := by decide
      rw [hjoin, hspace]
      simp only [String.append_assoc]
    rw [List.map_singleton, hline']
    refine braced_around ?_
    simp only [String.toList_append, List.mem_append, not_or]
    exact ⟨⟨by decide, hline⟩, by decide⟩

/-- The text of the stub of a type is its definition. -/
theorem Stub.isTypeDefinition_typeText
    (l : Layout)
    (name : String)
    (kind : TypeKind) :
    IsTypeDefinition name kind (typeText l name kind) := by
  have hblock (line : String) (hline : '\x7b' ∉ line.toList) :
      ∃ members, l.block (kind.keyword ++ " " ++ name) [line] =
        kind.keyword ++ " " ++ name ++ " " ++ members ∧ Braced members := by
    refine l.exists_braced_block ?_ hline
    rw [← Bool.not_eq_true, String.isEmpty_iff]
    intro hempty
    have hkeyword := congrArg String.toList hempty
    simp at hkeyword
  have hfield := hblock "placeholder: String" (by decide)
  have hvalue := hblock "EXAMPLE_VALUE" (by decide)
  cases kind with
  | object =>
      obtain ⟨members, heq, hbraced⟩ := hfield
      rw [typeText, heq]
      exact .object hbraced
  | interface =>
      obtain ⟨members, heq, hbraced⟩ := hfield
      rw [typeText, heq]
      exact .interface hbraced
  | input =>
      obtain ⟨members, heq, hbraced⟩ := hfield
      rw [typeText, heq]
      exact .input hbraced
  | enum =>
      obtain ⟨members, heq, hbraced⟩ := hvalue
      rw [typeText, heq]
      exact .enum hbraced
  | union => exact .union (by decide)
  | scalar => exact .scalar

/-- Arguments with their types and commas between them are listed once each. -/
theorem listsArguments_intercalate
    {arguments : List String}
    (h : arguments ≠ []) :
    ListsArguments arguments (", ".intercalate (arguments.map fun a => a ++ ": String")) := by
  have htype (argument : String) : argument ++ ": String" = argument ++ ": " ++ "String" := by
    rw [String.append_assoc]
    rfl
  induction arguments with
  | nil => exact absurd rfl h
  | cons argument arguments ih =>
      cases arguments with
      | nil =>
          rw [List.map_singleton, String.intercalate_singleton, htype]
          exact .last argument (by decide)
      | cons next arguments =>
          rw [List.map_cons, List.map_cons, String.intercalate_cons_cons, htype]
          exact .more argument (by decide) (ih (List.cons_ne_nil _ _))

/-- The text of the stub of a directive is its definition. -/
theorem Stub.isDirectiveDefinition_directiveText
    (name : String)
    (arguments : List String) :
    IsDirectiveDefinition name arguments (directiveText name arguments) := by
  unfold directiveText
  split
  · next hnone =>
      rw [List.isEmpty_iff.mp hnone, String.append_empty]
      exact .bare
  · next hsome =>
      rw [← String.append_assoc, ← String.append_assoc]
      exact .given (listsArguments_intercalate (mt List.isEmpty_iff.mpr hsome))

/-- The text of a stub is the definition of what the stub stands for. -/
theorem Stub.definedBy_text
    (l : Layout)
    (stub : Stub) :
    stub.DefinedBy (stub.text l) := by
  cases stub with
  | type name kind => exact isTypeDefinition_typeText l name kind
  | directive name arguments => exact isDirectiveDefinition_directiveText name arguments

/-- Something is left of a text that does not begin with a blank. -/
theorem trim_ne_empty
    {c : Char}
    {cs : List Char}
    (htext : text.toList = c :: cs)
    (hc : Text.isBlank c = false) :
    Text.trim text ≠ "" := by
  intro h
  have hnone := congrArg String.toList h
  rw [Text.trim, String.toList_ofList, Text.trimChars, htext,
    List.dropWhile_cons_of_neg (Bool.not_eq_true _ ▸ hc), String.toList_empty,
    List.reverse_eq_nil_iff, List.dropWhile_eq_nil_iff] at hnone
  rw [hnone c (by simp)] at hc
  cases hc

/-- A definition is not blank. -/
theorem Stub.DefinedBy.trim_ne_empty
    {stub : Stub}
    (h : stub.DefinedBy text) :
    Text.trim text ≠ "" := by
  cases stub with
  | type name kind =>
      obtain ⟨tail, htext, -⟩ := IsTypeDefinition.exists_tail h
      cases kind <;> exact Render.trim_ne_empty htext (by decide)
  | directive name arguments =>
      obtain ⟨rest, htext⟩ := IsDirectiveDefinition.exists_rest h
      exact Render.trim_ne_empty htext (by decide)

/-- A document that shows the blocks of a walk, and behind them a definition for every stub. -/
structure Outline.ShownIn (outline : Outline) (l : Layout) (definitions : List String)
    (document : String) : Prop where
  joined : document = (if l.pretty then "\n\n" else " ").intercalate
    ((outline.blocks.map Text.trim).filter (fun block => !block.isEmpty) ++
      definitions.map Text.trim)
  defined : List.Forall₂ Stub.DefinedBy outline.stubs definitions

/-- The text of a document shows the blocks of its walk, and then definitions. -/
theorem Outline.shownIn_text
    (l : Layout)
    (outline : Outline) :
    outline.ShownIn l (outline.stubs.map (Stub.text l)) (outline.text l) where
  joined := by
    have hkept : ((outline.stubs.map (Stub.text l)).map Text.trim).filter
        (fun block => !block.isEmpty) = (outline.stubs.map (Stub.text l)).map Text.trim := by
      rw [List.filter_eq_self]
      intro block hblock
      obtain ⟨text, htext, rfl⟩ := List.mem_map.mp hblock
      obtain ⟨stub, -, rfl⟩ := List.mem_map.mp htext
      rw [Bool.not_eq_true', ← Bool.not_eq_true, String.isEmpty_iff]
      exact (stub.definedBy_text l).trim_ne_empty
    rw [Outline.text, Layout.document, List.map_append, List.filter_append, hkept]
  defined := by
    rw [List.forall₂_map_right_iff, List.forall₂_same]
    exact fun stub _ => stub.definedBy_text l

end Writing

end Render

namespace Grammar

section Documents

open Render

variable {g : Grammar} {o : Options}

/-- **Rendered documents are closed.**  A document shows the blocks of a walk, and behind them
one definition for each name that is missing after its events. -/
theorem render_closes_names
    {text : String}
    (h : g.render o = .ok text) :
    ∃ (outline : Outline) (definitions : List String),
      (Render.blocks g o).run [] = .ok (outline.blocks, outline.trace) ∧
        outline.ShownIn o.layout definitions text ∧
        outline.trace.ClosedBy outline.stubs ∧
        outline.trace.ClosedIn definitions := by
  obtain ⟨outline, houtline, rfl⟩ := render_eq_ok_iff.mp h
  have hclosed : outline.trace.ClosedBy outline.stubs :=
    (Symbols.records_ofTrace outline.trace).stubs_close
  have hshown := outline.shownIn_text o.layout
  exact ⟨outline, _, run_blocks_of_outline_eq_ok houtline, hshown, hclosed,
    hclosed.closedIn hshown.defined⟩

/-- A rule with a directive and an argument of it. -/
def guardedGrammar : Grammar :=
  .ofRules RuleName.directive
    [⟨RuleName.directive,
      .sequence
        [.token "@", .terminal "DirectiveName" (some (.literal "auth")),
          .terminal "ArgumentName" (some (.literal "requires")),
          .terminal "TypeName" (some (.literal "Role"))]⟩]

/-- The document of a rule with a directive: the type of the argument is missing, and so is the
directive. -/
def guardedDocument : String :=
  "\n\n".intercalate
    ["@auth requires Role",
      "type Role \x7b\n  placeholder: String\n\x7d",
      "type Query \x7b\n  placeholder: String\n\x7d",
      "directive @auth(requires: String) on SCHEMA | SCALAR | OBJECT | FIELD_DEFINITION | " ++
        "ARGUMENT_DEFINITION | INTERFACE | UNION | ENUM | ENUM_VALUE | INPUT_OBJECT | " ++
        "INPUT_FIELD_DEFINITION"]

theorem render_closes_names_guarded :
    guardedGrammar.render {} = .ok guardedDocument ∧
      ∃ (outline : Outline) (definitions : List String),
        (Render.blocks guardedGrammar {}).run [] = .ok (outline.blocks, outline.trace) ∧
          outline.ShownIn (Options.layout {}) definitions guardedDocument ∧
          outline.trace.ClosedBy outline.stubs ∧
          outline.trace.ClosedIn definitions ∧
          (∃ kind, DefinedOnce "Role" kind definitions) ∧
          Undefined "Mutation" definitions ∧
          ∃ role query auth, definitions = [role, query, auth] ∧
            IsTypeDefinition "Role" .object role ∧ IsTypeDefinition "Query" .object query ∧
            IsDirectiveDefinition "auth" ["requires"] auth := by
  have hrender : guardedGrammar.render {} = .ok guardedDocument := by decide +kernel
  obtain ⟨outline, definitions, hrun, hshown, hclosed, hdefined⟩ := render_closes_names hrender
  have hstubs : outline.stubs =
      [.type "Role" .object, .type "Query" .object, .directive "auth" ["requires"]] := by
    have htrace : outline.trace =
        [.typeReferenced "Role" .object, .directiveArgument "requires",
          .directiveReferenced "auth", .entered RuleName.directive] := by
      have hrun' : (Render.blocks guardedGrammar {}).run [] = .ok (_, _) := rfl
      exact (congrArg Prod.snd (Except.ok.inj (hrun'.symm.trans hrun))).symm
    rw [Outline.stubs, htrace]
    rfl
  have hlacks (name : String) : outline.trace.LacksType name ↔ name ∈ ["Role", "Query"] := by
    rw [← hclosed.types, hstubs]
    rfl
  have htexts := hshown.defined
  rw [hstubs] at htexts
  obtain _ | ⟨hrole, _ | ⟨hquery, _ | ⟨hauth, _ | _⟩⟩⟩ := htexts
  exact ⟨hrender, outline, _, hrun, hshown, hclosed, hdefined,
    hdefined.missing _ ((hlacks _).mpr (by decide)),
    hdefined.others _ (mt (hlacks _).mp (by decide)), _, _, _, rfl, hrole, hquery, hauth⟩

end Documents

end Grammar

end SchemaGrammar
