import SchemaGrammar.Proofs.Render.ValueText
import SchemaGrammar.Proofs.Transform.FieldParts

/-!
# The text of a field

A field is rendered as it is written in a schema: a description on a line of its own, and behind
it the name, the arguments, the type and the directives, with spaces where one would write them.
The text of each part is known from the texts of the parts inside it, and what stands between
these from their first and last characters.

**Results.**
* `Walk.Reads`: the text of an element; `Walk.reads_sequence`: that of a sequence.
* `Walk.reads_toElement`, `FieldOptions.reads_argumentForm`, `FieldOptions.reads_directiveForm`:
  the texts of types, arguments and directives.
* `FieldOptions.said_fieldParts`: the text of a field.
-/

namespace SchemaGrammar

open Render Render.Walk

namespace Render.Walk

/-- A plain element is rendered as a text that is not empty. -/
structure Reads (e : Element) (text : String) : Prop where
  plain : e.Plain
  said : said {} e = text
  nonempty : text ≠ ""

/-- A literal is said as its text. -/
theorem said_literal
    {name : String}
    (h : isKeyword name = false ∧ isPunctuator name = false)
    (text : String) :
    said {} (FieldOptions.literal name text) = text := by
  rw [FieldOptions.literal, said_terminal]
  show (if isKeyword name || isPunctuator name then name else text) = text
  rw [h.1, h.2]
  rfl

/-- A literal reads as its text. -/
theorem reads_literal
    {name text : String}
    (hname : (isKeyword name = false ∧ isPunctuator name = false) ∧
      name ≠ RuleName.description)
    (htext : text ≠ "") :
    Reads (FieldOptions.literal name text) text :=
  ⟨.literal hname.2, said_literal hname.1 text, htext⟩

theorem reads_token
    {text : String}
    (h : text ≠ RuleName.description ∧ text ≠ "") :
    Reads (.token text) text := by
  refine ⟨.literal h.1, ?_, h.2⟩
  rw [Element.token, said_terminal]
  show (if isKeyword text || isPunctuator text then text else text) = text
  rw [ite_self]

section Sequences

variable {e : Element} {es : List Element} {text : String} {texts : List String}

theorem plain_of_reads
    (h : List.Forall₂ Reads es texts) :
    ∀ e ∈ es, e.Plain := by
  induction h with
  | nil => exact List.forall_mem_nil _
  | cons h _ ih => exact List.forall_mem_cons.mpr ⟨h.plain, ih⟩

theorem flatMap_partsOf
    (h : List.Forall₂ Reads es texts) :
    (es.flatMap fun e => partsOf (Walk.said {} e) e) = texts.map fun text => ⟨text, false⟩ := by
  induction h with
  | nil => rfl
  | @cons e text es texts h _ ih =>
      rw [List.flatMap_cons, ih, h.said, partsOf_of_ne_empty h.nonempty,
        isDescription_of_plain h.plain]
      rfl

/-- A sequence is rendered as a line of the texts of its parts. -/
theorem reads_sequence
    (h : List.Forall₂ Reads (e :: es) (text :: texts)) :
    Reads (.sequence (e :: es)) (Layout.line (text :: texts)) := by
  have hplain := plain_of_reads h
  refine ⟨.sequence hplain, ?_, ?_⟩
  · rw [said_sequence fun d hd => .plain (hplain d hd), flatMap_partsOf h]
    rfl
  · cases h with
    | cons hfirst _ =>
        obtain ⟨rest, hrest⟩ := Layout.exists_inlineFrom_eq_append text false
          (texts.map fun text => ⟨text, false⟩)
        rw [Layout.line_cons, Layout.lineFrom, hrest, Ne, String.append_eq_empty_iff]
        exact fun h => hfirst.nonempty h.1

/-- Separators may be put in on both sides. -/
theorem forall₂_intersperse
    {α β : Type}
    {R : α → β → Prop}
    {x : α}
    {y : β}
    (hxy : R x y) :
    ∀ {as : List α} {bs : List β}, List.Forall₂ R as bs →
      List.Forall₂ R (as.intersperse x) (bs.intersperse y)
  | _, _, .nil => .nil
  | _, _, .cons h .nil => .cons h .nil
  | _, _, .cons h (.cons h' hrest) => by
      rw [List.intersperse_cons_cons, List.intersperse_cons_cons]
      exact .cons h (.cons hxy (forall₂_intersperse hxy (.cons h' hrest)))

/-- Items in parentheses read as their texts with commas between them. -/
theorem reads_parenthesized
    (h : List.Forall₂ Reads es texts)
    (hopens : ∀ text ∈ texts, Opens text) :
    Reads (FieldOptions.parenthesized es) ("(" ++ ", ".intercalate texts ++ ")") := by
  have hcomma : Reads (.token ",") "," := reads_token (by decide)
  have hclosing : List.Forall₂ Reads [Element.token ")"] [")"] :=
    .cons (reads_token (by decide)) .nil
  rw [← Layout.line_parenthesized hopens]
  exact reads_sequence (.cons (reads_token (by decide))
    (List.rel_append (forall₂_intersperse hcomma h) hclosing))

/-- A type is rendered as it is displayed. -/
theorem reads_toElement
    {t : TypeRef}
    (h : Text.isName t.namedType = true) :
    Reads t.toElement t.display := by
  induction t with
  | named name => exact reads_literal (by decide) (opens_of_isName h).ne_empty
  | list inner ih =>
      have hopening : GluesRight "[" := ⟨'[', by decide, by decide⟩
      have hclosing : GluesLeft "]" := ⟨']', by decide, by decide⟩
      have hparts : List.Forall₂ Reads [.token "[", inner.toElement, .token "]"]
          ["[", inner.display, "]"] :=
        .cons (reads_token (by decide)) (.cons (ih h) (.cons (reads_token (by decide)) .nil))
      have hline : Layout.line ["[", inner.display, "]"] = (TypeRef.list inner).display := by
        rw [Layout.line_cons, Layout.lineFrom_gluedRight hopening,
          Layout.lineFrom_gluedLeft hclosing, Layout.lineFrom_nil, TypeRef.display]
      rw [← hline]
      exact reads_sequence hparts
  | nonNull inner ih =>
      have hbang : GluesLeft "!" := ⟨'!', by decide, by decide⟩
      have hparts : List.Forall₂ Reads [inner.toElement, .token "!"] [inner.display, "!"] :=
        .cons (ih h) (.cons (reads_token (by decide)) .nil)
      have hline : Layout.line [inner.display, "!"] = (TypeRef.nonNull inner).display := by
        rw [Layout.line_cons, Layout.lineFrom_gluedLeft hbang, Layout.lineFrom_nil,
          TypeRef.display]
      rw [← hline]
      exact reads_sequence hparts

end Sequences

end Render.Walk

namespace TypeRef

variable {t : TypeRef}

theorem opens_display
    (h : Text.isName t.namedType = true) :
    Opens t.display := by
  induction t with
  | named name => exact opens_of_isName h
  | list inner _ =>
      have hbracket : Opens "[" := ⟨'[', by decide, by decide⟩
      rw [display, String.append_assoc]
      exact hbracket.append _
  | nonNull inner ih => exact (ih h).append "!"

theorem closes_display
    (h : Text.isName t.namedType = true) :
    Closes t.display := by
  cases t with
  | named name => exact closes_of_isName h
  | list inner =>
      have hbracket : Closes "]" := ⟨']', by decide, by decide⟩
      exact hbracket.append _
  | nonNull inner =>
      have hbang : Closes "!" := ⟨'!', by decide, by decide⟩
      exact hbang.append _

end TypeRef

namespace FieldOptions

section Forms

/-- Items between parentheses, with commas between them; nothing if there is none. -/
def listText (items : List String) : String :=
  if items.isEmpty then "" else "(" ++ ", ".intercalate items ++ ")"

/-- The type that a text denotes, as it is displayed. -/
def typeText (source : String) : String := (typeOf source).display

/-- A default behind an argument. -/
def defaultText : Option Json → String
  | none => ""
  | some v => " = " ++ v.compact

def argumentText (a : FieldArgument) : String :=
  a.name ++ ": " ++ typeText a.type ++ defaultText a.default

def directiveArgumentText (a : DirectiveArgument) : String := a.name ++ ": " ++ a.value.compact

def directiveText (d : FieldDirective) : String :=
  "@" ++ d.name ++ listText (d.arguments.map directiveArgumentText)

/-- A description in quotes on a line of its own. -/
def descriptionText : Option String → String
  | none => ""
  | some text => (Json.str text).compact ++ "\n"

/-- The field as it is written in a schema. -/
def sdlText (o : FieldOptions) : String :=
  descriptionText o.description ++ o.fieldName ++ listText (o.arguments.map argumentText) ++ ": " ++
    typeText o.fieldType ++ String.join (o.directives.map fun d => " " ++ directiveText d)

/-- The defaults of the arguments and the values that the directives are given. -/
def values (o : FieldOptions) : List Json :=
  o.arguments.flatMap (·.default.toList) ++ o.directives.flatMap fun d => d.arguments.map (·.value)

/-- A value that is no text is written in its compact form. -/
theorem valueText_eq_compact
    {v : Json}
    (h : ∀ text, v ≠ .str text) :
    valueText v = v.compact := by
  cases v with
  | str text => exact absurd rfl (h text)
  | _ => rfl

theorem reads_value
    {v : Json}
    (h : ∀ text, v ≠ .str text) :
    Reads (literal "Value" (valueText v)) v.compact := by
  rw [valueText_eq_compact h]
  exact reads_literal (by decide) (opens_compact v).ne_empty

/-- A default stands behind an equals sign. -/
theorem reads_default
    {v : Json}
    (h : ∀ text, v ≠ .str text) :
    Reads (.sequence [.token "=", literal "Value" (valueText v)]) ("= " ++ v.compact) := by
  have hequals : Closes "=" := ⟨'=', by decide, by decide⟩
  have hspaced : ("= " : String) = "=" ++ " " := by decide
  have hline : Layout.line ["=", v.compact] = "= " ++ v.compact := by
    rw [Layout.line_cons, Layout.lineFrom_spaced hequals (opens_compact v), Layout.lineFrom_nil,
      hspaced]
  rw [← hline]
  exact reads_sequence (.cons (reads_token (by decide)) (.cons (reads_value h) .nil))

/-- An argument reads as its name, its type and its default. -/
theorem reads_argumentForm
    {a : FieldArgument}
    (hname : Text.isName a.name = true)
    (htype : Text.isName (typeOf a.type).namedType = true)
    (hvalue : ∀ v ∈ a.default, ∀ text, v ≠ .str text) :
    Reads (argumentForm a (typeOf a.type)) (argumentText a) := by
  have hparts : List.Forall₂ Reads
      [literal "ArgumentName" a.name, .token ":", (typeOf a.type).toElement]
      [a.name, ":", typeText a.type] :=
    .cons (reads_literal (by decide) (opens_of_isName hname).ne_empty)
      (.cons (reads_token (by decide)) (.cons (reads_toElement htype) .nil))
  have hopens : Opens (typeText a.type) := TypeRef.opens_display htype
  have hcloses : Closes (typeText a.type) := TypeRef.closes_display htype
  unfold argumentForm argumentText
  cases hdefault : a.default with
  | none =>
      have hline : Layout.line [a.name, ":", typeText a.type] =
          a.name ++ ": " ++ typeText a.type ++ defaultText none := by
        rw [Layout.line_cons, Layout.lineFrom_colon hopens, Layout.lineFrom_nil, defaultText,
          String.append_empty]
      rw [← hline]
      exact reads_sequence hparts
  | some v =>
      have hequals : Opens ("= " ++ v.compact) := Opens.append ⟨'=', by decide, by decide⟩ _
      have hline : Layout.line [a.name, ":", typeText a.type, "= " ++ v.compact] =
          a.name ++ ": " ++ typeText a.type ++ defaultText (some v) := by
        have hspaced : (" = " : String) = " " ++ "= " := by decide
        rw [Layout.line_cons, Layout.lineFrom_colon hopens,
          Layout.lineFrom_spaced (hcloses.append _) hequals, Layout.lineFrom_nil, defaultText,
          hspaced]
        simp only [String.append_assoc]
      rw [← hline]
      exact reads_sequence (List.rel_append hparts (.cons (reads_default (hvalue v hdefault)) .nil))

theorem reads_directiveArgumentForm
    {a : DirectiveArgument}
    (hname : Text.isName a.name = true)
    (hvalue : ∀ text, a.value ≠ .str text) :
    Reads (directiveArgumentForm a) (directiveArgumentText a) := by
  have hline : Layout.line [a.name, ":", a.value.compact] = directiveArgumentText a := by
    rw [Layout.line_cons, Layout.lineFrom_colon (opens_compact a.value), Layout.lineFrom_nil,
      directiveArgumentText]
  rw [← hline]
  exact reads_sequence (.cons (reads_literal (by decide) (opens_of_isName hname).ne_empty)
    (.cons (reads_token (by decide)) (.cons (reads_value hvalue) .nil)))

section Lists

variable {out : String}

def listTexts (items : List String) : List String :=
  if items.isEmpty then [] else [listText items]

theorem reads_list
    {α : Type}
    {form : α → Element}
    {text : α → String}
    {as : List α}
    (h : ∀ a ∈ as, Reads (form a) (text a))
    (hopens : ∀ a ∈ as, Opens (text a)) :
    List.Forall₂ Reads (if as.isEmpty then [] else [parenthesized (as.map form)])
      (listTexts (as.map text)) := by
  rw [listTexts, List.isEmpty_map]
  split
  · exact .nil
  · next hne =>
      have hitems : List.Forall₂ Reads (as.map form) (as.map text) := by
        rw [List.forall₂_map_left_iff, List.forall₂_map_right_iff, List.forall₂_same]
        exact h
      have hlist := reads_parenthesized hitems (List.forall_mem_map.mpr hopens)
      rw [listText, List.isEmpty_map, if_neg hne]
      exact .cons hlist .nil

/-- A list of texts in parentheses is joined to the line. -/
theorem lineFrom_listTexts
    (out : String)
    (items rest : List String) :
    Layout.lineFrom out (listTexts items ++ rest) =
      Layout.lineFrom (out ++ listText items) rest := by
  unfold listTexts
  split
  · next hempty => rw [List.nil_append, listText, if_pos hempty, String.append_empty]
  · next hne =>
      have hparenthesis : GluesLeft (listText items) := by
        refine ⟨'(', ?_, by decide⟩
        rw [listText, if_neg hne, String.append_assoc, String.toList_append]
        rfl
      rw [List.singleton_append, Layout.lineFrom_gluedLeft hparenthesis]

theorem closes_append_listText
    (h : Closes out)
    (items : List String) :
    Closes (out ++ listText items) := by
  have hparenthesis : Closes ")" := ⟨')', by decide, by decide⟩
  unfold listText
  split
  · rwa [String.append_empty]
  · exact (hparenthesis.append _).append out

end Lists

theorem opens_argumentText
    {a : FieldArgument}
    (hname : Text.isName a.name = true) :
    Opens (argumentText a) := by
  unfold argumentText
  exact (((opens_of_isName hname).append _).append _).append _

theorem opens_directiveArgumentText
    {a : DirectiveArgument}
    (hname : Text.isName a.name = true) :
    Opens (directiveArgumentText a) := by
  unfold directiveArgumentText
  exact ((opens_of_isName hname).append _).append _

section Directives

variable {d : FieldDirective}

/-- A directive reads as its sign, its name and its arguments. -/
theorem reads_directiveForm
    (hname : Text.isName d.name = true)
    (harguments : ∀ a ∈ d.arguments, Text.isName a.name = true)
    (hvalues : ∀ a ∈ d.arguments, ∀ text, a.value ≠ .str text) :
    Reads (directiveForm d) (directiveText d) := by
  have hat : GluesRight "@" := ⟨'@', by decide, by decide⟩
  have hlist : List.Forall₂ Reads
      (if d.arguments.isEmpty then [] else [parenthesized (d.arguments.map directiveArgumentForm)])
      (listTexts (d.arguments.map directiveArgumentText)) :=
    reads_list (fun a ha => reads_directiveArgumentForm (harguments a ha) (hvalues a ha))
      fun a ha => opens_directiveArgumentText (harguments a ha)
  have hline : Layout.line ("@" :: d.name :: listTexts (d.arguments.map directiveArgumentText)) =
      directiveText d := by
    rw [Layout.line_cons, Layout.lineFrom_gluedRight hat, ← List.append_nil (listTexts _),
      lineFrom_listTexts, Layout.lineFrom_nil, directiveText]
  rw [← hline]
  exact reads_sequence (.cons (reads_token (by decide))
    (.cons (reads_literal (by decide) (opens_of_isName hname).ne_empty) hlist))

theorem opens_directiveText
    (d : FieldDirective) :
    Opens (directiveText d) := by
  have hat : Opens "@" := ⟨'@', by decide, by decide⟩
  exact (hat.append d.name).append _

theorem closes_directiveText
    (hname : Text.isName d.name = true) :
    Closes (directiveText d) :=
  closes_append_listText ((closes_of_isName hname).append "@") _

end Directives

section Field

variable {o : FieldOptions}

/-- A description is a part of its own that ends in a line break. -/
theorem flatMap_partsOf_description
    (description : Option String) :
    (descriptionElements description).flatMap (fun e => partsOf (Walk.said {} e) e) =
      description.toList.map fun text => ⟨(Json.str text).compact, true⟩ := by
  cases description with
  | none => rfl
  | some text =>
      rw [descriptionElements, Option.toList_some, List.map_singleton, List.flatMap_singleton,
        said_literal (by decide), partsOf_of_ne_empty (opens_compact _).ne_empty]
      rfl

/-- The parts of a field on the line behind its description. -/
def lineParts (o : FieldOptions) : List Element :=
  literal "Name" o.fieldName ::
    ((if o.arguments.isEmpty then []
      else [parenthesized (o.arguments.map fun a => argumentForm a (typeOf a.type))]) ++
    (.token ":" :: (typeOf o.fieldType).toElement :: o.directives.map directiveForm))

theorem fieldParts_eq
    (o : FieldOptions) :
    o.fieldParts = descriptionElements o.description ++ o.lineParts := by
  simp [fieldParts, lineParts]

def lineTexts (o : FieldOptions) : List String :=
  listTexts (o.arguments.map argumentText) ++
    (":" :: typeText o.fieldType :: o.directives.map directiveText)

/-- A field reads as its name and what belongs to it. -/
theorem reads_lineParts
    (ho : o.Valid)
    (hvalues : ∀ v ∈ o.values, ∀ text, v ≠ .str text) :
    List.Forall₂ Reads o.lineParts (o.fieldName :: o.lineTexts) := by
  have hdefaults : ∀ a ∈ o.arguments, ∀ v ∈ a.default, ∀ text, v ≠ .str text := by
    intro a ha v hv
    refine hvalues v (List.mem_append_left _ (List.mem_flatMap.mpr ⟨a, ha, ?_⟩))
    exact Option.mem_toList.mpr hv
  have hgiven : ∀ d ∈ o.directives, ∀ a ∈ d.arguments, ∀ text, a.value ≠ .str text := by
    intro d hd a ha
    refine hvalues a.value (List.mem_append_right _ (List.mem_flatMap.mpr ⟨d, hd, ?_⟩))
    exact List.mem_map_of_mem ha
  have hname : Reads (literal "Name" o.fieldName) o.fieldName :=
    reads_literal (by decide) (opens_of_isName ho.fieldName).ne_empty
  have harguments : List.Forall₂ Reads
      (if o.arguments.isEmpty then []
        else [parenthesized (o.arguments.map fun a => argumentForm a (typeOf a.type))])
      (listTexts (o.arguments.map argumentText)) := by
    refine reads_list (fun a ha => ?_) fun a ha => opens_argumentText (ho.arguments a ha).1
    obtain ⟨hargument, htype⟩ := ho.arguments a ha
    exact reads_argumentForm hargument (TypeRef.isName_namedType htype) (hdefaults a ha)
  have htype := reads_toElement (TypeRef.isName_namedType ho.fieldType)
  have hdirectives : List.Forall₂ Reads (o.directives.map directiveForm)
      (o.directives.map directiveText) := by
    rw [List.forall₂_map_left_iff, List.forall₂_map_right_iff, List.forall₂_same]
    intro d hd
    obtain ⟨hdirective, hnames⟩ := ho.directives d hd
    exact reads_directiveForm hdirective hnames (hgiven d hd)
  exact .cons hname (List.rel_append harguments
    (.cons (reads_token (by decide)) (.cons htype hdirectives)))

/-- The line of a field. -/
theorem lineFrom_lineTexts
    (ho : o.Valid)
    (out : String) :
    Layout.lineFrom out o.lineTexts =
      out ++ listText (o.arguments.map argumentText) ++ ": " ++ typeText o.fieldType ++
        String.join (o.directives.map fun d => " " ++ directiveText d) := by
  have htype : Text.isName (typeOf o.fieldType).namedType = true :=
    TypeRef.isName_namedType ho.fieldType
  have hopens : Opens (typeText o.fieldType) := TypeRef.opens_display htype
  have hcloses : Closes (typeText o.fieldType) := TypeRef.closes_display htype
  rw [lineTexts, lineFrom_listTexts, Layout.lineFrom_colon hopens,
    Layout.lineFrom_spacedList (hcloses.append _), List.map_map]
  · rfl
  · exact List.forall_mem_map.mpr fun d _ => opens_directiveText d
  · exact List.forall_mem_map.mpr fun d hd => closes_directiveText (ho.directives d hd).1

/-- **The text of a field.** -/
theorem said_fieldParts
    (ho : o.Valid)
    (hvalues : ∀ v ∈ o.values, ∀ text, v ≠ .str text) :
    Walk.said {} (.sequence o.fieldParts) = o.sdlText := by
  have hreads := reads_lineParts ho hvalues
  have hsayable : ∀ e ∈ o.fieldParts, e.Sayable := by
    intro e he
    rw [fieldParts_eq] at he
    rcases List.mem_append.mp he with he | he
    · obtain ⟨text, -, rfl⟩ := List.mem_map.mp he
      exact .description _
    · exact .plain (plain_of_reads hreads e he)
  have hline := lineFrom_lineTexts ho (descriptionText o.description ++ o.fieldName)
  rw [said_sequence hsayable, fieldParts_eq, List.flatMap_append, flatMap_partsOf hreads,
    flatMap_partsOf_description, sdlText, ← hline]
  cases o.description with
  | none =>
      rw [descriptionText, String.empty_append]
      exact Layout.line_cons o.fieldName o.lineTexts
  | some text =>
      rw [descriptionText, ← Layout.inline_description (opens_compact _).ne_empty]
      rfl

end Field

end Forms

end FieldOptions

end SchemaGrammar
