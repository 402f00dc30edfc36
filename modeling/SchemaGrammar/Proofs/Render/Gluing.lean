import SchemaGrammar.Proofs.Render.Spacing
import SchemaGrammar.Text.Name

/-!
# Texts on one line

On one line a space stands between two texts unless one of the characters that meet glues.  So
the text of a line is known from the first and the last characters of the texts on it: a list
between parentheses has spaces behind its commas only, and texts that neither begin nor end in a
character that glues are separated by spaces.

**Results.**
* `Layout.lineFrom_spaced`, `Layout.lineFrom_gluedLeft`, `Layout.lineFrom_gluedRight`: one more
  text on a line.
* `Layout.line_parenthesized`, `Layout.lineFrom_spacedList`: lists on a line.
* `trim_eq_self`: a text without a blank at its ends is its own trimmed form.
-/

namespace SchemaGrammar

namespace Text

/-- Nothing is trimmed from a text without blanks at its ends. -/
theorem trimChars_eq_self
    {cs : List Char}
    (hhead : ∀ c ∈ cs.head?, isBlank c = false)
    (hlast : ∀ c ∈ cs.getLast?, isBlank c = false) :
    trimChars cs = cs := by
  have hfirst : cs.dropWhile isBlank = cs := by
    rw [List.dropWhile_eq_self_iff]
    intro hlength
    rw [hhead _ (List.head?_eq_getElem? ▸ List.getElem?_eq_getElem hlength)]
    exact Bool.false_ne_true
  have hreverse : cs.reverse.dropWhile isBlank = cs.reverse := by
    rw [List.dropWhile_eq_self_iff]
    intro hlength
    rw [hlast]
    · exact Bool.false_ne_true
    · rw [← List.head?_reverse, List.head?_eq_getElem?]
      exact List.getElem?_eq_getElem hlength
  rw [trimChars, hfirst, hreverse, List.reverse_reverse]

end Text

namespace Render

/-- A text begins with a character that neither glues to what is before it nor is white space. -/
def Opens (text : String) : Prop :=
  ∃ c ∈ text.toList.head?, Layout.gluesLeft c = false ∧ Text.isBlank c = false

/-- A text ends with a character that neither glues to what follows it nor is white space. -/
def Closes (text : String) : Prop :=
  ∃ c ∈ text.toList.getLast?, Layout.gluesRight c = false ∧ Text.isBlank c = false

/-- A text begins with a character that glues to what is before it. -/
def GluesLeft (text : String) : Prop := ∃ c ∈ text.toList.head?, Layout.gluesLeft c = true

def GluesRight (text : String) : Prop := ∃ c ∈ text.toList.getLast?, Layout.gluesRight c = true

section Ends

variable {s t : String}

theorem Opens.ne_empty
    (h : Opens s) :
    s ≠ "" := by
  rintro rfl
  obtain ⟨c, hc, -⟩ := h
  cases hc

theorem Closes.ne_empty
    (h : Closes s) :
    s ≠ "" := by
  rintro rfl
  obtain ⟨c, hc, -⟩ := h
  cases hc

/-- A text opens as its first part does. -/
theorem Opens.append
    (h : Opens s)
    (t : String) :
    Opens (s ++ t) := by
  obtain ⟨c, hc, hopens⟩ := h
  refine ⟨c, ?_, hopens⟩
  rw [String.toList_append, List.head?_append, Option.mem_def.mp hc]
  rfl

theorem Closes.append
    (h : Closes t)
    (s : String) :
    Closes (s ++ t) := by
  obtain ⟨c, hc, hcloses⟩ := h
  refine ⟨c, ?_, hcloses⟩
  rw [String.toList_append, List.getLast?_append, Option.mem_def.mp hc]
  rfl

/-- A text without a blank at its ends is its own trimmed form. -/
theorem trim_eq_self
    (hopens : Opens s)
    (hcloses : Closes s) :
    Text.trim s = s := by
  obtain ⟨c, hc, -, hblank⟩ := hopens
  obtain ⟨d, hd, -, hblank'⟩ := hcloses
  rw [Text.trim, Text.trimChars_eq_self, String.ofList_toList]
  · intro x hx
    cases Option.mem_unique hx hc
    exact hblank
  · intro x hx
    cases Option.mem_unique hx hd
    exact hblank'

/-- The characters of words neither glue nor are white space. -/
theorem loose_of_isWordChar
    {c : Char}
    (h : Text.isWordChar c = true) :
    Layout.gluesLeft c = false ∧ Layout.gluesRight c = false ∧ Text.isBlank c = false := by
  have hnot : ∀ {p : Char → Bool}, (p c = true → Text.isWordChar c = false) → p c = false := by
    intro p hp
    rw [← Bool.not_eq_true]
    intro hc
    rw [hp hc] at h
    cases h
  exact ⟨hnot Layout.isWordChar_eq_false_of_gluesLeft,
    hnot Layout.isWordChar_eq_false_of_gluesRight, hnot Text.isWordChar_eq_false_of_isBlank⟩

theorem isWordChar_of_continuesName
    {c : Char}
    (h : Text.continuesName c = true) :
    Text.isWordChar c = true := by
  rw [Text.isWordChar, Bool.or_comm]
  exact h

theorem opens_of_isName
    (h : Text.isName s = true) :
    Opens s := by
  obtain ⟨c, cs, hchars, hstart, -⟩ := Text.exists_of_isName h
  have hword := isWordChar_of_continuesName (Text.continuesName_of_startsName hstart)
  obtain ⟨hleft, -, hblank⟩ := loose_of_isWordChar hword
  exact ⟨c, by rw [hchars]; rfl, hleft, hblank⟩

theorem closes_of_isName
    (h : Text.isName s = true) :
    Closes s := by
  obtain ⟨c, cs, hchars, hstart, hrest⟩ := Text.exists_of_isName h
  have hwords : ∀ d ∈ c :: cs, Text.isWordChar d = true :=
    List.forall_mem_cons.mpr
      ⟨isWordChar_of_continuesName (Text.continuesName_of_startsName hstart),
        fun d hd => isWordChar_of_continuesName (hrest d hd)⟩
  have hlast : s.toList.getLast? = some ((c :: cs).getLast (List.cons_ne_nil c cs)) := by
    rw [hchars, List.getLast?_eq_some_getLast]
  exact ⟨_, hlast, (loose_of_isWordChar (hwords _ (List.getLast_mem _))).2⟩

end Ends

namespace Layout

section Separators

variable {out next : String}

theorem separator_of_needsSpace_eq_false
    (h : needsSpace out next = false) :
    separator out false next = "" := by
  rw [separator, h]
  simp

/-- Nothing stands before a text that is glued to what is before it. -/
theorem separator_gluedLeft
    (h : GluesLeft next)
    (out : String) :
    separator out false next = "" := by
  obtain ⟨c, hc, hglues⟩ := h
  apply separator_of_needsSpace_eq_false
  rw [needsSpace, Option.mem_def.mp hc, Option.any_some, hglues]
  rfl

/-- Nothing stands behind a text that is glued to what follows it. -/
theorem separator_gluedRight
    (h : GluesRight out)
    (next : String) :
    separator out false next = "" := by
  obtain ⟨c, hc, hglues⟩ := h
  apply separator_of_needsSpace_eq_false
  rw [needsSpace, Option.mem_def.mp hc, Option.any_some, hglues, Bool.or_true]
  rfl

/-- Between other texts stands a space. -/
theorem separator_spaced
    (hout : Closes out)
    (hnext : Opens next) :
    separator out false next = " " := by
  have hempty : out.isEmpty = false := String.isEmpty_eq_false_iff.mpr hout.ne_empty
  obtain ⟨c, hc, hright, -⟩ := hout
  obtain ⟨d, hd, hleft, -⟩ := hnext
  have hspace : needsSpace out next = true := by
    rw [needsSpace, Option.mem_def.mp hc, Option.mem_def.mp hd, Option.any_some, Option.any_some,
      hright, hleft]
    rfl
  rw [separator, hempty, hspace]
  rfl

end Separators

section Lines

/-- Texts on a line behind another text. -/
def lineFrom (out : String) (texts : List String) : String :=
  inlineFrom out false (texts.map fun text => ⟨text, false⟩)

def line (texts : List String) : String := lineFrom "" texts

variable {out t : String} {ts : List String}

@[simp] theorem lineFrom_nil
    (out : String) :
    lineFrom out [] = out := rfl

theorem lineFrom_cons
    (out t : String)
    (ts : List String) :
    lineFrom out (t :: ts) = lineFrom (out ++ separator out false t ++ t) ts := rfl

theorem line_cons
    (t : String)
    (ts : List String) :
    line (t :: ts) = lineFrom t ts := by
  rw [line, lineFrom_cons]
  simp [separator]

/-- A description breaks the line in front of the texts. -/
theorem inline_description
    {description : String}
    (h : description ≠ "")
    (t : String)
    (ts : List String) :
    inline (⟨description, true⟩ :: (t :: ts).map fun text => ⟨text, false⟩) =
      lineFrom (description ++ "\n" ++ t) ts := by
  have hempty : description.isEmpty = false := String.isEmpty_eq_false_iff.mpr h
  have hnone : separator "" false description = "" := rfl
  have hbreak : separator description true t = "\n" := by
    rw [separator, hempty]
    rfl
  rw [inline, List.map_cons, inlineFrom, inlineFrom, hnone, String.append_empty,
    String.empty_append, hbreak]
  rfl

theorem lineFrom_gluedLeft
    (h : GluesLeft t)
    (out : String)
    (ts : List String) :
    lineFrom out (t :: ts) = lineFrom (out ++ t) ts := by
  rw [lineFrom_cons, separator_gluedLeft h, String.append_empty]

theorem lineFrom_gluedRight
    (h : GluesRight out)
    (t : String)
    (ts : List String) :
    lineFrom out (t :: ts) = lineFrom (out ++ t) ts := by
  rw [lineFrom_cons, separator_gluedRight h, String.append_empty]

theorem lineFrom_spaced
    (hout : Closes out)
    (ht : Opens t)
    (ts : List String) :
    lineFrom out (t :: ts) = lineFrom (out ++ " " ++ t) ts := by
  rw [lineFrom_cons, separator_spaced hout ht]

/-- A colon glues to what is before it, and a space follows. -/
theorem lineFrom_colon
    (ht : Opens t)
    (out : String)
    (ts : List String) :
    lineFrom out (":" :: t :: ts) = lineFrom (out ++ ": " ++ t) ts := by
  have hcolon : GluesLeft ":" := ⟨':', by decide, by decide⟩
  have hbehind : Closes ":" := ⟨':', by decide, by decide⟩
  have hspaced : (": " : String) = ":" ++ " " := by decide
  rw [lineFrom_gluedLeft hcolon, lineFrom_spaced (hbehind.append out) ht, hspaced,
    ← String.append_assoc]

/-- Texts that neither begin nor end in a character that glues have spaces between them. -/
theorem lineFrom_spacedList
    (hout : Closes out)
    (hopens : ∀ t ∈ ts, Opens t)
    (hcloses : ∀ t ∈ ts, Closes t) :
    lineFrom out ts = out ++ String.join (ts.map fun t => " " ++ t) := by
  induction ts generalizing out with
  | nil => simp
  | cons t ts ih =>
      obtain ⟨hopen, hopens⟩ := List.forall_mem_cons.mp hopens
      obtain ⟨hclose, hcloses⟩ := List.forall_mem_cons.mp hcloses
      rw [lineFrom_spaced hout hopen, ih (hclose.append _) hopens hcloses, List.map_cons,
        String.join_cons, String.append_assoc, String.append_assoc, String.append_assoc]

/-- Texts with spaces before them close the line as the last of them does. -/
theorem closes_append_spacedList
    (hout : Closes out)
    (hcloses : ∀ t ∈ ts, Closes t) :
    Closes (out ++ String.join (ts.map fun t => " " ++ t)) := by
  induction ts generalizing out with
  | nil => simpa using hout
  | cons t ts ih =>
      obtain ⟨hclose, hcloses⟩ := List.forall_mem_cons.mp hcloses
      rw [List.map_cons, String.join_cons, ← String.append_assoc, ← String.append_assoc]
      exact ih (hclose.append _) hcloses

/-- Items with commas between them in front of a closing parenthesis.  Only the comma is followed
by a space, whatever the items end in. -/
theorem lineFrom_items
    (hopens : ∀ t ∈ ts, Opens t)
    (out t : String) :
    lineFrom out ((t :: ts).intersperse "," ++ [")"]) =
      out ++ separator out false t ++ ", ".intercalate (t :: ts) ++ ")" := by
  have hparenthesis : GluesLeft ")" := ⟨')', by decide, by decide⟩
  have hcomma : GluesLeft "," := ⟨',', by decide, by decide⟩
  have hbehind : Closes "," := ⟨',', by decide, by decide⟩
  have hseparator : (", " : String) = "," ++ " " := by decide
  induction ts generalizing out t with
  | nil =>
      rw [List.intersperse_singleton, List.singleton_append, lineFrom_cons,
        lineFrom_gluedLeft hparenthesis, lineFrom_nil, String.intercalate_singleton]
  | cons u us ih =>
      obtain ⟨hopen, hopens⟩ := List.forall_mem_cons.mp hopens
      rw [List.intersperse_cons_cons, List.cons_append, List.cons_append, lineFrom_cons,
        lineFrom_gluedLeft hcomma, ih hopens, separator_spaced (hbehind.append _) hopen,
        String.intercalate_cons_cons, hseparator]
      simp only [String.append_assoc]

/-- **Lists between parentheses.** -/
theorem line_parenthesized
    (hopens : ∀ t ∈ ts, Opens t) :
    line ("(" :: ts.intersperse "," ++ [")"]) = "(" ++ ", ".intercalate ts ++ ")" := by
  have hparenthesis : GluesRight "(" := ⟨'(', by decide, by decide⟩
  rw [List.cons_append, line_cons]
  cases ts with
  | nil =>
      rw [List.intersperse_nil, List.nil_append, lineFrom_gluedRight hparenthesis, lineFrom_nil]
      rfl
  | cons t ts =>
      obtain ⟨-, hopens⟩ := List.forall_mem_cons.mp hopens
      rw [lineFrom_items hopens, separator_gluedRight hparenthesis, String.append_empty]

end Lines

/-- A block without a blank at its ends stands at the beginning of a document as it is. -/
theorem document_cons
    {l : Layout}
    {block : String}
    (hpretty : l.pretty = true)
    (hopens : Opens block)
    (hcloses : Closes block)
    (blocks : List String) :
    ∃ rest, l.document (block :: blocks) = "\n\n".intercalate (block :: rest) := by
  have hshown : (!block.isEmpty) = true := by
    simpa using hopens.ne_empty
  refine ⟨(blocks.map Text.trim).filter fun block => !block.isEmpty, ?_⟩
  rw [document, if_pos hpretty, List.map_cons, trim_eq_self hopens hcloses]
  congr 1
  exact List.filter_cons_of_pos hshown

end Layout

end Render

end SchemaGrammar
