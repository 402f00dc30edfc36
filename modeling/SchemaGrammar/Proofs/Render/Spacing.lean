import SchemaGrammar.Proofs.Render.Joining
import SchemaGrammar.Proofs.Text.Token
import SchemaGrammar.Render.Symbols
import Mathlib.Data.List.Forall2

/-!
# Layouts add white space and nothing else

Whatever a layout puts between texts is white space, and where it puts nothing one of the two
characters that meet belongs to no word.  So the tokens of joined texts are the tokens of the
texts in order, whatever the layout; and there is something to be seen if and only if there is
for one of the texts.

**Results.**
* `Layout.tokens_sequence`, `Layout.tokens_lines`, `Layout.tokens_document`: the tokens of
  joined texts.
* `Layout.sameTokens_sequence`, `Layout.sameTokens_lines`: the same texts under two layouts.
* `Stub.tokens_text`: the tokens of a stub do not depend on the layout.
-/

namespace SchemaGrammar.Render

open Text (tokens AllBlank)

namespace Layout

section Inline

theorem isWordChar_eq_false_of_gluesLeft
    {c : Char}
    (h : gluesLeft c = true) :
    Text.isWordChar c = false := by
  simp only [gluesLeft, Bool.or_eq_true, beq_iff_eq] at h
  rcases h with ((((rfl | rfl) | rfl) | rfl) | rfl) | rfl <;> decide

theorem isWordChar_eq_false_of_gluesRight
    {c : Char}
    (h : gluesRight c = true) :
    Text.isWordChar c = false := by
  simp only [gluesRight, Bool.or_eq_true, beq_iff_eq] at h
  rcases h with (rfl | rfl) | rfl <;> decide

/-- Texts without a space between them meet in a character that belongs to no word. -/
theorem apart_of_needsSpace_eq_false
    {left right : String}
    (h : needsSpace left right = false) :
    Text.Apart left.toList right.toList := by
  intro x hx y hy
  unfold needsSpace at h
  rw [Option.mem_def.mp hx, Option.mem_def.mp hy, Bool.not_eq_false', Bool.or_eq_true] at h
  rcases h with h | h
  · rw [isWordChar_eq_false_of_gluesLeft h, Bool.and_false]
  · rw [isWordChar_eq_false_of_gluesRight h, Bool.false_and]

/-- Neither a separator nor its absence changes the tokens. -/
theorem tokens_separator
    (out : String)
    (afterDescription : Bool)
    (next : String) :
    tokens (out ++ separator out afterDescription next ++ next) = tokens out ++ tokens next := by
  unfold separator
  split
  · next hempty =>
      rw [String.isEmpty_iff.mp hempty]
      simp
  · split
    · exact Text.tokens_append_allBlank_append out (by decide) (by decide) next
    · split
      · exact Text.tokens_append_allBlank_append out (by decide) (by decide) next
      · next hspace =>
          rw [String.append_empty]
          exact Text.tokens_append (apart_of_needsSpace_eq_false (Bool.of_not_eq_true hspace))

/-- The tokens of a line are those of its parts. -/
theorem tokens_inlineFrom
    (out : String)
    (afterDescription : Bool)
    (ps : List Part) :
    tokens (inlineFrom out afterDescription ps) =
      tokens out ++ ps.flatMap fun p => tokens p.text := by
  induction ps generalizing out afterDescription with
  | nil => exact (List.append_nil _).symm
  | cons p ps ih =>
      rw [inlineFrom, ih, tokens_separator, List.flatMap_cons, List.append_assoc]

theorem tokens_inline
    (ps : List Part) :
    tokens (inline ps) = ps.flatMap fun p => tokens p.text :=
  tokens_inlineFrom "" false ps

end Inline

section Blocks

variable (l : Layout)

/-- The tokens of joined parts are those of the parts. -/
theorem tokens_join
    (ps : List Part) :
    tokens (l.join ps) = ps.flatMap fun p => tokens p.text := by
  unfold join
  split
  · exact tokens_inline ps
  · rw [Text.tokens_intercalate (by decide) (by decide), List.flatMap_map]

/-- An indented line ends its last token. -/
theorem tokens_bodyLine_append
    (line rest : String) :
    tokens (l.bodyLine line ++ rest) = tokens line ++ tokens rest := by
  have hindent : AllBlank (String.ofList (List.replicate l.indent ' ')).toList := by
    intro c hc
    rw [String.toList_ofList] at hc
    rw [List.eq_of_mem_replicate hc]
    decide
  unfold bodyLine
  rw [Text.tokens_append_allBlank_append _ (by decide) (by decide)]
  split
  · next hempty => rw [String.isEmpty_iff.mp hempty]
  · rw [Text.tokens_allBlank_append hindent]

theorem tokens_join_bodyLine_append
    (lines : List String)
    (rest : String) :
    tokens (String.join (lines.map l.bodyLine) ++ rest) = lines.flatMap tokens ++ tokens rest := by
  induction lines with
  | nil =>
      rw [List.map_nil, String.join_nil, String.empty_append]
      rfl
  | cons line lines ih =>
      rw [List.map_cons, String.join_cons, String.append_assoc, tokens_bodyLine_append, ih,
        List.flatMap_cons, List.append_assoc]

/-- Lines behind a text, each of them behind a space. -/
theorem tokens_append_join_spaces
    (out : String)
    (lines : List String) :
    tokens (out ++ String.join (lines.map fun line => " " ++ line)) =
      tokens out ++ lines.flatMap tokens := by
  induction lines generalizing out with
  | nil =>
      rw [List.map_nil, String.join_nil, String.append_empty]
      exact (List.append_nil _).symm
  | cons line lines ih =>
      rw [List.map_cons, String.join_cons, ← String.append_assoc, ih, ← String.append_assoc,
        Text.tokens_append_allBlank_append out (by decide) (by decide), List.flatMap_cons,
        List.append_assoc]

/-- A head, an opening brace, lines and a closing brace. -/
theorem tokens_block
    (head : String)
    (lines : List String) :
    tokens (l.block head lines) =
      tokens head ++ (tokens "\x7b" ++ lines.flatMap tokens ++ tokens "\x7d") := by
  have hhead : ∀ body, tokens ((if head.isEmpty then "" else head ++ " ") ++ body) =
      tokens head ++ tokens body := by
    intro body
    split
    · next hempty =>
        rw [String.isEmpty_iff.mp hempty, String.empty_append]
        rfl
    · exact Text.tokens_append_allBlank_append head (by decide) (by decide) body
  have hopen : ("\x7b\n" : String) = "\x7b" ++ "\n" := by decide
  have hclose : (" \x7d" : String) = " " ++ "\x7d" := by decide
  unfold block
  rw [hhead]
  congr 1
  split
  · split
    · next hnil =>
        rw [List.isEmpty_iff.mp hnil]
        decide
    · rw [hopen, String.append_assoc, String.append_assoc,
        ← String.append_assoc, Text.tokens_append_allBlank_append "\x7b" (by decide) (by decide),
        tokens_join_bodyLine_append, List.append_assoc]
  · rw [hclose, ← String.append_assoc,
      Text.tokens_append_allBlank_append _ (by decide) (by decide), tokens_append_join_spaces]

/-- A split at the last match loses nothing. -/
theorem splitLast_eq_some
    {α : Type}
    {p : α → Bool}
    {as before behind : List α}
    (h : splitLast p as = some (before, behind)) :
    ∃ a, p a = true ∧ as = before ++ a :: behind := by
  unfold splitLast at h
  rw [Option.map_eq_some_iff] at h
  obtain ⟨⟨first, last⟩, hsplit, heq⟩ := h
  cases heq
  obtain ⟨a, ha, hreverse⟩ := splitFirst_eq_some hsplit
  refine ⟨a, ha, ?_⟩
  rw [← List.reverse_reverse as, hreverse]
  simp

/-- A sequence is joined in a row, or has a block between its first opening and its last closing
brace. -/
theorem sequence_cases
    (ps : List Part) :
    l.sequence ps = l.join ps ∨
      ∃ head body tail : List Part, ∃ first last : Part,
        first.text = "\x7b" ∧ last.text = "\x7d" ∧
        ps = head ++ first :: (body ++ last :: tail) ∧
        l.sequence ps =
          let out := l.block (inline head) (body.flatMap fun p => Text.lines p.text)
          if (inline tail).isEmpty then out else out ++ " " ++ inline tail := by
  unfold sequence join
  split
  · unfold prettySequence
    split
    · exact .inl rfl
    · next head rest hfirst =>
        split
        · exact .inl rfl
        · next body tail hlast =>
            obtain ⟨first, htext, rfl⟩ := splitFirst_eq_some hfirst
            obtain ⟨last, htext', rfl⟩ := splitLast_eq_some hlast
            exact .inr ⟨head, body, tail, first, last, eq_of_beq htext, eq_of_beq htext', rfl, rfl⟩
  · exact .inl rfl

/-- **Tokens of a sequence.**  They are the tokens of its parts. -/
theorem tokens_sequence
    (ps : List Part) :
    tokens (l.sequence ps) = ps.flatMap fun p => tokens p.text := by
  rcases l.sequence_cases ps with hjoin | ⟨head, body, tail, first, last, hfirst, hlast, rfl, heq⟩
  · rw [hjoin, tokens_join]
  · have hbody : (body.flatMap fun p => Text.lines p.text).flatMap tokens =
        body.flatMap fun p => tokens p.text := by
      rw [List.flatMap_assoc]
      exact List.flatMap_congr fun p _ => Text.flatMap_tokens_lines p.text
    have hblock : tokens (l.block (inline head) (body.flatMap fun p => Text.lines p.text)) =
        (head ++ first :: (body ++ [last])).flatMap fun p => tokens p.text := by
      rw [tokens_block, tokens_inline, hbody, List.flatMap_append, List.flatMap_cons,
        List.flatMap_append, List.flatMap_singleton, hfirst, hlast, List.append_assoc]
    have hparts : head ++ first :: (body ++ last :: tail) =
        (head ++ first :: (body ++ [last])) ++ tail := by
      simp
    rw [heq, hparts, List.flatMap_append, ← hblock, ← tokens_inline tail]
    dsimp only
    split
    · next hempty =>
        rw [String.isEmpty_iff.mp hempty]
        exact (List.append_nil _).symm
    · exact Text.tokens_append_allBlank_append _ (by decide) (by decide) _

/-- Texts that are left out because they are empty have no tokens. -/
theorem flatMap_tokens_filter
    (texts : List String) :
    (texts.filter fun text => !text.isEmpty).flatMap tokens = texts.flatMap tokens := by
  induction texts with
  | nil => rfl
  | cons text texts ih =>
      rw [List.filter_cons, List.flatMap_cons]
      split
      · rw [List.flatMap_cons, ih]
      · next hempty =>
          have htext : text = "" := by simpa using hempty
          rw [ih, htext]
          rfl

theorem tokens_lines
    (items : List String) :
    tokens (l.lines items) = items.flatMap tokens := by
  unfold lines
  rw [← flatMap_tokens_filter items]
  split <;> exact Text.tokens_intercalate (by decide) (by decide) _

/-- The tokens of a document are those of its blocks. -/
theorem tokens_document
    (blocks : List String) :
    tokens (l.document blocks) = blocks.flatMap tokens := by
  have htrim : (blocks.map Text.trim).flatMap tokens = blocks.flatMap tokens := by
    rw [List.flatMap_map]
    exact List.flatMap_congr fun block _ => Text.tokens_trim block
  unfold document
  rw [← htrim, ← flatMap_tokens_filter (blocks.map Text.trim)]
  split <;> exact Text.tokens_intercalate (by decide) (by decide) _

end Blocks

section Emptiness

variable (l : Layout)

theorem block_ne_empty
    (head : String)
    (lines : List String) :
    l.block head lines ≠ "" := by
  unfold block
  rw [Ne, String.append_eq_empty_iff]
  rintro ⟨-, hbody⟩
  split at hbody
  · split at hbody
    · exact absurd hbody (by decide)
    · simp [String.append_eq_empty_iff] at hbody
  · simp [String.append_eq_empty_iff] at hbody

theorem sequence_ne_empty
    {ps : List Part}
    (hps : ∀ p ∈ ps, p.text ≠ "")
    (hne : ps ≠ []) :
    l.sequence ps ≠ "" := by
  rcases l.sequence_cases ps with hjoin | ⟨head, body, tail, first, last, -, -, -, heq⟩
  · rw [hjoin]
    exact join_ne_empty hps hne
  · rw [heq]
    dsimp only
    split
    · exact l.block_ne_empty _ _
    · simp [String.append_eq_empty_iff]

theorem sequence_nil : l.sequence [] = "" := by
  unfold sequence
  split
  · rfl
  · rfl

/-- Lines are empty if all of their items are. -/
theorem lines_eq_empty_iff
    (items : List String) :
    l.lines items = "" ↔ ∀ item ∈ items, item = "" := by
  have hshown : (items.filter fun item => !item.isEmpty) = [] ↔ ∀ item ∈ items, item = "" := by
    rw [List.filter_eq_nil_iff]
    simp
  unfold lines
  rw [← hshown]
  constructor
  · exact filter_eq_nil_of_intercalate_eq_empty
  · intro hnil
    rw [hnil, String.intercalate_nil]

end Emptiness

end Layout

section SameTokens

/-- Texts with the same tokens, neither of them empty unless the other is. -/
structure SameTokens (s t : String) : Prop where
  tokens : tokens s = tokens t
  empty : s = "" ↔ t = ""

theorem sameTokens_refl
    (s : String) :
    SameTokens s s :=
  ⟨rfl, Iff.rfl⟩

/-- Parts with the same tokens that are both to be seen. -/
structure SameParts (p q : Part) : Prop where
  text : SameTokens p.text q.text
  shown : p.text ≠ ""

variable {texts texts' : List String} {ps qs : List Part}

theorem flatMap_tokens_congr
    (h : List.Forall₂ SameTokens texts texts') :
    texts.flatMap tokens = texts'.flatMap tokens := by
  induction h with
  | nil => rfl
  | cons h _ ih => rw [List.flatMap_cons, List.flatMap_cons, h.tokens, ih]

/-- Parts that are the same have the same tokens, and all of them are to be seen. -/
theorem sameParts_all
    (h : List.Forall₂ SameParts ps qs) :
    ((ps.flatMap fun p => tokens p.text) = qs.flatMap fun q => tokens q.text) ∧
      (∀ p ∈ ps, p.text ≠ "") ∧ ∀ q ∈ qs, q.text ≠ "" := by
  induction h with
  | nil => exact ⟨rfl, List.forall_mem_nil _, List.forall_mem_nil _⟩
  | cons h _ ih =>
      obtain ⟨htokens, hps, hqs⟩ := ih
      refine ⟨?_, ?_, ?_⟩
      · rw [List.flatMap_cons, List.flatMap_cons, h.text.tokens, htokens]
      · exact List.forall_mem_cons.mpr ⟨h.shown, hps⟩
      · exact List.forall_mem_cons.mpr ⟨fun hq => h.shown (h.text.empty.mpr hq), hqs⟩

namespace Layout

/-- **One sequence under two layouts.** -/
theorem sameTokens_sequence
    (l l' : Layout)
    (h : List.Forall₂ SameParts ps qs) :
    SameTokens (l.sequence ps) (l'.sequence qs) := by
  obtain ⟨htokens, hps, hqs⟩ := sameParts_all h
  refine ⟨by rw [tokens_sequence, tokens_sequence, htokens], ?_⟩
  cases h with
  | nil => rw [sequence_nil, sequence_nil]
  | cons _ _ =>
      have hleft := l.sequence_ne_empty hps (List.cons_ne_nil _ _)
      have hright := l'.sequence_ne_empty hqs (List.cons_ne_nil _ _)
      exact iff_of_false hleft hright

/-- Items with the same tokens make lines with the same tokens, in any layout. -/
theorem sameTokens_lines
    (l l' : Layout)
    (h : List.Forall₂ SameTokens texts texts') :
    SameTokens (l.lines texts) (l'.lines texts') := by
  refine ⟨by rw [tokens_lines, tokens_lines, flatMap_tokens_congr h], ?_⟩
  rw [lines_eq_empty_iff, lines_eq_empty_iff]
  induction h with
  | nil => exact Iff.rfl
  | cons h _ ih => rw [List.forall_mem_cons, List.forall_mem_cons, h.empty, ih]

end Layout

end SameTokens

namespace Stub

/-- The tokens of a stub do not depend on the layout. -/
theorem tokens_text
    (l l' : Layout)
    (stub : Stub) :
    tokens (stub.text l) = tokens (stub.text l') := by
  cases stub with
  | type name kind =>
      cases kind with
      | object | interface | input | enum =>
          show tokens (l.block _ _) = tokens (l'.block _ _)
          rw [Layout.tokens_block, Layout.tokens_block]
      | union | scalar => rfl
  | directive name arguments => rfl

end Stub

end SchemaGrammar.Render
