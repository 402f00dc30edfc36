import SchemaGrammar.Render.Layout
import Mathlib.Data.List.Basic

/-!
# Joining parts in groups

The parts of a sequence without a block are joined one after the other.  What stands between two
of them depends on the last character before and on the first one behind, so that parts may be
joined in groups first, as long as no group ends in a description.

**Results.**
* `Layout.sequence_eq_join`: a sequence without an opening brace among its parts has no block.
* `Layout.joins_group`: a joined group takes the place of its parts.
* `Layout.document_ne_of_head?_ne`: documents that differ in the first letter of a block.
-/

namespace SchemaGrammar.Render

/-- A part that is not empty and no description. -/
structure Part.IsPlain (p : Part) : Prop where
  text : p.text ≠ ""
  isDescription : p.isDescription = false

namespace Layout

section Inline

/-- The separator depends on the end of what is before it. -/
theorem separator_append
    {left : String}
    (hleft : left ≠ "")
    (before : String)
    (afterDescription : Bool)
    (next : String) :
    separator (before ++ left) afterDescription next = separator left afterDescription next := by
  have hlist : left.toList ≠ [] := fun h => hleft (String.toList_eq_nil_iff.mp h)
  have hlast : (before ++ left).toList.getLast? = left.toList.getLast? := by
    rw [String.toList_append, List.getLast?_append_of_ne_nil _ hlist]
  have hempty : (before ++ left).isEmpty = left.isEmpty := by
    rw [Bool.eq_iff_iff, String.isEmpty_iff, String.isEmpty_iff, String.append_eq_empty_iff]
    simp [hleft]
  unfold separator needsSpace
  rw [hlast, hempty]

/-- What stands before a text does not depend on what follows the text's first character. -/
theorem separator_append_right
    {next : String}
    (hnext : next ≠ "")
    (out : String)
    (afterDescription : Bool)
    (rest : String) :
    separator out afterDescription (next ++ rest) = separator out afterDescription next := by
  have hhead : (next ++ rest).toList.head? = next.toList.head? := by
    rw [String.toList_append, List.head?_append_of_ne_nil]
    exact fun h => hnext (String.toList_eq_nil_iff.mp h)
  unfold separator needsSpace
  rw [hhead]

/-- What is written before the line so far stays in front. -/
theorem inlineFrom_append_left
    {out : String}
    (hout : out ≠ "")
    (before : String)
    (afterDescription : Bool)
    (ps : List Part) :
    inlineFrom (before ++ out) afterDescription ps =
      before ++ inlineFrom out afterDescription ps := by
  induction ps generalizing out afterDescription with
  | nil => rfl
  | cons p ps ih =>
      have hlonger : out ++ separator out afterDescription p.text ++ p.text ≠ "" := by
        simp [String.append_eq_empty_iff, hout]
      rw [inlineFrom, inlineFrom, separator_append hout, ← ih hlonger]
      simp only [String.append_assoc]

/-- A line only grows. -/
theorem exists_inlineFrom_eq_append
    (out : String)
    (afterDescription : Bool)
    (ps : List Part) :
    ∃ rest, inlineFrom out afterDescription ps = out ++ rest := by
  induction ps generalizing out afterDescription with
  | nil => exact ⟨"", String.append_empty.symm⟩
  | cons p ps ih =>
      obtain ⟨rest, hrest⟩ :=
        ih (out ++ separator out afterDescription p.text ++ p.text) p.isDescription
      refine ⟨separator out afterDescription p.text ++ p.text ++ rest, ?_⟩
      rw [inlineFrom, hrest, String.append_assoc, String.append_assoc, String.append_assoc]

/-- The parts before others leave a text behind, and whether it ends in a description. -/
theorem exists_inlineFrom_append
    (out : String)
    (afterDescription : Bool)
    (ps : List Part) :
    ∃ out' afterDescription', ∀ qs,
      inlineFrom out afterDescription (ps ++ qs) = inlineFrom out' afterDescription' qs := by
  induction ps generalizing out afterDescription with
  | nil => exact ⟨out, afterDescription, fun _ => rfl⟩
  | cons p ps ih => exact ih _ _

/-- Plain parts may be joined first. -/
theorem inlineFrom_append_of_isPlain
    {ps : List Part}
    (hps : ∀ p ∈ ps, p.IsPlain)
    (out : String)
    (qs : List Part) :
    inlineFrom out false (ps ++ qs) = inlineFrom (inlineFrom out false ps) false qs := by
  induction ps generalizing out with
  | nil => rfl
  | cons p ps ih =>
      obtain ⟨hp, hps⟩ := List.forall_mem_cons.mp hps
      rw [List.cons_append, inlineFrom, inlineFrom, hp.isDescription, ih hps]

theorem inline_cons_of_isPlain
    {p : Part}
    (hp : p.IsPlain)
    (ps : List Part) :
    inline (p :: ps) = inlineFrom p.text false ps := by
  unfold inline
  rw [inlineFrom, hp.isDescription]
  simp [separator]

/-- Plain parts that are joined to one part are written as they would be apart. -/
theorem inlineFrom_group
    {q : Part}
    {qs : List Part}
    (hq : q.IsPlain)
    (hqs : ∀ p ∈ qs, p.IsPlain)
    (out : String)
    (afterDescription : Bool)
    (after : List Part) :
    inlineFrom out afterDescription (⟨inline (q :: qs), false⟩ :: after) =
      inlineFrom out afterDescription (q :: qs ++ after) := by
  obtain ⟨rest, hrest⟩ := exists_inlineFrom_eq_append q.text false qs
  rw [inlineFrom, List.cons_append, inlineFrom, hq.isDescription,
    inlineFrom_append_of_isPlain hqs, inline_cons_of_isPlain hq]
  dsimp only
  rw [inlineFrom_append_left hq.text, hrest, separator_append_right hq.text]

end Inline

section Groups

variable (l : Layout)

/-- The parts of a sequence that has no block. -/
def join (parts : List Part) : String :=
  if l.pretty then inline parts else " ".intercalate (parts.map (·.text))

/-- Some parts may take the place of others among any parts that are joined. -/
def Joins (ps qs : List Part) : Prop :=
  ∀ before after, l.join (before ++ ps ++ after) = l.join (before ++ qs ++ after)

variable {l}

theorem joins_refl
    (ps : List Part) :
    l.Joins ps ps :=
  fun _ _ => rfl

theorem Joins.append
    {ps qs ps' qs' : List Part}
    (h : l.Joins ps qs)
    (h' : l.Joins ps' qs') :
    l.Joins (ps ++ ps') (qs ++ qs') := by
  intro before after
  calc l.join (before ++ (ps ++ ps') ++ after)
      = l.join (before ++ ps ++ (ps' ++ after)) := by simp only [List.append_assoc]
    _ = l.join (before ++ qs ++ (ps' ++ after)) := h _ _
    _ = l.join (before ++ qs ++ ps' ++ after) := by simp only [List.append_assoc]
    _ = l.join (before ++ qs ++ qs' ++ after) := h' _ _
    _ = l.join (before ++ (qs ++ qs') ++ after) := by simp only [List.append_assoc]

theorem joins_flatMap
    {α : Type}
    {f g : α → List Part}
    {as : List α}
    (h : ∀ a ∈ as, l.Joins (f a) (g a)) :
    l.Joins (as.flatMap f) (as.flatMap g) := by
  induction as with
  | nil => exact joins_refl []
  | cons a as ih =>
      obtain ⟨ha, has⟩ := List.forall_mem_cons.mp h
      rw [List.flatMap_cons, List.flatMap_cons]
      exact ha.append (ih has)

/-- Texts that are joined to one text are separated as they would be apart. -/
theorem intercalate_group
    (separator : String)
    (before after : List String)
    {group : List String}
    (hgroup : group ≠ []) :
    separator.intercalate (before ++ separator.intercalate group :: after) =
      separator.intercalate (before ++ (group ++ after)) := by
  have hbehind : separator.intercalate (separator.intercalate group :: after) =
      separator.intercalate (group ++ after) := by
    by_cases hafter : after = []
    · rw [hafter, String.intercalate_singleton, List.append_nil]
    · rw [String.intercalate_cons_of_ne_nil hafter,
        String.intercalate_append_of_ne_nil hgroup hafter]
  by_cases hbefore : before = []
  · rw [hbefore, List.nil_append, List.nil_append, hbehind]
  · rw [String.intercalate_append_of_ne_nil hbefore (List.cons_ne_nil _ _),
      String.intercalate_append_of_ne_nil hbefore (List.append_ne_nil_of_left_ne_nil hgroup _),
      hbehind]

theorem intercalate_ne_empty
    (separator : String)
    {text : String}
    (htext : text ≠ "")
    (rest : List String) :
    separator.intercalate (text :: rest) ≠ "" := by
  cases rest with
  | nil =>
      rw [String.intercalate_singleton]
      exact htext
  | cons next rest =>
      rw [String.intercalate_cons_cons, Ne, String.append_eq_empty_iff, String.append_eq_empty_iff]
      exact fun h => htext h.1.1

/-- Texts without the empty ones join to nothing only if there are none. -/
theorem filter_eq_nil_of_intercalate_eq_empty
    {separator : String}
    {texts : List String}
    (h : separator.intercalate (texts.filter fun text => !text.isEmpty) = "") :
    texts.filter (fun text => !text.isEmpty) = [] := by
  by_contra hne
  obtain ⟨text, rest, htexts⟩ := List.exists_cons_of_ne_nil hne
  have hmem : text ∈ texts.filter fun text => !text.isEmpty := by
    rw [htexts]
    exact List.mem_cons_self
  have htext : text ≠ "" := by simpa using (List.mem_filter.mp hmem).2
  rw [htexts] at h
  exact intercalate_ne_empty separator htext rest h

/-- **Groups of parts.**  A joined group takes the place of its parts. -/
theorem joins_group
    {ps : List Part}
    (hps : ∀ p ∈ ps, p.IsPlain)
    (hne : ps ≠ []) :
    l.Joins [⟨l.join ps, false⟩] ps := by
  intro before after
  unfold join
  split
  · obtain ⟨out, afterDescription, hbefore⟩ := exists_inlineFrom_append "" false before
    obtain ⟨q, qs, rfl⟩ := List.exists_cons_of_ne_nil hne
    obtain ⟨hq, hqs⟩ := List.forall_mem_cons.mp hps
    unfold inline
    rw [List.append_assoc, List.append_assoc, hbefore, hbefore]
    exact inlineFrom_group hq hqs out afterDescription after
  · simp only [List.map_append, List.append_assoc, List.map_cons, List.singleton_append]
    exact intercalate_group " " _ _ fun h => hne (List.map_eq_nil_iff.mp h)

/-- Parts that differ by joining only make the same text. -/
theorem join_eq_of_joins
    {ps qs : List Part}
    (h : l.Joins ps qs) :
    l.join ps = l.join qs := by
  simpa using h [] []

@[simp] theorem join_nil : l.join [] = "" := by
  unfold join inline inlineFrom
  split <;> simp

@[simp] theorem join_singleton
    (p : Part) :
    l.join [p] = p.text := by
  unfold join inline
  split <;> simp [inlineFrom, separator]

section Texts

variable {ps : List Part}

/-- Parts with texts make a text. -/
theorem join_ne_empty
    (hps : ∀ p ∈ ps, p.text ≠ "")
    (hne : ps ≠ []) :
    l.join ps ≠ "" := by
  obtain ⟨p, ps, rfl⟩ := List.exists_cons_of_ne_nil hne
  obtain ⟨hp, -⟩ := List.forall_mem_cons.mp hps
  unfold join
  split
  · obtain ⟨rest, hrest⟩ := exists_inlineFrom_eq_append p.text p.isDescription ps
    have hinline : inline (p :: ps) = p.text ++ rest := by
      unfold inline
      rw [inlineFrom, ← hrest]
      simp [separator]
    rw [hinline, Ne, String.append_eq_empty_iff]
    exact fun h => hp h.1
  · exact intercalate_ne_empty " " hp (ps.map (·.text))

/-- Joined parts are one character only if one of them is. -/
theorem join_ne_of_length_eq_one
    (hps : ∀ p ∈ ps, p.IsPlain)
    {text : String}
    (htext : text.length = 1)
    (hne : ∀ p ∈ ps, p.text ≠ text) :
    l.join ps ≠ text := by
  rintro rfl
  have hlength : ∀ {s : String}, s ≠ "" → 1 ≤ s.length := fun {s} h => by
    rw [Nat.one_le_iff_ne_zero, Ne, String.length_eq_zero_iff]
    exact h
  cases ps with
  | nil => simp at htext
  | cons p ps =>
      cases ps with
      | nil => exact hne p List.mem_cons_self (join_singleton p).symm
      | cons q ps =>
          obtain ⟨hp, hps⟩ := List.forall_mem_cons.mp hps
          obtain ⟨hq, -⟩ := List.forall_mem_cons.mp hps
          have hp' := hlength hp.text
          have hq' := hlength hq.text
          revert htext
          unfold join
          split
          · obtain ⟨rest, hrest⟩ := exists_inlineFrom_eq_append
              (p.text ++ separator p.text false q.text ++ q.text) q.isDescription ps
            rw [inline_cons_of_isPlain hp, inlineFrom, hrest]
            simp only [String.length_append]
            omega
          · rw [List.map_cons, List.map_cons, String.intercalate_cons_cons]
            have hspace : " ".length = 1 := by decide
            simp only [String.length_append]
            omega

end Texts

theorem splitFirst_eq_none
    {α : Type}
    {p : α → Bool}
    {as : List α}
    (h : ∀ a ∈ as, p a = false) :
    splitFirst p as = none := by
  induction as with
  | nil => rfl
  | cons a as ih =>
      obtain ⟨ha, has⟩ := List.forall_mem_cons.mp h
      rw [splitFirst, ha, ih has]
      rfl

/-- Without an opening brace among its parts a sequence has no block. -/
theorem sequence_eq_join
    {ps : List Part}
    (h : l.pretty = true → ∀ p ∈ ps, p.text ≠ "\x7b") :
    l.sequence ps = l.join ps := by
  unfold sequence join
  split
  · next hpretty =>
      unfold prettySequence
      rw [splitFirst_eq_none]
      intro p hp
      exact beq_eq_false_iff_ne.mpr (h hpretty p hp)
  · rfl

end Groups

section Documents

/-- What stands around a text does not depend on it. -/
theorem exists_intercalate_append
    (separator : String)
    (before : List String) :
    ∃ head, ∀ text after, ∃ tail,
      separator.intercalate (before ++ text :: after) = head ++ text ++ tail := by
  have hbehind : ∀ text after, ∃ tail,
      separator.intercalate (text :: after) = text ++ tail := by
    intro text after
    cases after with
    | nil => exact ⟨"", by rw [String.intercalate_singleton, String.append_empty]⟩
    | cons next after =>
        exact ⟨_, by rw [String.intercalate_cons_cons, String.append_assoc]⟩
  by_cases hnil : before = []
  · refine ⟨"", fun text after => ?_⟩
    rw [hnil, List.nil_append, String.empty_append]
    exact hbehind text after
  · refine ⟨separator.intercalate before ++ separator, fun text after => ?_⟩
    obtain ⟨tail, htail⟩ := hbehind text after
    refine ⟨tail, ?_⟩
    rw [String.intercalate_append_of_ne_nil hnil (List.cons_ne_nil _ _), htail,
      String.append_assoc, String.append_assoc, String.append_assoc]

/-- What stands before a block in a document depends on the blocks before it alone. -/
theorem exists_document_append
    (l : Layout)
    (before : List String) :
    ∃ head, ∀ block after, Text.trim block ≠ "" → ∃ tail,
      l.document (before ++ block :: after) = head ++ Text.trim block ++ tail := by
  obtain ⟨head, hhead⟩ := exists_intercalate_append (if l.pretty then "\n\n" else " ")
    ((before.map Text.trim).filter fun block => !block.isEmpty)
  refine ⟨head, fun block after hblock => ?_⟩
  have hshown : (!(Text.trim block).isEmpty) = true := by
    rw [Bool.not_eq_true', ← Bool.not_eq_true, String.isEmpty_iff]
    exact hblock
  obtain ⟨tail, htail⟩ := hhead (Text.trim block)
    ((after.map Text.trim).filter fun block => !block.isEmpty)
  refine ⟨tail, ?_⟩
  rw [document, List.map_append, List.filter_append, List.map_cons, ← htail]
  congr 2
  exact List.filter_cons_of_pos hshown

/-- Documents differ if they do for the first time in the first letter of a block. -/
theorem document_ne_of_head?_ne
    (l : Layout)
    (before : List String)
    {block block' : String}
    {c c' : Char}
    (hblock : (Text.trim block).toList.head? = some c)
    (hblock' : (Text.trim block').toList.head? = some c')
    (hne : c ≠ c')
    (after after' : List String) :
    l.document (before ++ block :: after) ≠ l.document (before ++ block' :: after') := by
  have hempty : ∀ {text : String} {c}, text.toList.head? = some c → text ≠ "" := by
    rintro text c h rfl
    cases h
  obtain ⟨head, hhead⟩ := exists_document_append l before
  obtain ⟨tail, htail⟩ := hhead block after (hempty hblock)
  obtain ⟨tail', htail'⟩ := hhead block' after' (hempty hblock')
  rw [htail, htail']
  intro h
  have hchars := congrArg String.toList h
  simp only [String.toList_append, List.append_assoc, List.append_cancel_left_eq] at hchars
  have hheads := congrArg List.head? hchars
  rw [List.head?_append, List.head?_append, hblock, hblock', Option.some_or, Option.some_or,
    Option.some_inj] at hheads
  exact hne hheads

end Documents

end Layout

end SchemaGrammar.Render
