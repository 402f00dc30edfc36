import SchemaGrammar.Grammar.Notation
import SchemaGrammar.Text.Name
import SchemaGrammar.Proofs.Grammar.Element
import SchemaGrammar.Proofs.Text.Quoted
import Mathlib.Computability.Language

/-!
# Reading the notation

The notation of elements has a grammar of its own.  Parts are written side by side in a run,
runs with bars between them are a choice, a mark stands behind a part, and parentheses make a
part of a choice.  Each text of this grammar can be read in one way only, so it stands for one
language.  The notation of an element is read as the language of the element, if every group
that needs parentheses has them; a group of a single part is written like the part, and hides
what is in it from a mark behind it.

**Results.**
* `Denotes.unique`: a text of the notation stands for one language.
* `Element.denotes_display`: the notation of an element stands for the language of the element.
* `Element.language_eq_of_display_eq`: elements with the same notation have the same language.
-/

namespace SchemaGrammar

open scoped Computability

/-- What the notation is made of: the name of a rule, the name of a terminal, or a text. -/
inductive Leaf
  | reference (name : String)
  | terminal (name : String)
  | literal (text : String)
  deriving DecidableEq, Inhabited

namespace Leaf

def text : Leaf → List Char
  | reference name => name.toList
  | terminal name => '<' :: name.toList ++ ['>']
  | literal text => (Text.quote text).toList

/-- Whether the names of rules and terminals are identifiers. -/
def IsNamed : Leaf → Prop
  | reference name => Text.isName name = true
  | terminal name => Text.isName name = true
  | literal _ => True

/-- The string of a leaf if names are symbols of their own and a literal is its text. -/
def spelling : Leaf → List (Leaf ⊕ Char)
  | literal text => text.toList.map .inr
  | leaf => [.inl leaf]

end Leaf

/-- A mark behind a part. -/
inductive Mark
  | optional
  | repeated
  deriving DecidableEq, Inhabited

namespace Mark

def sign : Mark → Char
  | optional => '?'
  | repeated => '+'

/-- The language of a part with a mark behind it. -/
def apply {σ : Type*} (L : Language σ) : Mark → Language σ
  | optional => 1 + L
  | repeated => L * L∗

theorem sign_inj
    {m n : Mark}
    (h : m.sign = n.sign) :
    m = n := by
  cases m <;> cases n <;> first | rfl | cases h

end Mark

/-- How much of the notation a text takes up. -/
inductive Level
  /-- A leaf or a group in parentheses. -/
  | atom
  /-- An atom with marks behind it. -/
  | part
  /-- Parts with spaces between them. -/
  | run
  /-- Runs with bars between them. -/
  | choice
  deriving DecidableEq, Inhabited

section Reading

variable {σ : Type*} (value : Leaf → List σ)

/-- The grammar of the notation: what a text stands for, if leaves stand for the strings given. -/
inductive Denotes : Level → List Char → Language σ → Prop
  | leaf {l : Leaf} (hnamed : l.IsNamed) : Denotes .atom l.text {value l}
  | group {t : List Char} {L : Language σ} (h : Denotes .choice t L) :
      Denotes .atom ('(' :: t ++ [')']) L
  | marked {t : List Char} {L : Language σ} (h : Denotes .atom t L) (marks : List Mark) :
      Denotes .part (t ++ marks.map Mark.sign) (marks.foldl Mark.apply L)
  | one {t : List Char} {L : Language σ} (h : Denotes .part t L) : Denotes .run t L
  | beside {t u : List Char} {L M : Language σ} (h : Denotes .part t L)
      (hrest : Denotes .run u M) :
      Denotes .run (t ++ ' ' :: u) (L * M)
  | only {t : List Char} {L : Language σ} (h : Denotes .run t L) : Denotes .choice t L
  | either {t u : List Char} {L M : Language σ} (h : Denotes .run t L)
      (hrest : Denotes .choice u M) :
      Denotes .choice (t ++ ' ' :: '|' :: ' ' :: u) (L + M)

variable {value} {level : Level} {t u r s : List Char} {L M : Language σ}

section Leaves

theorem Leaf.exists_text_cons
    {l : Leaf}
    (hnamed : l.IsNamed) :
    ∃ c cs, l.text = c :: cs ∧ c ≠ '(' ∧ c ≠ '|' := by
  cases l with
  | reference name =>
      obtain ⟨c, cs, hchars, hstart, -⟩ := Text.exists_of_isName hnamed
      refine ⟨c, cs, hchars, ?_, ?_⟩
      · rintro rfl
        cases hstart
      · rintro rfl
        cases hstart
  | terminal name => exact ⟨'<', _, rfl, by decide, by decide⟩
  | literal text => exact ⟨'"', _, Text.toList_quote text, by decide, by decide⟩

theorem continuesName_of_isName
    {name : String}
    (h : Text.isName name = true) :
    ∀ c ∈ name.toList, Text.continuesName c = true := by
  obtain ⟨c, cs, hchars, hstart, hrest⟩ := Text.exists_of_isName h
  rw [hchars]
  exact List.forall_mem_cons.mpr ⟨Text.continuesName_of_startsName hstart, hrest⟩

/-- A name ends where no name goes on. -/
theorem name_append_cancel
    {name other : String}
    (hname : Text.isName name = true)
    (hother : Text.isName other = true)
    (hr : ∀ c ∈ r.head?, Text.continuesName c = false)
    (hs : ∀ c ∈ s.head?, Text.continuesName c = false)
    (h : name.toList ++ r = other.toList ++ s) :
    name = other := by
  have hsame := Front.append_cancel (continuesName_of_isName hname)
    (continuesName_of_isName hother) hr hs h
  exact String.toList_inj.mp hsame.1

/-- Leaves are told apart, if no name goes on behind them. -/
theorem Leaf.text_append_cancel
    {l m : Leaf}
    (hl : l.IsNamed)
    (hm : m.IsNamed)
    (hr : ∀ c ∈ r.head?, Text.continuesName c = false)
    (hs : ∀ c ∈ s.head?, Text.continuesName c = false)
    (h : l.text ++ r = m.text ++ s) :
    l = m := by
  cases l with
  | reference name =>
      obtain ⟨c, cs, hchars, hstart, -⟩ := Text.exists_of_isName hl
      cases m with
      | reference other =>
          rw [name_append_cancel hl hm hr hs h]
      | terminal other =>
          rw [text, hchars] at h
          obtain rfl : c = '<' := (List.cons.inj h).1
          cases hstart
      | literal other =>
          rw [text, text, hchars, Text.toList_quote] at h
          obtain rfl : c = '"' := (List.cons.inj h).1
          cases hstart
  | terminal name =>
      cases m with
      | reference other =>
          obtain ⟨c, cs, hchars, hstart, -⟩ := Text.exists_of_isName hm
          rw [text, text, hchars] at h
          obtain rfl : '<' = c := (List.cons.inj h).1
          cases hstart
      | terminal other =>
          rw [text, text, List.cons_append, List.cons_append, List.cons_append, List.cons_append,
            List.append_assoc, List.append_assoc] at h
          have hbracket (more : List Char) :
              ∀ c ∈ (['>'] ++ more).head?, Text.continuesName c = false := by
            rintro c ⟨⟩
            decide
          rw [name_append_cancel hl hm (hbracket r) (hbracket s) (List.cons.inj h).2]
      | literal other =>
          rw [text, text, Text.toList_quote] at h
          cases (List.cons.inj h).1
  | literal text =>
      cases m with
      | reference other =>
          obtain ⟨c, cs, hchars, hstart, -⟩ := Text.exists_of_isName hm
          rw [Leaf.text, Leaf.text, hchars, Text.toList_quote] at h
          obtain rfl : '"' = c := (List.cons.inj h).1
          cases hstart
      | terminal other =>
          rw [Leaf.text, Leaf.text, Text.toList_quote] at h
          cases (List.cons.inj h).1
      | literal other => rw [(Text.quote_append_cancel h).1]

end Leaves

section Uniqueness

/-- What may stand behind a text of the notation. -/
def Ends : Level → List Char → Prop
  | .atom, r => ∀ c ∈ r.head?, Text.continuesName c = false
  | .part, r => ∀ c ∈ r.head?, c = ' ' ∨ c = ')'
  | .run, r => r = [] ∨ (∃ s, r = ')' :: s) ∨ ∃ s, r = ' ' :: '|' :: s
  | .choice, r => ∀ c ∈ r.head?, c = ')'

theorem Ends.part_of_run
    (h : Ends .run r) :
    Ends .part r := by
  rcases h with rfl | ⟨s, rfl⟩ | ⟨s, rfl⟩
  · exact fun _ hc => nomatch hc
  · rintro c ⟨⟩
    exact .inr rfl
  · rintro c ⟨⟩
    exact .inl rfl

theorem Ends.run_of_choice
    (h : Ends .choice r) :
    Ends .run r := by
  cases r with
  | nil => exact .inl rfl
  | cons c r =>
      obtain rfl := h c rfl
      exact .inr (.inl ⟨r, rfl⟩)

/-- Behind an atom may stand marks, and then what may stand behind a part. -/
theorem Ends.atom_of_part
    (h : Ends .part r)
    (marks : List Mark) :
    Ends .atom (marks.map Mark.sign ++ r) := by
  cases marks with
  | nil =>
      intro c hc
      rcases h c hc with rfl | rfl <;> decide
  | cons m marks =>
      rintro c ⟨⟩
      cases m <;> decide

/-- Behind a part, the marks and what follows them are told apart. -/
theorem marks_append_cancel
    {marks others : List Mark}
    (hr : Ends .part r)
    (hs : Ends .part s)
    (h : marks.map Mark.sign ++ r = others.map Mark.sign ++ s) :
    marks = others := by
  have hnot {more : List Char} (hmore : Ends .part more) (m : Mark) (cs : List Char) :
      more ≠ m.sign :: cs := by
    rintro rfl
    rcases hmore _ rfl with hsign | hsign <;> cases m <;> cases hsign
  induction marks generalizing others with
  | nil =>
      cases others with
      | nil => rfl
      | cons m others => exact absurd h (hnot hr m _)
  | cons m marks ih =>
      cases others with
      | nil => exact absurd h.symm (hnot hs m _)
      | cons n others =>
          obtain ⟨hsign, hrest⟩ := List.cons.inj h
          rw [Mark.sign_inj hsign, ih hrest]

/-- No text of the notation begins with a bar. -/
theorem Denotes.exists_cons
    (h : Denotes value level t L) :
    ∃ c cs, t = c :: cs ∧ c ≠ '|' := by
  induction h with
  | leaf hnamed =>
      obtain ⟨c, cs, htext, -, hbar⟩ := Leaf.exists_text_cons hnamed
      exact ⟨c, cs, htext, hbar⟩
  | group _ _ => exact ⟨'(', _, rfl, by decide⟩
  | marked _ marks ih =>
      obtain ⟨c, cs, rfl, hbar⟩ := ih
      exact ⟨c, _, rfl, hbar⟩
  | one _ ih => exact ih
  | beside _ _ ih _ =>
      obtain ⟨c, cs, rfl, hbar⟩ := ih
      exact ⟨c, _, rfl, hbar⟩
  | only _ ih => exact ih
  | either _ _ ih _ =>
      obtain ⟨c, cs, rfl, hbar⟩ := ih
      exact ⟨c, _, rfl, hbar⟩

/-- Behind a run does not stand a space and more of a run. -/
theorem Denotes.not_ends_run
    (h : Denotes value level t L) :
    ¬ Ends .run (' ' :: (t ++ r)) := by
  obtain ⟨c, cs, rfl, hbar⟩ := h.exists_cons
  rintro (heq | ⟨s, heq⟩ | ⟨s, heq⟩)
  · cases heq
  · cases heq
  · exact hbar (List.cons.inj (List.cons.inj heq).2).1

/-- **The notation is unambiguous.**  If something may stand behind a text, the text is told from
what stands behind it, and it stands for one language. -/
theorem Denotes.unique
    (h : Denotes value level t L)
    (h' : Denotes value level u M)
    (hr : Ends level r)
    (hs : Ends level s)
    (heq : t ++ r = u ++ s) :
    t = u ∧ L = M := by
  -- what stands behind the text is left open: inside a run or a choice it is more of the same
  induction h generalizing u M r s with
  | @leaf l hl =>
      cases h' with
      | @leaf m hm =>
          rw [Leaf.text_append_cancel hl hm hr hs heq]
          exact ⟨rfl, rfl⟩
      | group _ =>
          obtain ⟨c, cs, htext, hparen, -⟩ := Leaf.exists_text_cons hl
          rw [htext] at heq
          exact absurd (List.cons.inj heq).1 hparen
  | @group t L _ ih =>
      cases h' with
      | @leaf m hm =>
          obtain ⟨c, cs, htext, hparen, -⟩ := Leaf.exists_text_cons hm
          rw [htext] at heq
          exact absurd (List.cons.inj heq).1.symm hparen
      | @group u M hinner =>
          rw [List.cons_append, List.cons_append, List.cons_append, List.cons_append,
            List.append_assoc, List.append_assoc] at heq
          have hclose (more : List Char) : Ends .choice ([')'] ++ more) := by
            rintro c ⟨⟩
            rfl
          obtain ⟨rfl, rfl⟩ := ih hinner (hclose r) (hclose s) (List.cons.inj heq).2
          exact ⟨rfl, rfl⟩
  | @marked t L _ marks ih =>
      cases h' with
      | @marked u M hatom others =>
          rw [List.append_assoc, List.append_assoc] at heq
          obtain ⟨rfl, rfl⟩ := ih hatom (hr.atom_of_part marks) (hs.atom_of_part others) heq
          rw [List.append_cancel_left_eq] at heq
          rw [marks_append_cancel hr hs heq]
          exact ⟨rfl, rfl⟩
  | one _ ih =>
      cases h' with
      | one hpart => exact ih hpart hr.part_of_run hs.part_of_run heq
      | @beside v w N K hpart hrest =>
          rw [List.append_assoc] at heq
          obtain ⟨rfl, rfl⟩ := ih hpart hr.part_of_run (by rintro c ⟨⟩; exact .inl rfl) heq
          rw [List.append_cancel_left_eq] at heq
          rw [heq] at hr
          exact absurd hr hrest.not_ends_run
  | @beside t w L K _ hrest ih ihrest =>
      have hspace (more : List Char) : Ends .part (' ' :: more) := by
        rintro c ⟨⟩
        exact .inl rfl
      rw [List.append_assoc] at heq
      cases h' with
      | one hpart =>
          obtain ⟨rfl, rfl⟩ := ih hpart (hspace _) hs.part_of_run heq
          rw [List.append_cancel_left_eq] at heq
          rw [← heq] at hs
          exact absurd hs hrest.not_ends_run
      | beside hpart hothers =>
          rw [List.append_assoc] at heq
          obtain ⟨rfl, rfl⟩ := ih hpart (hspace _) (hspace _) heq
          rw [List.append_cancel_left_eq] at heq
          obtain ⟨rfl, rfl⟩ := ihrest hothers hr hs (List.cons.inj heq).2
          exact ⟨rfl, rfl⟩
  | only _ ih =>
      cases h' with
      | only hrun => exact ih hrun hr.run_of_choice hs.run_of_choice heq
      | either hrun hrest =>
          rw [List.append_assoc] at heq
          obtain ⟨rfl, rfl⟩ := ih hrun hr.run_of_choice (.inr (.inr ⟨_, rfl⟩)) heq
          rw [List.append_cancel_left_eq] at heq
          rw [heq] at hr
          cases hr ' ' rfl
  | @either t w L K _ _ ih ihrest =>
      have hbar (more : List Char) : Ends .run (' ' :: '|' :: more) := .inr (.inr ⟨_, rfl⟩)
      rw [List.append_assoc] at heq
      cases h' with
      | only hrun =>
          obtain ⟨rfl, rfl⟩ := ih hrun (hbar _) hs.run_of_choice heq
          rw [List.append_cancel_left_eq] at heq
          rw [← heq] at hs
          cases hs ' ' rfl
      | either hrun hothers =>
          rw [List.append_assoc] at heq
          obtain ⟨rfl, rfl⟩ := ih hrun (hbar _) (hbar _) heq
          rw [List.append_cancel_left_eq] at heq
          obtain ⟨rfl, rfl⟩ := ihrest hothers hr hs
            (List.cons.inj (List.cons.inj (List.cons.inj heq).2).2).2
          exact ⟨rfl, rfl⟩

end Uniqueness

section Combining

theorem Denotes.part_of_atom
    (h : Denotes value .atom t L) :
    Denotes value .part t L := by
  have hmarked := Denotes.marked h []
  rwa [List.map_nil, List.append_nil] at hmarked

/-- Whatever is no choice may stand in a run. -/
theorem Denotes.run_of_ne_choice
    (h : Denotes value level t L)
    (hlevel : level ≠ .choice) :
    Denotes value .run t L := by
  cases level with
  | atom => exact .one h.part_of_atom
  | part => exact .one h
  | run => exact h
  | choice => exact absurd rfl hlevel

theorem Denotes.choice
    (h : Denotes value level t L) :
    Denotes value .choice t L := by
  by_cases hlevel : level = .choice
  · exact hlevel ▸ h
  · exact .only (h.run_of_ne_choice hlevel)

/-- A mark behind a part applies to what the part denotes. -/
theorem Denotes.mark
    (h : Denotes value .part t L)
    (m : Mark) :
    Denotes value .part (t ++ [m.sign]) (m.apply L) := by
  cases h with
  | @marked t L hatom marks =>
      have hmarked := Denotes.marked hatom (marks ++ [m])
      rw [List.map_append, List.foldl_append, ← List.append_assoc] at hmarked
      exact hmarked

/-- Two runs beside each other are one run. -/
theorem Denotes.run_append
    (h : Denotes value .run t L)
    (hrest : Denotes value .run u M) :
    Denotes value .run (t ++ ' ' :: u) (L * M) := by
  generalize hlevel : Level.run = level at h
  induction h with
  | one h _ => exact .beside h hrest
  | beside h _ _ ih =>
      rw [List.append_assoc, mul_assoc]
      exact .beside h (ih hlevel)
  | _ => cases hlevel

/-- Two choices with a bar between them are one choice. -/
theorem Denotes.choice_append
    (h : Denotes value .choice t L)
    (hrest : Denotes value .choice u M) :
    Denotes value .choice (t ++ ' ' :: '|' :: ' ' :: u) (L + M) := by
  generalize hlevel : Level.choice = level at h
  induction h with
  | only h _ => exact .either h hrest
  | either h _ _ ih =>
      rw [List.append_assoc, add_assoc]
      exact .either h (ih hlevel)
  | _ => cases hlevel

end Combining

end Reading

namespace Element

section Languages

variable {σ : Type*} (value : Leaf → List σ)

mutual

/-- The strings that an element stands for, if its leaves stand for the strings given.  Regular
expressions are left out. -/
def language : Element → Language σ
  | .terminal name none => {value (.terminal name)}
  | .terminal _ (some (.literal text)) => {value (.literal text)}
  | .terminal _ (some (.regex _ _)) => 0
  | .nonTerminal name => {value (.reference name)}
  | .sequence es => languageOfAll es
  | .oneOf es => languageOfAny es
  | .optional e => 1 + language e
  | .list e => language e * (language e)∗

/-- The strings of several elements, one after the other. -/
def languageOfAll : List Element → Language σ
  | [] => 1
  | e :: es => language e * languageOfAll es

/-- The strings of any of several elements. -/
def languageOfAny : List Element → Language σ
  | [] => 0
  | e :: es => language e + languageOfAny es

end

end Languages

section Groups

/-- A node that is written from literals, names that are identifiers, and groups that are not
empty. -/
def IsPlain : Element → Prop
  | .terminal name none => Text.isName name = true
  | .terminal _ (some (.literal _)) => True
  | .terminal _ (some (.regex _ _)) => False
  | .nonTerminal name => Text.isName name = true
  | .sequence es => es ≠ []
  | .oneOf es => es ≠ []
  | .optional _ => True
  | .list _ => True

mutual

/-- How much of the notation an element takes up: a group of a single part takes up as much as
the part. -/
def level : Element → Level
  | .terminal _ _ => .part
  | .nonTerminal _ => .part
  | .sequence es => levelOfRun es
  | .oneOf es => levelOfChoice es
  | .optional _ => .part
  | .list _ => .part

/-- The level of a sequence, in which a choice has parentheses. -/
def levelOfRun : List Element → Level
  | [e] => if e.isChoice then .part else level e
  | _ => .run

def levelOfChoice : List Element → Level
  | [e] => level e
  | _ => .choice

end

/-- Whether a node has parentheses where it needs them: around what has a mark behind it, if that
is more than a part, and around a choice that stands beside something else. -/
def ShowsGroups : Element → Prop
  | .terminal _ _ => True
  | .nonTerminal _ => True
  | .sequence es => es.length ≤ 1 ∨ ∀ e ∈ es, e.isChoice = true ∨ e.level ≠ .choice
  | .oneOf _ => True
  | .optional e => e.isCompound = true ∨ e.level = .part
  | .list e => e.isCompound = true ∨ e.level = .part

instance : DecidablePred IsPlain
  | .terminal _ none => inferInstanceAs (Decidable (_ = true))
  | .terminal _ (some (.literal _)) => inferInstanceAs (Decidable True)
  | .terminal _ (some (.regex _ _)) => inferInstanceAs (Decidable False)
  | .nonTerminal _ => inferInstanceAs (Decidable (_ = true))
  | .sequence _ => inferInstanceAs (Decidable (_ ≠ _))
  | .oneOf _ => inferInstanceAs (Decidable (_ ≠ _))
  | .optional _ => inferInstanceAs (Decidable True)
  | .list _ => inferInstanceAs (Decidable True)

instance : DecidablePred ShowsGroups
  | .terminal _ _ => inferInstanceAs (Decidable True)
  | .nonTerminal _ => inferInstanceAs (Decidable True)
  | .sequence _ => inferInstanceAs (Decidable (_ ∨ _))
  | .oneOf _ => inferInstanceAs (Decidable True)
  | .optional _ => inferInstanceAs (Decidable (_ ∨ _))
  | .list _ => inferInstanceAs (Decidable (_ ∨ _))

end Groups

section Display

variable {σ : Type*} {value : Leaf → List σ} {e : Element} {es : List Element}

theorem toList_group
    (grouped : Bool)
    (text : String) :
    (group grouped text).toList = if grouped then '(' :: text.toList ++ [')'] else text.toList := by
  cases grouped with
  | false => rfl
  | true =>
      rw [group, if_pos rfl, if_pos rfl, String.toList_append, String.toList_append]
      rfl

/-- In parentheses, or as tight as it has to be, an element is a part. -/
theorem denotes_group_part
    (h : Denotes value e.level e.display.toList (e.language value))
    {grouped : Bool}
    (hgrouped : grouped = true ∨ e.level = .part) :
    Denotes value .part (group grouped e.display).toList (e.language value) := by
  rw [toList_group]
  cases grouped with
  | true => exact (Denotes.group h.choice).part_of_atom
  | false => exact hgrouped.resolve_left Bool.false_ne_true ▸ h

/-- Beside others, an element is a run. -/
theorem denotes_group_run
    (h : Denotes value e.level e.display.toList (e.language value))
    (hshown : e.isChoice = true ∨ e.level ≠ .choice) :
    Denotes value .run (group e.isChoice e.display).toList (e.language value) := by
  rw [toList_group]
  cases hchoice : e.isChoice with
  | true => exact .one (Denotes.group h.choice).part_of_atom
  | false =>
      rw [hchoice] at hshown
      exact h.run_of_ne_choice (hshown.resolve_left Bool.false_ne_true)

/-- A sequence is written as a run of its elements. -/
theorem denotes_displaySequence
    (hne : es ≠ [])
    (hread : ∀ e ∈ es,
      Denotes value .run (group e.isChoice e.display).toList (e.language value)) :
    Denotes value .run (displaySequence es).toList (languageOfAll value es) := by
  induction es with
  | nil => exact absurd rfl hne
  | cons e es ih =>
      obtain ⟨he, hes⟩ := List.forall_mem_cons.mp hread
      rw [languageOfAll]
      cases es with
      | nil =>
          rw [displaySequence, languageOfAll, mul_one]
          exact he
      | cons f es =>
          have hrest := ih (List.cons_ne_nil f es) hes
          rw [displaySequence, String.toList_append, String.toList_append, List.append_assoc]
          exact he.run_append hrest

/-- A choice is written as its alternatives with bars between them. -/
theorem denotes_displayOptions
    (hne : es ≠ [])
    (hread : ∀ e ∈ es, Denotes value .choice e.display.toList (e.language value)) :
    Denotes value .choice (displayOptions es).toList (languageOfAny value es) := by
  induction es with
  | nil => exact absurd rfl hne
  | cons e es ih =>
      obtain ⟨he, hes⟩ := List.forall_mem_cons.mp hread
      rw [languageOfAny]
      cases es with
      | nil =>
          rw [displayOptions, languageOfAny, add_zero]
          exact he
      | cons f es =>
          have hrest := ih (List.cons_ne_nil f es) hes
          rw [displayOptions, String.toList_append, String.toList_append, List.append_assoc]
          exact he.choice_append hrest

/-- **Reading the notation.**  The notation of an element stands for the language of the element,
if every group in it shows. -/
theorem denotes_display
    (hplain : ∀ d ∈ e.walk, d.IsPlain)
    (hshown : ∀ d ∈ e.walk, d.ShowsGroups) :
    Denotes value e.level e.display.toList (e.language value) := by
  induction e using inductionOn with
  | terminal name pattern =>
      have hself := hplain _ (mem_walk_self _)
      cases pattern with
      | none =>
          have hnamed : (Leaf.terminal name).IsNamed := hself
          rw [display, String.toList_append, String.toList_append]
          exact (Denotes.leaf hnamed).part_of_atom
      | some pattern =>
          cases pattern with
          | literal text =>
              have hnamed : (Leaf.literal text).IsNamed := trivial
              exact (Denotes.leaf hnamed).part_of_atom
          | regex source flags => exact hself.elim
  | nonTerminal name =>
      have hnamed : (Leaf.reference name).IsNamed := hplain _ (mem_walk_self _)
      exact (Denotes.leaf hnamed).part_of_atom
  | sequence es ih =>
      have hne : es ≠ [] := hplain _ (mem_walk_self _)
      have hself : es.length ≤ 1 ∨ ∀ e ∈ es, e.isChoice = true ∨ e.level ≠ .choice :=
        hshown _ (mem_walk_self _)
      have hread : ∀ e ∈ es, Denotes value e.level e.display.toList (e.language value) :=
        fun e he => ih e he (fun d hd => hplain d (walk_subset_sequence he hd))
          (fun d hd => hshown d (walk_subset_sequence he hd))
      rw [level, display, language]
      match es, hne with
      | [e], _ =>
          have he := hread e List.mem_cons_self
          rw [displaySequence, levelOfRun, languageOfAll, languageOfAll, mul_one, toList_group]
          split
          · exact (Denotes.group he.choice).part_of_atom
          · exact he
      | e :: f :: es, hne =>
          have hbeside := hself.resolve_left (by simp)
          exact denotes_displaySequence hne fun d hd =>
            denotes_group_run (hread d hd) (hbeside d hd)
  | oneOf es ih =>
      have hne : es ≠ [] := hplain _ (mem_walk_self _)
      have hread : ∀ e ∈ es, Denotes value e.level e.display.toList (e.language value) :=
        fun e he => ih e he (fun d hd => hplain d (walk_subset_oneOf he hd))
          (fun d hd => hshown d (walk_subset_oneOf he hd))
      rw [level, display, language]
      match es, hne with
      | [e], _ =>
          rw [displayOptions, levelOfChoice, languageOfAny, languageOfAny, add_zero]
          exact hread e List.mem_cons_self
      | e :: f :: es, hne => exact denotes_displayOptions hne fun d hd => (hread d hd).choice
  | optional e ih =>
      have hself : e.isCompound = true ∨ e.level = .part := hshown _ (mem_walk_self _)
      have hread := ih (fun d hd => hplain d (List.mem_cons_of_mem _ hd))
        (fun d hd => hshown d (List.mem_cons_of_mem _ hd))
      rw [display, String.toList_append]
      exact (denotes_group_part hread hself).mark .optional
  | list e ih =>
      have hself : e.isCompound = true ∨ e.level = .part := hshown _ (mem_walk_self _)
      have hread := ih (fun d hd => hplain d (List.mem_cons_of_mem _ hd))
        (fun d hd => hshown d (List.mem_cons_of_mem _ hd))
      rw [display, String.toList_append]
      exact (denotes_group_part hread hself).mark .repeated

/-- **No ambiguity.**  Elements with the same notation stand for the same strings, whatever their
leaves stand for, if every group in them shows. -/
theorem language_eq_of_display_eq
    {d : Element}
    (hplain : ∀ c ∈ d.walk, c.IsPlain)
    (hshown : ∀ c ∈ d.walk, c.ShowsGroups)
    (hplain' : ∀ c ∈ e.walk, c.IsPlain)
    (hshown' : ∀ c ∈ e.walk, c.ShowsGroups)
    (heq : d.display = e.display) :
    d.language value = e.language value := by
  have hd : Denotes value .choice d.display.toList (d.language value) :=
    (denotes_display hplain hshown).choice
  have he : Denotes value .choice e.display.toList (e.language value) :=
    (denotes_display hplain' hshown').choice
  rw [heq] at hd
  have hend : Ends .choice [] := fun _ hc => nomatch hc
  exact (hd.unique he hend hend rfl).2

/-- A rule and then perhaps a name or a bar, with every group written out. -/
def nestedTail : Element :=
  .sequence
    [.nonTerminal "Type",
      .sequence [.optional (.oneOf [.terminal "Name" none, .oneOf [.token "|"]])]]

def flatTail : Element :=
  .sequence
    [.nonTerminal "Type",
      .optional (.oneOf [.terminal "Name" none, .terminal "Bar" (some (.literal "|"))])]

theorem language_eq_of_display_eq_tails :
    (∀ c ∈ nestedTail.walk, c.IsPlain) ∧
      (∀ c ∈ nestedTail.walk, c.ShowsGroups) ∧
      (∀ c ∈ flatTail.walk, c.IsPlain) ∧
      (∀ c ∈ flatTail.walk, c.ShowsGroups) ∧
      nestedTail.display = flatTail.display ∧
      nestedTail.language Leaf.spelling = flatTail.language Leaf.spelling := by
  have hplain : ∀ c ∈ nestedTail.walk, c.IsPlain := by decide +kernel
  have hshown : ∀ c ∈ nestedTail.walk, c.ShowsGroups := by decide +kernel
  have hplain' : ∀ c ∈ flatTail.walk, c.IsPlain := by decide +kernel
  have hshown' : ∀ c ∈ flatTail.walk, c.ShowsGroups := by decide +kernel
  have heq : nestedTail.display = flatTail.display := by decide +kernel
  exact ⟨hplain, hshown, hplain', hshown', heq,
    language_eq_of_display_eq hplain hshown hplain' hshown' heq⟩

/-- Two rules of which both may be missing: the choice around them is not written. -/
def optionalPair : Element :=
  .optional (.oneOf [.sequence [.nonTerminal "A", .nonTerminal "B"]])

/-- Two rules of which the second may be missing. -/
def optionalSecond : Element := .sequence [.nonTerminal "A", .optional (.nonTerminal "B")]

/-- A group of a single part hides a sequence from the mark behind it. -/
theorem display_hides_sequence :
    (∀ c ∈ optionalPair.walk, c.IsPlain) ∧
      (∀ c ∈ optionalSecond.walk, c.IsPlain) ∧
      optionalPair.display = optionalSecond.display ∧
      [] ∈ optionalPair.language Leaf.spelling ∧
      [] ∉ optionalSecond.language Leaf.spelling := by
  refine ⟨by decide +kernel, by decide +kernel, by decide +kernel, .inl rfl, ?_⟩
  rintro ⟨first, rfl, rest, -, h⟩
  cases h

end Display

end Element

end SchemaGrammar
