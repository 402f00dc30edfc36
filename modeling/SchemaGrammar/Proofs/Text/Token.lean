import SchemaGrammar.Text.Blank
import Mathlib.Data.List.DropRight
import Mathlib.Data.List.SplitBy

/-!
# Tokens of a text

A token is a word, which goes on as long as it can, or any other single character that is no
white space.  Texts that are put together keep their tokens unless a word goes on from one into
the other.  White space between them is enough to prevent it, and has no tokens of its own.

**Results.**
* `Text.tokens_append`: the tokens of two texts that no word joins.
* `Text.tokens_intercalate`: the tokens of texts with white space between them.
* `Text.tokens_trim`, `Text.flatMap_tokens_lines`: trimming a text and cutting it into lines.
-/

namespace SchemaGrammar.Text

/-- The characters of words: letters, digits and underscores of ASCII. -/
def isWordChar (c : Char) : Bool := c.isAlphanum || c == '_'

def charTokens (cs : List Char) : List (List Char) :=
  (cs.splitBy fun a b => isWordChar a && isWordChar b).filter fun run => !run.all isBlank

def tokens (s : String) : List String := (charTokens s.toList).map String.ofList

/-- No word goes on from the first characters into the second. -/
def Apart (xs ys : List Char) : Prop :=
  ∀ x ∈ xs.getLast?, ∀ y ∈ ys.head?, (isWordChar x && isWordChar y) = false

/-- Characters that are all white space. -/
def AllBlank (cs : List Char) : Prop := ∀ c ∈ cs, isBlank c = true

instance (cs : List Char) : Decidable (AllBlank cs) :=
  List.decidableBAll (fun c => isBlank c = true) cs

section Characters

variable {bs xs ys : List Char}

theorem isWordChar_eq_false_of_isBlank
    {c : Char}
    (h : isBlank c = true) :
    isWordChar c = false := by
  rw [← Bool.not_eq_true]
  intro hword
  have hbound : ∀ {d : Char}, c.val ≤ d.val → d.toNat < 128 → c.toNat < 128 :=
    fun hle hd => Nat.lt_of_le_of_lt (UInt32.le_iff_toNat_le.mp hle) hd
  have hascii : c.toNat < 128 := by
    change (((c.isUpper || c.isLower) || c.isDigit) || c == '_') = true at hword
    simp only [Bool.or_eq_true, beq_iff_eq] at hword
    rcases hword with ((hupper | hlower) | hdigit) | rfl
    · have hle : c.val ≥ 'A'.val ∧ c.val ≤ 'Z'.val := of_decide_eq_true hupper
      exact hbound hle.2 (by decide)
    · exact hbound (of_decide_eq_true ((Bool.and_eq_true _ _).mp hlower).2) (by decide)
    · exact hbound (of_decide_eq_true ((Bool.and_eq_true _ _).mp hdigit).2) (by decide)
    · decide
  have hall : ∀ n < 128, isWordChar (Char.ofNat n) = true → isBlank (Char.ofNat n) = false := by
    decide
  have hnot := hall c.toNat hascii
  rw [Char.ofNat_toNat] at hnot
  rw [hnot hword] at h
  cases h

/-- Characters that are kept apart are read apart. -/
theorem charTokens_append
    (h : Apart xs ys) :
    charTokens (xs ++ ys) = charTokens xs ++ charTokens ys := by
  unfold charTokens
  rw [List.splitBy_append h, List.filter_append]

theorem apart_of_allBlank_left
    (hbs : AllBlank bs)
    (ys : List Char) :
    Apart bs ys := by
  intro b hb y _
  rw [isWordChar_eq_false_of_isBlank (hbs b (List.mem_of_getLast? hb)), Bool.false_and]

theorem apart_of_allBlank_right
    (xs : List Char)
    (hbs : AllBlank bs) :
    Apart xs bs := by
  intro x _ b hb
  rw [isWordChar_eq_false_of_isBlank (hbs b (List.mem_of_mem_head? hb)), Bool.and_false]

theorem charTokens_of_allBlank
    (hbs : AllBlank bs) :
    charTokens bs = [] := by
  unfold charTokens
  rw [List.filter_eq_nil_iff]
  intro run hrun
  have hblank : run.all isBlank = true := by
    rw [List.all_eq_true]
    intro c hc
    refine hbs c ?_
    rw [← List.flatten_splitBy (fun a b => isWordChar a && isWordChar b) bs]
    exact List.mem_flatten.mpr ⟨run, hrun, hc⟩
  simp [hblank]

theorem charTokens_allBlank_append
    (hbs : AllBlank bs)
    (ys : List Char) :
    charTokens (bs ++ ys) = charTokens ys := by
  rw [charTokens_append (apart_of_allBlank_left hbs ys), charTokens_of_allBlank hbs,
    List.nil_append]

theorem charTokens_append_allBlank
    (xs : List Char)
    (hbs : AllBlank bs) :
    charTokens (xs ++ bs) = charTokens xs := by
  rw [charTokens_append (apart_of_allBlank_right xs hbs), charTokens_of_allBlank hbs,
    List.append_nil]

/-- Blanks keep tokens apart. -/
theorem charTokens_append_allBlank_append
    (xs : List Char)
    (hbs : AllBlank bs)
    (hne : bs ≠ [])
    (ys : List Char) :
    charTokens (xs ++ bs ++ ys) = charTokens xs ++ charTokens ys := by
  have hapart : Apart (xs ++ bs) ys := by
    intro b hb
    rw [List.getLast?_append_of_ne_nil _ hne] at hb
    exact apart_of_allBlank_left hbs ys b hb
  rw [charTokens_append hapart, charTokens_append_allBlank xs hbs]

/-- Groups with blanks between them are read one by one. -/
theorem charTokens_intercalate
    (hbs : AllBlank bs)
    (hne : bs ≠ [])
    (groups : List (List Char)) :
    charTokens (bs.intercalate groups) = groups.flatMap charTokens := by
  induction groups with
  | nil => rfl
  | cons group groups ih =>
      cases groups with
      | nil => simp
      | cons next groups =>
          rw [List.intercalate_cons_cons,
            charTokens_append_allBlank_append group hbs hne, ih, ← List.flatMap_cons]

theorem splitLineFeeds_ne_nil
    (cs : List Char) :
    splitLineFeeds cs ≠ [] := by
  cases cs with
  | nil => exact List.cons_ne_nil _ _
  | cons c cs =>
      rw [splitLineFeeds]
      split
      · exact List.cons_ne_nil _ _
      · split <;> exact List.cons_ne_nil _ _

/-- The pieces between line feeds are all that there is. -/
theorem intercalate_splitLineFeeds
    (cs : List Char) :
    ['\n'].intercalate (splitLineFeeds cs) = cs := by
  induction cs with
  | nil => rfl
  | cons c cs ih =>
      rw [splitLineFeeds]
      cases hpieces : splitLineFeeds cs with
      | nil => exact absurd hpieces (splitLineFeeds_ne_nil cs)
      | cons piece pieces =>
          rw [hpieces] at ih
          split
          · next hc => rw [List.intercalate_cons_cons, ih, hc, List.nil_append, List.singleton_append]
          · cases pieces with
            | nil => simpa using ih
            | cons next pieces =>
                rw [List.intercalate_cons_cons] at ih
                rw [List.intercalate_cons_cons, List.cons_append, List.cons_append, ih]

theorem charTokens_dropReturn
    (line : List Char) :
    charTokens (dropReturn line) = charTokens line := by
  unfold dropReturn
  split
  · next hreturn =>
      have hblank : AllBlank ['\r'] := by decide
      have hline := List.dropLast_append_getLast? '\r' hreturn
      rw [← charTokens_append_allBlank line.dropLast hblank, hline]
  · rfl

/-- Lines have the tokens of their pieces. -/
theorem flatMap_charTokens_linesOfPieces
    (pieces : List (List Char)) :
    (linesOfPieces pieces).flatMap charTokens = pieces.flatMap charTokens := by
  fun_induction linesOfPieces pieces with
  | case1 => rfl
  | case2 last h =>
      rw [List.isEmpty_iff.mp h]
      rfl
  | case3 last _ => rfl
  | case4 piece next pieces ih =>
      rw [List.flatMap_cons, List.flatMap_cons, ih, charTokens_dropReturn]

/-- Trimming takes no token away. -/
theorem charTokens_trimChars
    (cs : List Char) :
    charTokens (trimChars cs) = charTokens cs := by
  have hend : ∀ cs : List Char, charTokens (cs.rdropWhile isBlank) = charTokens cs := by
    intro cs
    have hblank : AllBlank (cs.rtakeWhile isBlank) := fun c hc => List.mem_rtakeWhile_imp hc
    rw [← charTokens_append_allBlank _ hblank, List.rdropWhile_append_rtakeWhile]
  have hstart : charTokens (cs.dropWhile isBlank) = charTokens cs := by
    have hblank : AllBlank (cs.takeWhile isBlank) := fun c hc => List.mem_takeWhile_imp hc
    rw [← charTokens_allBlank_append hblank, List.takeWhile_append_dropWhile]
  exact (hend _).trans hstart

end Characters

section Texts

variable {b s t : String}

@[simp] theorem tokens_empty : tokens "" = [] := rfl

theorem tokens_append
    (h : Apart s.toList t.toList) :
    tokens (s ++ t) = tokens s ++ tokens t := by
  unfold tokens
  rw [String.toList_append, charTokens_append h, List.map_append]

/-- Behind white space nothing goes on. -/
theorem tokens_append_allBlank_append
    (s : String)
    (hb : AllBlank b.toList)
    (hne : b ≠ "")
    (t : String) :
    tokens (s ++ b ++ t) = tokens s ++ tokens t := by
  have hchars : b.toList ≠ [] := fun h => hne (String.toList_eq_nil_iff.mp h)
  unfold tokens
  rw [String.toList_append, String.toList_append,
    charTokens_append_allBlank_append s.toList hb hchars, List.map_append]

theorem tokens_allBlank_append
    (hb : AllBlank b.toList)
    (t : String) :
    tokens (b ++ t) = tokens t := by
  unfold tokens
  rw [String.toList_append, charTokens_allBlank_append hb]

example : tokens "name_1 :[User!]" = ["name_1", ":", "[", "User", "!", "]"] := by decide

/-- **Tokens of joined texts.**  White space between texts changes none of their tokens. -/
theorem tokens_intercalate
    (hb : AllBlank b.toList)
    (hne : b ≠ "")
    (texts : List String) :
    tokens (b.intercalate texts) = texts.flatMap tokens := by
  have hchars : b.toList ≠ [] := fun h => hne (String.toList_eq_nil_iff.mp h)
  unfold tokens
  rw [String.toList_intercalate, charTokens_intercalate hb hchars, List.flatMap_map,
    List.map_flatMap]

theorem tokens_trim
    (s : String) :
    tokens (trim s) = tokens s := by
  unfold tokens trim
  rw [String.toList_ofList, charTokens_trimChars]

/-- Cutting a text into lines loses nothing but white space. -/
theorem flatMap_tokens_lines
    (s : String) :
    (lines s).flatMap tokens = tokens s := by
  have hblank : AllBlank ['\n'] := by decide
  have hpieces : (splitLineFeeds s.toList).flatMap charTokens = charTokens s.toList := by
    rw [← charTokens_intercalate hblank (List.cons_ne_nil _ _), intercalate_splitLineFeeds]
  unfold lines tokens
  rw [List.flatMap_map]
  simp only [String.toList_ofList]
  rw [← List.map_flatMap, flatMap_charTokens_linesOfPieces, hpieces]

end Texts

end SchemaGrammar.Text
