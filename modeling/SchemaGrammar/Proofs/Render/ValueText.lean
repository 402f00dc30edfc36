import SchemaGrammar.Json.Printer
import SchemaGrammar.Proofs.Render.Gluing

/-!
# How values begin

The compact text of a value begins with a bracket, a brace, a quote, a letter or, if it is a
number, with a digit or a sign.  None of these glues to what is before it, so that a value has a
space in front of it wherever a space is due.

**Results.**
* `numeric_numberChars`: numbers are written with the characters of numbers.
* `opens_compact`, `compact_ne_brace`: how every value begins, and that no value is a brace.
-/

namespace SchemaGrammar

open Render

section Numbers

/-- The characters of numbers. -/
def isNumeric (c : Char) : Bool := c.isDigit || ['-', '+', '.', 'e'].contains c

theorem isNumeric_of_mem_toDigits
    {n : Nat} :
    ∀ c ∈ Nat.toDigits 10 n, isNumeric c = true := by
  intro c hc
  rw [isNumeric, Nat.isDigit_of_mem_toDigits (by decide) (by decide) hc, Bool.true_or]

/-- Characters of numbers, at least one of them. -/
structure Numeric (cs : List Char) : Prop where
  nonempty : cs ≠ []
  chars : ∀ c ∈ cs, isNumeric c = true

theorem numeric_toDigits
    (n : Nat) :
    Numeric (Nat.toDigits 10 n) :=
  ⟨Nat.toDigits_ne_nil, isNumeric_of_mem_toDigits⟩

theorem Numeric.signed
    {cs : List Char}
    (h : Numeric cs) :
    Numeric ('-' :: cs) :=
  ⟨List.cons_ne_nil _ _, List.forall_mem_cons.mpr ⟨by decide, h.chars⟩⟩

theorem numeric_positional
    (d : Decimal) :
    Numeric d.positional := by
  have hdigits : ∀ c ∈ d.digitChars, isNumeric c = true := isNumeric_of_mem_toDigits
  have hzeros : ∀ n, ∀ c ∈ Decimal.zeros n, isNumeric c = true := by
    intro n c hc
    rw [List.eq_of_mem_replicate hc]
    decide
  have hsigns : ∀ cs : List Char, cs.all isNumeric = true → ∀ c ∈ cs, isNumeric c = true :=
    fun _ => List.all_eq_true.mp
  unfold Decimal.positional
  dsimp only
  split
  · refine ⟨by simp, ?_⟩
    simp only [List.forall_mem_append]
    exact ⟨⟨hdigits, hzeros _⟩, hsigns _ (by decide)⟩
  · split
    · refine ⟨by simp, ?_⟩
      simp only [List.forall_mem_append]
      exact ⟨⟨fun c hc => hdigits c (List.mem_of_mem_take hc), hsigns _ (by decide)⟩,
        fun c hc => hdigits c (List.mem_of_mem_drop hc)⟩
    · refine ⟨by simp, ?_⟩
      simp only [List.forall_mem_append]
      exact ⟨⟨hsigns _ (by decide), hzeros _⟩, hdigits⟩

theorem numeric_scientific
    (d : Decimal) :
    Numeric d.scientific := by
  have hdigits : ∀ c ∈ d.digitChars, isNumeric c = true := isNumeric_of_mem_toDigits
  unfold Decimal.scientific
  dsimp only
  refine ⟨by simp, ?_⟩
  simp only [List.forall_mem_append]
  refine ⟨⟨?_, ?_⟩, isNumeric_of_mem_toDigits⟩
  · split
    · exact List.forall_mem_nil _
    · next c heq => exact heq ▸ hdigits
    · next c cs heq =>
        rw [heq, List.forall_mem_cons] at hdigits
        simp only [List.forall_mem_cons]
        exact ⟨hdigits.1, by decide, hdigits.2⟩
  · split <;> exact List.all_eq_true.mp (by decide)

/-- Numbers are written with numeric characters. -/
theorem numeric_numberChars
    (n : Number) :
    Numeric (Json.numberChars n) := by
  cases n with
  | int i =>
      cases i with
      | ofNat n => exact numeric_toDigits n
      | negSucc n => exact (numeric_toDigits (n + 1)).signed
  | double d =>
      have hbody : ∀ plain : Bool, Numeric
          (if plain then (Decimal.shortest d.magnitude).positional
            else (Decimal.shortest d.magnitude).scientific) := by
        intro plain
        split
        · exact numeric_positional _
        · exact numeric_scientific _
      show Numeric d.jsonText
      unfold Double.jsonText Double.text
      dsimp only
      split
      · exact (hbody _).signed
      · exact hbody _

end Numbers

theorem loose_of_isNumeric
    {c : Char}
    (h : isNumeric c = true) :
    Layout.gluesLeft c = false ∧ Text.isBlank c = false ∧ c ≠ '\x7b' := by
  rw [isNumeric, Bool.or_eq_true, List.contains_iff_mem] at h
  rcases h with hdigit | hsign
  · have hword : Text.isWordChar c = true := by
      rw [Text.isWordChar, Char.isAlphanum, hdigit, Bool.or_true, Bool.true_or]
    obtain ⟨hleft, -, hblank⟩ := loose_of_isWordChar hword
    refine ⟨hleft, hblank, ?_⟩
    rintro rfl
    exact absurd hdigit (by decide)
  · simp only [List.mem_cons, List.not_mem_nil, or_false] at hsign
    rcases hsign with rfl | rfl | rfl | rfl <;> decide

/-- A value begins with a character that neither glues nor is blank, and goes on behind a brace. -/
theorem exists_compactChars_eq_cons
    (v : Json) :
    ∃ c cs, v.compactChars = c :: cs ∧ Layout.gluesLeft c = false ∧ Text.isBlank c = false ∧
      (c = '\x7b' → cs ≠ []) := by
  cases v with
  | null => exact ⟨_, _, rfl, by decide⟩
  | bool b => cases b <;> exact ⟨_, _, rfl, by decide⟩
  | str text => exact ⟨_, _, rfl, by decide, by decide, fun h => absurd h (by decide)⟩
  | arr items => exact ⟨_, _, rfl, by decide, by decide, fun h => absurd h (by decide)⟩
  | obj members => exact ⟨_, _, rfl, by decide, by decide, fun _ => by simp⟩
  | num n =>
      obtain ⟨hnonempty, hchars⟩ := numeric_numberChars n
      obtain ⟨c, cs, hcs⟩ := List.exists_cons_of_ne_nil hnonempty
      obtain ⟨hleft, hblank, hbrace⟩ := loose_of_isNumeric (hchars c (hcs ▸ List.mem_cons_self))
      exact ⟨c, cs, hcs, hleft, hblank, fun h => absurd h hbrace⟩

theorem opens_compact
    (v : Json) :
    Opens v.compact := by
  obtain ⟨c, cs, hchars, hleft, hblank, -⟩ := exists_compactChars_eq_cons v
  refine ⟨c, ?_, hleft, hblank⟩
  rw [Json.compact, String.toList_ofList, hchars]
  rfl

/-- No value is written as a brace alone. -/
theorem compact_ne_brace
    (v : Json) :
    v.compact ≠ "\x7b" := by
  obtain ⟨c, cs, hchars, -, -, hbehind⟩ := exists_compactChars_eq_cons v
  intro h
  have hlist : c :: cs = ['\x7b'] := by
    rw [← hchars, ← String.toList_ofList (l := v.compactChars)]
    exact congrArg String.toList h
  cases hlist
  exact hbehind rfl rfl

end SchemaGrammar
