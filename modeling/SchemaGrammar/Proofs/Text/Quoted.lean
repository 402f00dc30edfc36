import SchemaGrammar.Text.Quoted
import SchemaGrammar.Proofs.Collection.Front
import Mathlib.Data.List.Basic

/-!
# Quoted text can be read back

A quoted text tells its characters, and it tells where it ends: what follows a closing quote is
never taken for a part of the text.

**Results.**
* `Text.quoteChar_append_cancel`: quoted characters are told apart, whatever follows them.
* `Text.quote_append_cancel`: so are quoted texts.
-/

namespace SchemaGrammar.Text

section Digits

theorem digitChar_inj
    {m n : Nat}
    (hm : m < 16)
    (hn : n < 16)
    (h : m.digitChar = n.digitChar) :
    m = n := by
  have hall : ∀ a < 16, ∀ b < 16, a.digitChar = b.digitChar → a = b := by decide
  exact hall m hm n hn h

theorem exists_digit_of_mem_toDigits
    (n : Nat) :
    ∀ c ∈ Nat.toDigits 16 n, ∃ d < 16, c = d.digitChar := by
  induction n using Nat.strongRecOn with
  | ind n ih =>
      intro c hc
      rw [Nat.toDigits_eq_if (by decide)] at hc
      split at hc
      · next hn => exact ⟨n, hn, List.mem_singleton.mp hc⟩
      · next hn =>
          rcases List.mem_append.mp hc with hc | hc
          · exact ih (n / 16) (by omega) c hc
          · exact ⟨n % 16, by omega, List.mem_singleton.mp hc⟩

/-- A number is told by its digits. -/
theorem toDigits_inj
    {m n : Nat}
    (h : Nat.toDigits 16 m = Nat.toDigits 16 n) :
    m = n := by
  induction m using Nat.strongRecOn generalizing n with
  | ind m ih =>
      rw [Nat.toDigits_eq_if (by decide), Nat.toDigits_eq_if (n := n) (by decide)] at h
      split at h
      · next hm =>
          split at h
          · next hn => exact digitChar_inj hm hn (List.singleton_inj.mp h)
          · next hn =>
              have hlength := congrArg List.length h
              have hpos := Nat.length_toDigits_pos (b := 16) (n := n / 16)
              rw [List.length_append, List.length_singleton, List.length_singleton] at hlength
              omega
      · next hm =>
          split at h
          · next hn =>
              have hlength := congrArg List.length h
              have hpos := Nat.length_toDigits_pos (b := 16) (n := m / 16)
              rw [List.length_append, List.length_singleton, List.length_singleton] at hlength
              omega
          · next hn =>
              obtain ⟨hhigh, hlow⟩ := List.append_inj' h rfl
              have hquotient := ih (m / 16) (by omega) hhigh
              have hremainder := digitChar_inj (by omega) (by omega) (List.singleton_inj.mp hlow)
              omega

end Digits

section Characters

/-- The characters that a letter behind a backslash stands for. -/
def escapes : List (Char × Char) :=
  [('0', '\x00'), ('t', '\t'), ('r', '\r'), ('n', '\n'), ('\\', '\\'), ('"', '"')]

/-- The forms of a quoted character. -/
inductive Quoted (c : Char) : List Char → Prop
  | plain (hbackslash : c ≠ '\\') (hquote : c ≠ '"') : Quoted c [c]
  | escape {letter : Char} (h : (letter, c) ∈ escapes) : Quoted c ['\\', letter]
  | code : Quoted c ('\\' :: 'u' :: '\x7b' :: (Nat.toDigits 16 c.toNat ++ ['\x7d']))

variable {c d : Char} {x y rest others : List Char}

/-- A character is quoted in one of its forms. -/
theorem quoted_quoteChar
    (c : Char) :
    Quoted c (quoteChar c) := by
  unfold quoteChar
  split
  · next hc => exact .escape (by rw [hc]; decide)
  split
  · next hc => exact .escape (by rw [hc]; decide)
  split
  · next hc => exact .escape (by rw [hc]; decide)
  split
  · next hc => exact .escape (by rw [hc]; decide)
  split
  · next hc => exact .escape (by rw [hc]; decide)
  · next hbackslash =>
      split
      · next hc => exact .escape (by rw [hc]; decide)
      · next hquote =>
          split
          · exact .code
          · exact .plain hbackslash hquote

/-- A quoted character does not begin with a quote. -/
theorem Quoted.head_ne
    (h : Quoted c x) :
    ∃ d y, x = d :: y ∧ d ≠ '"' := by
  cases h with
  | plain _ hquote => exact ⟨c, [], rfl, hquote⟩
  | escape _ => exact ⟨'\\', _, rfl, by decide⟩
  | code => exact ⟨'\\', _, rfl, by decide⟩

/-- Up to the brace that ends it, a code point is told by its digits. -/
theorem toDigits_append_cancel
    {m n : Nat}
    (h : Nat.toDigits 16 m ++ '\x7d' :: rest = Nat.toDigits 16 n ++ '\x7d' :: others) :
    m = n ∧ rest = others := by
  have hdigits (k : Nat) : ∀ a ∈ Nat.toDigits 16 k, decide (a ≠ '\x7d') = true := by
    intro a ha
    obtain ⟨i, hi, rfl⟩ := exists_digit_of_mem_toDigits k a ha
    have hall : ∀ i < 16, decide (i.digitChar ≠ '\x7d') = true := by decide
    exact hall i hi
  have hbrace (more : List Char) :
      ∀ a ∈ ('\x7d' :: more).head?, decide (a ≠ '\x7d') = false := by
    rintro a ⟨⟩
    decide
  obtain ⟨hsame, hrest⟩ :=
    Front.append_cancel (hdigits m) (hdigits n) (hbrace rest) (hbrace others) h
  exact ⟨toDigits_inj hsame, (List.cons.inj hrest).2⟩

/-- Quoted characters are told apart, whatever follows them. -/
theorem Quoted.append_cancel
    (hx : Quoted c x)
    (hy : Quoted d y)
    (h : x ++ rest = y ++ others) :
    c = d ∧ rest = others := by
  have hletter : ∀ p ∈ escapes, ∀ q ∈ escapes, p.1 = q.1 → p.2 = q.2 := by decide
  have hnot : ∀ p ∈ escapes, p.1 ≠ 'u' := by decide
  cases hx with
  | plain hbackslash _ =>
      cases hy with
      | plain _ _ => exact List.cons.inj h
      | escape _ => exact absurd (List.cons.inj h).1 hbackslash
      | code => exact absurd (List.cons.inj h).1 hbackslash
  | @escape letter hc =>
      cases hy with
      | plain hbackslash _ => exact absurd (List.cons.inj h).1.symm hbackslash
      | @escape other hd =>
          obtain ⟨hsame, hrest⟩ := List.cons.inj (List.cons.inj h).2
          exact ⟨hletter _ hc _ hd hsame, hrest⟩
      | code => exact absurd (List.cons.inj (List.cons.inj h).2).1 (hnot _ hc)
  | code =>
      cases hy with
      | plain hbackslash _ => exact absurd (List.cons.inj h).1.symm hbackslash
      | escape hd => exact absurd (List.cons.inj (List.cons.inj h).2).1.symm (hnot _ hd)
      | code =>
          simp only [List.cons_append, List.append_assoc, List.nil_append, List.cons.injEq,
            true_and] at h
          obtain ⟨hsame, hrest⟩ := toDigits_append_cancel h
          exact ⟨Char.toNat_inj.mp hsame, hrest⟩

end Characters

section Texts

variable {rest others : List Char}

/-- A quoted text is told from what follows its closing quote. -/
theorem flatMap_quoteChar_append_cancel
    {cs ds : List Char}
    (h : cs.flatMap quoteChar ++ '"' :: rest = ds.flatMap quoteChar ++ '"' :: others) :
    cs = ds ∧ rest = others := by
  induction cs generalizing ds with
  | nil =>
      cases ds with
      | nil => exact ⟨rfl, (List.cons.inj h).2⟩
      | cons d ds =>
          obtain ⟨e, y, hquoted, hne⟩ := (quoted_quoteChar d).head_ne
          rw [List.flatMap_cons, hquoted] at h
          exact absurd (List.cons.inj h).1.symm hne
  | cons c cs ih =>
      cases ds with
      | nil =>
          obtain ⟨e, y, hquoted, hne⟩ := (quoted_quoteChar c).head_ne
          rw [List.flatMap_cons, hquoted] at h
          exact absurd (List.cons.inj h).1 hne
      | cons d ds =>
          rw [List.flatMap_cons, List.flatMap_cons, List.append_assoc, List.append_assoc] at h
          obtain ⟨rfl, hbehind⟩ := (quoted_quoteChar c).append_cancel (quoted_quoteChar d) h
          obtain ⟨rfl, hrest⟩ := ih hbehind
          exact ⟨rfl, hrest⟩

theorem toList_quote
    (s : String) :
    (quote s).toList = '"' :: s.toList.flatMap quoteChar ++ ['"'] := by
  rw [quote, String.toList_ofList]

/-- Quoted texts are told apart, whatever follows them. -/
theorem quote_append_cancel
    {s t : String}
    (h : (quote s).toList ++ rest = (quote t).toList ++ others) :
    s = t ∧ rest = others := by
  rw [toList_quote, toList_quote, List.cons_append, List.cons_append, List.append_assoc,
    List.append_assoc] at h
  obtain ⟨hchars, hrest⟩ := flatMap_quoteChar_append_cancel (List.cons.inj h).2
  exact ⟨String.toList_inj.mp hchars, hrest⟩

end Texts

end SchemaGrammar.Text
