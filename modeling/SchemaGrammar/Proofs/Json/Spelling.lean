import SchemaGrammar.Json.Printer
import SchemaGrammar.Json.Reader
import SchemaGrammar.Proofs.Collection.Front
import SchemaGrammar.Proofs.Json.Meaning
import Mathlib.Algebra.Group.Int.Defs
import Mathlib.Algebra.Group.Nat.Defs

/-!
# Written JSON is read back

A value is spelled by the texts that write it, with blanks around items, keys and values
wherever they may stand.  The compact and the indented text of a value both spell it, as long as
its numbers are integers of 64 bits, and every text that spells a value is read as a document
that stands for it.

**Results.**
* `JsonText.spells_compactChars`, `JsonText.spells_indentedChars`: both printers spell.
* `JsonText.Spells.exists_readValue`: what spells a value is read as a document of the value.
* `Document.exists_ofText`: the same for a whole text.
-/

namespace SchemaGrammar

/-- Whether a number is an integer that fits into 64 bits, with a sign or without. -/
def Number.IsWord : Number → Prop
  | .int i => -(2 ^ 63) ≤ i ∧ i < 2 ^ 64
  | .double _ => False

namespace Json

mutual

/-- Every number in the value is an integer of 64 bits. -/
def Integral : Json → Prop
  | .num n => n.IsWord
  | .arr items => IntegralItems items
  | .obj members => IntegralMembers members
  | _ => True

def IntegralItems : List Json → Prop
  | [] => True
  | v :: vs => Integral v ∧ IntegralItems vs

def IntegralMembers : List (String × Json) → Prop
  | [] => True
  | (_, v) :: ms => Integral v ∧ IntegralMembers ms

end

theorem integralMembers_iff
    {ms : List (String × Json)} :
    IntegralMembers ms ↔ ∀ m ∈ ms, m.2.Integral := by
  induction ms with
  | nil => simp [IntegralMembers]
  | cons m rest ih => rw [IntegralMembers, ih, List.forall_mem_cons]

end Json

namespace JsonText

section Blanks

/-- Characters that may stand between tokens. -/
def Blank (bs : List Char) : Prop := ∀ c ∈ bs, isBlank c = true

theorem blank_nil : Blank [] := by simp [Blank]

theorem blank_space : Blank [' '] := by simp [Blank, isBlank]

theorem blank_newline
    (level : Nat) :
    Blank (Json.newline level) := by
  intro c hc
  rcases List.mem_cons.mp hc with rfl | hc
  · rfl
  · rw [List.eq_of_mem_replicate hc]
    rfl

/-- Blanks in front are skipped. -/
theorem skipBlanks_append
    {bs : List Char}
    (hbs : Blank bs)
    (cs : List Char) :
    skipBlanks (bs ++ cs) = skipBlanks cs := by
  unfold skipBlanks
  rw [List.dropWhile_append_of_pos hbs]

theorem skipBlanks_cons
    {c : Char}
    (hc : isBlank c = false)
    (cs : List Char) :
    skipBlanks (c :: cs) = c :: cs := by
  unfold skipBlanks
  rw [List.dropWhile_cons, hc]
  rfl

end Blanks

section Strings

/-- A piece of a written string stands for a character. -/
def PieceOf (p : Piece) (c : Char) : Prop :=
  ∀ rest, readPieces .closed (p :: rest) = (readPieces .closed rest).map (c :: ·)

theorem pieceOf_char
    (c : Char) :
    PieceOf (.char c) c :=
  fun _ => rfl

/-- A control character is a code unit of its own. -/
theorem pieceOf_unit
    {c : Char}
    (hc : c.toNat < 32) :
    PieceOf (.unit c.toNat) c := by
  intro rest
  have hlow : isLowSurrogate c.toNat = false := by simp [isLowSurrogate]; omega
  have hhigh : isHighSurrogate c.toNat = false := by simp [isHighSurrogate]; omega
  rw [readPieces.eq_def]
  simp only [hlow, hhigh, Char.ofNat_toNat, Bool.false_eq_true, if_false]

theorem hexUnit?_short :
    ∀ n < 32, hexUnit? '0' '0' (Nat.digitChar (n / 16)) (Nat.digitChar (n % 16)) = some n := by
  decide

/-- The letter of a short escape stands for the character. -/
theorem readString_short
    {letter c : Char}
    (hletter : letter ≠ 'u')
    (h : escaped? letter = some c)
    (cs : List Char) :
    readString ('\\' :: letter :: cs) = withPiece (.char c) (readString cs) := by
  rw [readString.eq_def]
  dsimp only
  rw [if_neg (by decide), if_pos rfl, if_neg hletter, h]

/-- An escape of four digits is read as its code unit. -/
theorem readString_unicodeEscape
    {n : Nat}
    (hn : n < 32)
    (cs : List Char) :
    readString (Json.unicodeEscape n ++ cs) = withPiece (.unit n) (readString cs) := by
  unfold Json.unicodeEscape
  rw [List.cons_append, readString.eq_def]
  simp only [List.cons_append, List.nil_append, if_true, hexUnit?_short n hn]
  rw [if_neg (by decide)]

/-- A character that needs no escape is read as itself. -/
theorem readString_plain
    {c : Char}
    (hquote : c ≠ '"')
    (hslash : c ≠ '\\')
    (hcontrol : ¬ c < ' ')
    (cs : List Char) :
    readString (c :: cs) = withPiece (.char c) (readString cs) := by
  rw [readString.eq_def]
  dsimp only
  rw [if_neg hquote, if_neg hslash, if_neg hcontrol]

/-- A character of a string is read back however it is escaped. -/
theorem exists_readString_escapeChar
    (c : Char) :
    ∃ p, PieceOf p c ∧
      ∀ cs, readString (Json.escapeChar c ++ cs) = withPiece p (readString cs) := by
  have hshort : ∀ letter, letter ≠ 'u' → escaped? letter = some c →
      ∃ p, PieceOf p c ∧ ∀ cs, readString ('\\' :: letter :: cs) = withPiece p (readString cs) :=
    fun letter hletter h => ⟨.char c, pieceOf_char c, readString_short hletter h⟩
  unfold Json.escapeChar
  split
  · next h => exact hshort '"' (by decide) (by subst h; rfl)
  split
  · next h => exact hshort '\\' (by decide) (by subst h; rfl)
  split
  · next h => exact hshort 'b' (by decide) (by subst h; rfl)
  split
  · next h => exact hshort 't' (by decide) (by subst h; rfl)
  split
  · next h => exact hshort 'n' (by decide) (by subst h; rfl)
  split
  · next h => exact hshort 'f' (by decide) (by subst h; rfl)
  split
  · next h => exact hshort 'r' (by decide) (by subst h; rfl)
  split
  · next hcontrol =>
      have hlt : c.toNat < 32 := Nat.lt_of_succ_le hcontrol
      exact ⟨.unit c.toNat, pieceOf_unit hlt, readString_unicodeEscape hlt⟩
  · next hquote hslash _ _ _ _ _ hcontrol =>
      exact ⟨.char c, pieceOf_char c, readString_plain hquote hslash hcontrol⟩

/-- A written string is read back behind its opening quote. -/
theorem exists_readString
    (cs : List Char) :
    ∃ lit : StringLit, lit.read = .ok (String.ofList cs) ∧
      ∀ rest, readString (cs.flatMap Json.escapeChar ++ '"' :: rest) = (lit, rest) := by
  suffices h : ∃ ps, readPieces .closed ps = .ok cs ∧
      ∀ rest, readString (cs.flatMap Json.escapeChar ++ '"' :: rest) = (⟨ps, .closed⟩, rest) by
    obtain ⟨ps, hps, h⟩ := h
    exact ⟨⟨ps, .closed⟩, by rw [StringLit.read, hps]; rfl, h⟩
  induction cs with
  | nil =>
      exact ⟨[], rfl, fun rest => by rw [List.flatMap_nil, List.nil_append, readString.eq_def]; rfl⟩
  | cons c cs ih =>
      obtain ⟨ps, hps, hcs⟩ := ih
      obtain ⟨p, hp, hc⟩ := exists_readString_escapeChar c
      refine ⟨p :: ps, ?_, fun rest => ?_⟩
      · rw [hp, hps]
        rfl
      · rw [List.flatMap_cons, List.append_assoc, hc, hcs]
        rfl

end Strings

section Numbers

/-- A text that does not go on with a number before it. -/
def EndsNumber (rest : List Char) : Prop :=
  ∀ c ∈ rest.head?, isDigit c = false ∧ c ≠ '.' ∧ c ≠ 'e' ∧ c ≠ 'E'

theorem isDigit_of_mem_toDigits
    {n : Nat}
    {c : Char}
    (hc : c ∈ Nat.toDigits 10 n) :
    isDigit c = true :=
  Nat.isDigit_of_mem_toDigits (by decide) (by decide) hc

/-- The digits of a number are read as the number. -/
theorem digitsValue_toDigits
    (n : Nat) :
    digitsValue (Nat.toDigits 10 n) = n := by
  have h := Nat.ofDigitChars_ten_toDigits (n := n)
  rw [Nat.ofDigitChars_eq_foldl] at h
  unfold digitsValue digitValue
  simpa only [Nat.mul_comm] using h

/-- Only zero is written with a zero in front. -/
theorem eq_zero_of_head?_toDigits
    {n : Nat}
    (h : (Nat.toDigits 10 n).head? = some '0') :
    n = 0 := by
  induction n using Nat.strongRecOn with
  | ind n ih =>
      rw [Nat.toDigits_eq_if (by decide)] at h
      split at h
      · exact Nat.digitChar_eq_zero.mp (Option.some.inj h)
      · next hn =>
          obtain ⟨c, cs, hcs⟩ := List.exists_cons_of_ne_nil (Nat.toDigits_ne_nil (n := n / 10))
          rw [hcs] at h
          have hzero := ih (n / 10) (by omega) (by rw [hcs]; exact h)
          omega

/-- A number has no zero in front. -/
theorem toDigits_ne_zero_cons
    (n : Nat)
    (c : Char)
    (cs : List Char) :
    Nat.toDigits 10 n ≠ '0' :: c :: cs := by
  intro h
  have hn : n = 0 := eq_zero_of_head?_toDigits (by rw [h]; rfl)
  rw [hn, Nat.toDigits_zero] at h
  cases h

theorem readExponent_of_endsNumber
    (negative : Bool)
    (ds : List Char)
    {rest : List Char}
    (hrest : EndsNumber rest) :
    readExponent negative ds none rest =
      (.num (Numeral.mk negative ds none none).toNumber?, rest) := by
  cases rest with
  | nil => rfl
  | cons c rest =>
      obtain ⟨-, -, he, hE⟩ := hrest c rfl
      rw [readExponent.eq_def]
      dsimp only
      rw [if_neg (not_or.mpr ⟨he, hE⟩)]

/-- The digits of a number are read up to their end. -/
theorem readNumber_toDigits
    (negative : Bool)
    (n : Nat)
    {rest : List Char}
    (hrest : EndsNumber rest) :
    readNumber negative (Nat.toDigits 10 n ++ rest) =
      (.num (Numeral.mk negative (Nat.toDigits 10 n) none none).toNumber?, rest) := by
  have hdigits : ∀ c ∈ Nat.toDigits 10 n, isDigit c = true := fun _ => isDigit_of_mem_toDigits
  have hend : ∀ c ∈ rest.head?, isDigit c = false := fun c hc => (hrest c hc).1
  unfold readNumber
  dsimp only
  rw [Front.takeWhile_append hdigits hend, Front.dropWhile_append hdigits hend]
  split
  · next h => exact absurd h Nat.toDigits_ne_nil
  · next c cs h => exact absurd h (toDigits_ne_zero_cons n c cs)
  · split
    · next more => exact absurd rfl (hrest '.' rfl).2.1
    · exact readExponent_of_endsNumber negative _ hrest

/-- A natural number of 64 bits is read exactly. -/
theorem toNumber?_nat
    {n : Nat}
    (hn : n < 2 ^ 64) :
    (Numeral.mk false (Nat.toDigits 10 n) none none).toNumber? = some (.int n) := by
  have hle : n ≤ maxWord := Nat.le_sub_one_of_lt hn
  simp [Numeral.toNumber?, digitsValue_toDigits, hle]

theorem toNumber?_negative
    {n : Nat}
    (hpos : 0 < n)
    (hn : n ≤ 2 ^ 63) :
    (Numeral.mk true (Nat.toDigits 10 n) none none).toNumber? = some (.int (-(n : Int))) := by
  have hle : n ≤ Nat.pow 2 63 := hn
  simp [Numeral.toNumber?, digitsValue_toDigits, hpos, hle]

end Numbers

section Spelling

mutual

/-- A text writes a value. -/
inductive Spells : Json → List Char → Prop
  | null : Spells .null ['n', 'u', 'l', 'l']
  | bool (b : Bool) : Spells (.bool b) (Json.boolChars b)
  | int {i : Int} :
      (Number.int i).IsWord →
      Spells (.num (.int i)) (Json.intChars i)
  | str (s : String) : Spells (.str s) (Json.stringChars s)
  | emptyArr : Spells (.arr []) ['[', ']']
  | arr {vs : List Json} {cs : List Char} :
      SpellsItems vs cs →
      Spells (.arr vs) ('[' :: cs ++ [']'])
  | emptyObj : Spells (.obj []) ['\x7b', '\x7d']
  | obj {vs : List (String × Json)} {cs : List Char} :
      SpellsMembers vs cs →
      Spells (.obj vs) ('\x7b' :: cs ++ ['\x7d'])

/-- A text writes one item or several, with commas between them. -/
inductive SpellsItems : List Json → List Char → Prop
  | last {v : Json} {before cs behind : List Char} :
      Blank before →
      Spells v cs →
      Blank behind →
      SpellsItems [v] (before ++ (cs ++ behind))
  | more {v : Json} {vs : List Json} {before cs rest : List Char} :
      Blank before →
      Spells v cs →
      SpellsItems vs rest →
      SpellsItems (v :: vs) (before ++ (cs ++ ',' :: rest))

/-- A text writes one member or several, with commas between them. -/
inductive SpellsMembers : List (String × Json) → List Char → Prop
  | last {key : String} {v : Json} {before between cs behind : List Char} :
      Blank before →
      Blank between →
      Spells v cs →
      Blank behind →
      SpellsMembers [(key, v)]
        (before ++ (Json.stringChars key ++ ':' :: (between ++ (cs ++ behind))))
  | more {key : String} {v : Json} {vs : List (String × Json)}
      {before between cs rest : List Char} :
      Blank before →
      Blank between →
      Spells v cs →
      SpellsMembers vs rest →
      SpellsMembers ((key, v) :: vs)
        (before ++ (Json.stringChars key ++ ':' :: (between ++ (cs ++ ',' :: rest))))

end

mutual

/-- The compact text spells. -/
theorem spells_compactChars : ∀ v : Json, v.Integral → Spells v v.compactChars
  | .null, _ => .null
  | .bool b, _ => .bool b
  | .num (.int _), h => .int h
  | .num (.double _), h => h.elim
  | .str s, _ => .str s
  | .arr [], _ => .emptyArr
  | .arr (v :: vs), h => .arr (spellsItems_compactItems (v :: vs) (List.cons_ne_nil v vs) h)
  | .obj [], _ => .emptyObj
  | .obj (m :: ms), h => .obj (spellsMembers_compactMembers (m :: ms) (List.cons_ne_nil m ms) h)

/-- Compact items spell their values. -/
theorem spellsItems_compactItems :
    ∀ vs : List Json, vs ≠ [] → Json.IntegralItems vs → SpellsItems vs (Json.compactItems vs)
  | [], hne, _ => absurd rfl hne
  | [v], _, h => by
      have hlast := SpellsItems.last blank_nil (spells_compactChars v h.1) blank_nil
      rwa [List.nil_append, List.append_nil] at hlast
  | v :: w :: vs, _, h =>
      .more blank_nil (spells_compactChars v h.1)
        (spellsItems_compactItems (w :: vs) (List.cons_ne_nil w vs) h.2)

theorem spellsMembers_compactMembers :
    ∀ ms : List (String × Json), ms ≠ [] → Json.IntegralMembers ms →
      SpellsMembers ms (Json.compactMembers ms)
  | [], hne, _ => absurd rfl hne
  | [(key, v)], _, h => by
      have hlast : SpellsMembers [(key, v)] _ :=
        .last blank_nil blank_nil (spells_compactChars v h.1) blank_nil
      rwa [List.nil_append, List.nil_append, List.append_nil] at hlast
  | (key, v) :: m :: ms, _, h => by
      rw [Json.compactMembers, List.append_assoc]
      exact .more blank_nil blank_nil (spells_compactChars v h.1)
        (spellsMembers_compactMembers (m :: ms) (List.cons_ne_nil m ms) h.2)

end

mutual

/-- The indented text spells. -/
theorem spells_indentedChars : ∀ (v : Json) (level : Nat),
    v.Integral → Spells v (v.indentedChars level)
  | .null, _, _ => .null
  | .bool b, _, _ => .bool b
  | .num (.int _), _, h => .int h
  | .num (.double _), _, h => h.elim
  | .str s, _, _ => .str s
  | .arr [], _, _ => .emptyArr
  | .arr (v :: vs), level, h =>
      .arr (spellsItems_indentedItems (v :: vs) (level + 1) (List.cons_ne_nil v vs) h
        (blank_newline level))
  | .obj [], _, _ => .emptyObj
  | .obj (m :: ms), level, h =>
      .obj (spellsMembers_indentedMembers (m :: ms) (level + 1) (List.cons_ne_nil m ms) h
        (blank_newline level))

/-- Indented items spell their values, at every level. -/
theorem spellsItems_indentedItems :
    ∀ (vs : List Json) (level : Nat) {behind : List Char},
      vs ≠ [] → Json.IntegralItems vs → Blank behind →
        SpellsItems vs (Json.indentedItems level vs ++ behind)
  | [], _, _, hne, _, _ => absurd rfl hne
  | [v], level, _, _, h, hbehind => by
      rw [Json.indentedItems, List.append_assoc]
      exact .last (blank_newline level) (spells_indentedChars v level h.1) hbehind
  | v :: w :: vs, level, _, _, h, hbehind => by
      rw [Json.indentedItems, List.append_assoc, List.append_assoc, List.cons_append]
      exact .more (blank_newline level) (spells_indentedChars v level h.1)
        (spellsItems_indentedItems (w :: vs) level (List.cons_ne_nil w vs) h.2 hbehind)

theorem spellsMembers_indentedMembers :
    ∀ (ms : List (String × Json)) (level : Nat) {behind : List Char},
      ms ≠ [] → Json.IntegralMembers ms → Blank behind →
        SpellsMembers ms (Json.indentedMembers level ms ++ behind)
  | [], _, _, hne, _, _ => absurd rfl hne
  | [(key, v)], level, _, _, h, hbehind => by
      rw [Json.indentedMembers, List.append_assoc, List.append_assoc, List.cons_append]
      exact .last (blank_newline level) blank_space (spells_indentedChars v level h.1) hbehind
  | (key, v) :: m :: ms, level, _, _, h, hbehind => by
      simp only [Json.indentedMembers, List.append_assoc, List.cons_append]
      exact .more (blank_newline level) blank_space (spells_indentedChars v level h.1)
        (spellsMembers_indentedMembers (m :: ms) level (List.cons_ne_nil m ms) h.2 hbehind)

end

end Spelling

section Reading

theorem endsNumber_cons
    {c : Char}
    (hdigit : isDigit c = false)
    (hpoint : c ≠ '.')
    (he : c ≠ 'e')
    (hE : c ≠ 'E')
    (rest : List Char) :
    EndsNumber (c :: rest) := by
  rintro c' ⟨⟩
  exact ⟨hdigit, hpoint, he, hE⟩

theorem endsNumber_comma (rest : List Char) : EndsNumber (',' :: rest) :=
  endsNumber_cons (by decide) (by decide) (by decide) (by decide) rest

theorem endsNumber_bracket (rest : List Char) : EndsNumber (']' :: rest) :=
  endsNumber_cons (by decide) (by decide) (by decide) (by decide) rest

theorem endsNumber_brace (rest : List Char) : EndsNumber ('\x7d' :: rest) :=
  endsNumber_cons (by decide) (by decide) (by decide) (by decide) rest

/-- Blanks may stand between a number and what ends it. -/
theorem endsNumber_append
    {bs rest : List Char}
    (hbs : Blank bs)
    (hrest : EndsNumber rest) :
    EndsNumber (bs ++ rest) := by
  cases bs with
  | nil => exact hrest
  | cons b bs =>
      have hb := hbs b List.mem_cons_self
      unfold isBlank at hb
      simp only [Bool.or_eq_true, beq_iff_eq] at hb
      obtain ((rfl | rfl) | rfl) | rfl := hb <;>
        exact endsNumber_cons (by decide) (by decide) (by decide) (by decide) _

/-- Digits and blanks are different characters. -/
theorem isBlank_of_isDigit
    {c : Char}
    (hc : isDigit c = true) :
    isBlank c = false := by
  cases hb : isBlank c with
  | false => rfl
  | true =>
      have hblank : Blank [c] := by simpa [Blank] using hb
      have hend : EndsNumber [] := by simp [EndsNumber]
      obtain ⟨hdigit, -⟩ := endsNumber_append hblank hend c rfl
      rw [hc] at hdigit
      cases hdigit

theorem ne_of_isDigit
    {c d : Char}
    (hc : isDigit c = true)
    (hd : isDigit d = false) :
    c ≠ d := by
  rintro rfl
  rw [hc] at hd
  cases hd

/-- The digits of a number: at least one. -/
theorem exists_toDigits_eq_cons
    (n : Nat) :
    ∃ c tail, Nat.toDigits 10 n = c :: tail ∧ isDigit c = true := by
  obtain ⟨c, tail, h⟩ := List.exists_cons_of_ne_nil (Nat.toDigits_ne_nil (n := n) (b := 10))
  exact ⟨c, tail, h, isDigit_of_mem_toDigits (by rw [h]; exact List.mem_cons_self)⟩

/-- A value begins with a character that is not blank and closes no array. -/
theorem Spells.exists_cons
    {v : Json}
    {cs : List Char}
    (h : Spells v cs) :
    ∃ c tail, cs = c :: tail ∧ isBlank c = false ∧ c ≠ ']' := by
  cases h with
  | bool b => cases b <;> exact ⟨_, _, rfl, by decide, by decide⟩
  | @int i _ =>
      cases i with
      | ofNat n =>
          obtain ⟨c, tail, hcs, hc⟩ := exists_toDigits_eq_cons n
          exact ⟨c, tail, hcs, isBlank_of_isDigit hc, ne_of_isDigit hc (by decide)⟩
      | negSucc n => exact ⟨_, _, rfl, by decide, by decide⟩
  | _ => exact ⟨_, _, rfl, by decide, by decide⟩

section Steps

variable {steps : Nat} {cs rest : List Char}

/-- A value is read behind blanks. -/
theorem readValue_blank
    {before : List Char}
    (hbefore : Blank before) :
    readValue steps (before ++ cs) = readValue steps cs := by
  cases steps with
  | zero => rfl
  | succ steps => simp only [readValue, skipBlanks_append hbefore]

theorem readValue_str
    {lit : StringLit}
    (h : readString cs = (lit, rest)) :
    readValue (steps + 1) ('"' :: cs) = (.str lit, rest) := by
  rw [readValue, skipBlanks_cons (by decide)]
  dsimp only
  rw [if_pos rfl, h]

theorem readValue_bool
    (b : Bool) :
    readValue (steps + 1) (Json.boolChars b ++ cs) = (.bool b, cs) := by
  cases b <;> rfl

theorem readValue_null :
    readValue (steps + 1) (['n', 'u', 'l', 'l'] ++ cs) = (.null, cs) := rfl

theorem readValue_minus :
    readValue (steps + 1) ('-' :: cs) = readNumber true cs := rfl

theorem readValue_digit
    {c : Char}
    (hc : isDigit c = true) :
    readValue (steps + 1) (c :: cs) = readNumber false (c :: cs) := by
  rw [readValue, skipBlanks_cons (isBlank_of_isDigit hc)]
  dsimp only
  rw [if_neg (ne_of_isDigit hc (by decide)), if_neg (ne_of_isDigit hc (by decide)),
    if_neg (ne_of_isDigit hc (by decide)), if_neg (ne_of_isDigit hc (by decide)), if_pos hc]

theorem readValue_emptyArr :
    readValue (steps + 1) (['[', ']'] ++ cs) = (.arr [] .closed, cs) := rfl

theorem readValue_emptyObj :
    readValue (steps + 1) (['\x7b', '\x7d'] ++ cs) = (.obj [] .closed, cs) := rfl

theorem readValue_arr
    {c : Char}
    {after : List Char}
    {ds : List Doc}
    {stop : ListStop}
    (hskip : skipBlanks cs = c :: after)
    (hc : c ≠ ']')
    (h : readItems steps (c :: after) = (ds, stop, rest)) :
    readValue (steps + 1) ('[' :: cs) = (.arr ds stop, rest) := by
  rw [readValue, skipBlanks_cons (by decide)]
  dsimp only
  rw [if_neg (by decide), if_pos rfl, hskip]
  dsimp only
  rw [if_neg hc, h]

theorem readValue_obj
    {c : Char}
    {after : List Char}
    {ds : List (StringLit × Doc)}
    {stop : ObjectStop}
    (hskip : skipBlanks cs = c :: after)
    (hc : c ≠ '\x7d')
    (h : readMembers steps (c :: after) = (ds, stop, rest)) :
    readValue (steps + 1) ('\x7b' :: cs) = (.obj ds stop, rest) := by
  rw [readValue, skipBlanks_cons (by decide)]
  dsimp only
  rw [if_neg (by decide), if_neg (by decide), if_pos rfl, hskip]
  dsimp only
  rw [if_neg hc, h]

/-- The last item stands before the bracket. -/
theorem readItems_last
    {d : Doc}
    {behind : List Char}
    (hbehind : Blank behind)
    (h : readValue steps cs = (d, behind ++ ']' :: rest)) :
    readItems (steps + 1) cs = ([d], .closed, rest) := by
  rw [readItems, h]
  dsimp only
  rw [skipBlanks_append hbehind, skipBlanks_cons (by decide)]
  rfl

/-- Behind a comma stand more items. -/
theorem readItems_more
    {d : Doc}
    {c : Char}
    {more after : List Char}
    {ds : List Doc}
    {stop : ListStop}
    (h : readValue steps cs = (d, ',' :: more))
    (hskip : skipBlanks more = c :: after)
    (hc : c ≠ ']')
    (hmore : readItems steps (c :: after) = (ds, stop, rest)) :
    readItems (steps + 1) cs = (d :: ds, stop, rest) := by
  rw [readItems, h]
  dsimp only
  rw [skipBlanks_cons (by decide)]
  dsimp only
  rw [if_neg (by decide), if_pos rfl, hskip]
  dsimp only
  rw [if_neg hc, hmore]

theorem readMembers_last
    {key : StringLit}
    {d : Doc}
    {value behind : List Char}
    (hkey : readString cs = (key, ':' :: value))
    (hbehind : Blank behind)
    (h : readValue steps value = (d, behind ++ '\x7d' :: rest)) :
    readMembers (steps + 1) ('"' :: cs) = ([(key, d)], .closed, rest) := by
  rw [readMembers, if_pos rfl, hkey]
  dsimp only
  rw [skipBlanks_cons (by decide)]
  dsimp only
  rw [if_pos rfl, h]
  dsimp only
  rw [skipBlanks_append hbehind, skipBlanks_cons (by decide)]
  rfl

theorem readMembers_more
    {key : StringLit}
    {d : Doc}
    {c : Char}
    {value more after : List Char}
    {ds : List (StringLit × Doc)}
    {stop : ObjectStop}
    (hkey : readString cs = (key, ':' :: value))
    (h : readValue steps value = (d, ',' :: more))
    (hskip : skipBlanks more = c :: after)
    (hc : c ≠ '\x7d')
    (hmore : readMembers steps (c :: after) = (ds, stop, rest)) :
    readMembers (steps + 1) ('"' :: cs) = ((key, d) :: ds, stop, rest) := by
  rw [readMembers, if_pos rfl, hkey]
  dsimp only
  rw [skipBlanks_cons (by decide)]
  dsimp only
  rw [if_pos rfl, h]
  dsimp only
  rw [skipBlanks_cons (by decide)]
  dsimp only
  rw [if_neg (by decide), if_pos rfl, hskip]
  dsimp only
  rw [if_neg hc, hmore]

end Steps

/-- A text in its printed form is read as the text. -/
theorem exists_readString_stringChars
    (s : String) :
    ∃ lit : StringLit, lit.read = .ok s ∧ ∀ rest, ∃ inside,
      Json.stringChars s ++ rest = '"' :: inside ∧ readString inside = (lit, rest) := by
  obtain ⟨lit, hlit, h⟩ := exists_readString s.toList
  rw [String.ofList_toList] at hlit
  refine ⟨lit, hlit, fun rest => ⟨_, ?_, h rest⟩⟩
  rw [Json.stringChars, List.append_assoc]
  rfl

/-- A number in its printed form is read as the number. -/
theorem readValue_intChars
    {i : Int}
    (hi : (Number.int i).IsWord)
    {steps : Nat}
    {rest : List Char}
    (hrest : EndsNumber rest) :
    readValue (steps + 1) (Json.intChars i ++ rest) = (.num (some (.int i)), rest) := by
  cases i with
  | ofNat n =>
      have hn : n < 2 ^ 64 := by
        have h := hi.2
        rw [Int.ofNat_eq_natCast] at h
        omega
      obtain ⟨c, tail, hcs, hc⟩ := exists_toDigits_eq_cons n
      have hread := readNumber_toDigits false n hrest
      rw [toNumber?_nat hn, hcs] at hread
      rw [Json.intChars, hcs]
      exact (readValue_digit hc).trans hread
  | negSucc n =>
      have hn : n + 1 ≤ 2 ^ 63 := by
        have h := hi.1
        omega
      have hread := readNumber_toDigits true (n + 1) hrest
      rw [toNumber?_negative (Nat.succ_pos n) hn] at hread
      exact readValue_minus.trans hread

mutual

/-- What spells a value is read as a document of the value. -/
theorem Spells.exists_readValue : ∀ {v : Json} {cs : List Char}, Spells v cs →
    ∃ d : Doc, d.StandsFor v ∧ ∀ (steps : Nat) (rest : List Char),
      2 * cs.length ≤ steps + 1 → EndsNumber rest →
        readValue (steps + 1) (cs ++ rest) = (d, rest)
  | _, _, .null => ⟨_, .null, fun _ _ _ _ => readValue_null⟩
  | _, _, .bool b => ⟨_, .bool b, fun _ _ _ _ => readValue_bool b⟩
  | _, _, .int (i := i) hi =>
      ⟨_, .num (.int i), fun _ _ _ hrest => readValue_intChars hi hrest⟩
  | _, _, .str s => by
      obtain ⟨lit, hlit, hread⟩ := exists_readString_stringChars s
      refine ⟨.str lit, .str hlit, fun _ rest _ _ => ?_⟩
      obtain ⟨inside, hinside, h⟩ := hread rest
      rw [hinside]
      exact readValue_str h
  | _, _, .emptyArr => ⟨_, .arr .nil, fun _ _ _ _ => readValue_emptyArr⟩
  | _, _, .arr hitems => by
      obtain ⟨ds, hds, hread⟩ := hitems.exists_readItems
      refine ⟨_, .arr hds, fun steps rest hsteps _ => ?_⟩
      simp only [List.length_append, List.length_cons, List.length_nil] at hsteps
      obtain ⟨steps, rfl⟩ := Nat.exists_eq_add_of_le' (show 2 ≤ steps by omega)
      obtain ⟨c, after, hskip, hc, h⟩ := hread steps rest (by omega)
      simp only [List.cons_append, List.append_assoc, List.nil_append]
      exact readValue_arr hskip hc h
  | _, _, .emptyObj => ⟨_, .obj .nil, fun _ _ _ _ => readValue_emptyObj⟩
  | _, _, .obj hmembers => by
      obtain ⟨ds, hds, hread⟩ := hmembers.exists_readMembers
      refine ⟨_, .obj hds, fun steps rest hsteps _ => ?_⟩
      simp only [List.length_append, List.length_cons, List.length_nil] at hsteps
      obtain ⟨steps, rfl⟩ := Nat.exists_eq_add_of_le' (show 2 ≤ steps by omega)
      obtain ⟨after, hskip, h⟩ := hread steps rest (by omega)
      simp only [List.cons_append, List.append_assoc, List.nil_append]
      exact readValue_obj hskip (by decide) h

/-- Spelled items are read, if there are steps enough. -/
theorem SpellsItems.exists_readItems : ∀ {vs : List Json} {cs : List Char}, SpellsItems vs cs →
    ∃ ds : List Doc, Doc.ItemsStandFor ds vs ∧ ∀ (steps : Nat) (rest : List Char),
      2 * cs.length ≤ steps + 1 →
        ∃ c after, skipBlanks (cs ++ ']' :: rest) = c :: after ∧ c ≠ ']' ∧
          readItems (steps + 2) (c :: after) = (ds, .closed, rest)
  | _, _, @SpellsItems.last _ before _ behind hbefore hv hbehind => by
      obtain ⟨d, hd, hread⟩ := hv.exists_readValue
      obtain ⟨c, tail, rfl, hblank, hc⟩ := hv.exists_cons
      refine ⟨[d], .cons hd .nil, fun steps rest hsteps =>
        ⟨c, tail ++ (behind ++ ']' :: rest), ?_, hc, ?_⟩⟩
      · rw [List.append_assoc, skipBlanks_append hbefore, List.append_assoc]
        exact skipBlanks_cons hblank _
      · rw [List.length_append, List.length_append] at hsteps
        exact readItems_last hbehind
          (hread steps _ (by omega) (endsNumber_append hbehind (endsNumber_bracket rest)))
  | _, _, @SpellsItems.more _ _ before _ more hbefore hv hvs => by
      obtain ⟨d, hd, hread⟩ := hv.exists_readValue
      obtain ⟨ds, hds, hreadMore⟩ := hvs.exists_readItems
      obtain ⟨c, tail, rfl, hblank, hc⟩ := hv.exists_cons
      refine ⟨d :: ds, .cons hd hds, fun steps rest hsteps =>
        ⟨c, tail ++ ',' :: (more ++ ']' :: rest), ?_, hc, ?_⟩⟩
      · rw [List.append_assoc, skipBlanks_append hbefore, List.append_assoc]
        exact skipBlanks_cons hblank _
      · simp only [List.length_append, List.length_cons] at hsteps
        obtain ⟨steps, rfl⟩ := Nat.exists_eq_add_of_le' (show 1 ≤ steps by omega)
        obtain ⟨c', after, hskip, hc', h⟩ := hreadMore steps rest (by omega)
        have hvalue := hread (steps + 1) (',' :: (more ++ ']' :: rest))
          (by rw [List.length_cons]; omega) (endsNumber_comma _)
        exact readItems_more hvalue hskip hc' h

theorem SpellsMembers.exists_readMembers :
    ∀ {vs : List (String × Json)} {cs : List Char}, SpellsMembers vs cs →
      ∃ ds : List (StringLit × Doc), Doc.MembersStandFor ds vs ∧
        ∀ (steps : Nat) (rest : List Char), 2 * cs.length ≤ steps + 1 →
          ∃ after, skipBlanks (cs ++ '\x7d' :: rest) = '"' :: after ∧
            readMembers (steps + 2) ('"' :: after) = (ds, .closed, rest)
  | _, _, @SpellsMembers.last key _ before between cs behind hbefore hbetween hv hbehind => by
      obtain ⟨d, hd, hread⟩ := hv.exists_readValue
      obtain ⟨lit, hlit, hreadKey⟩ := exists_readString_stringChars key
      refine ⟨[(lit, d)], .cons hlit hd .nil, fun steps rest hsteps => ?_⟩
      obtain ⟨after, hafter, hkey⟩ :=
        hreadKey (':' :: (between ++ (cs ++ (behind ++ '\x7d' :: rest))))
      have hlength : 2 * cs.length ≤ steps + 1 := by
        simp only [List.length_append, List.length_cons] at hsteps
        omega
      have hvalue := hread steps _ hlength (endsNumber_append hbehind (endsNumber_brace rest))
      refine ⟨after, ?_, readMembers_last hkey hbehind ((readValue_blank hbetween).trans hvalue)⟩
      simp only [List.append_assoc, List.cons_append]
      rw [skipBlanks_append hbefore, hafter]
      exact skipBlanks_cons (by decide) after
  | _, _, @SpellsMembers.more key _ _ before between cs more hbefore hbetween hv hvs => by
      obtain ⟨d, hd, hread⟩ := hv.exists_readValue
      obtain ⟨ds, hds, hreadMore⟩ := hvs.exists_readMembers
      obtain ⟨lit, hlit, hreadKey⟩ := exists_readString_stringChars key
      refine ⟨(lit, d) :: ds, .cons hlit hd hds, fun steps rest hsteps => ?_⟩
      obtain ⟨after, hafter, hkey⟩ :=
        hreadKey (':' :: (between ++ (cs ++ ',' :: (more ++ '\x7d' :: rest))))
      simp only [List.length_append, List.length_cons] at hsteps
      obtain ⟨steps, rfl⟩ := Nat.exists_eq_add_of_le' (show 1 ≤ steps by omega)
      obtain ⟨further, hskip, hmore⟩ := hreadMore steps rest (by omega)
      have hvalue := hread (steps + 1) _ (by omega) (endsNumber_comma (more ++ '\x7d' :: rest))
      refine ⟨after, ?_,
        readMembers_more hkey ((readValue_blank hbetween).trans hvalue) hskip (by decide) hmore⟩
      simp only [List.append_assoc, List.cons_append]
      rw [skipBlanks_append hbefore, hafter]
      exact skipBlanks_cons (by decide) after

end

end Reading

end JsonText

/-- A spelled value is read to its end. -/
theorem Document.exists_ofText
    {v : Json}
    {cs : List Char}
    (h : JsonText.Spells v cs) :
    ∃ d : Doc, d.StandsFor v ∧ Document.ofText (String.ofList cs) = ⟨d, true⟩ := by
  obtain ⟨d, hd, hread⟩ := h.exists_readValue
  have hwhole := hread (2 * cs.length + 1) [] (by omega) (by simp [JsonText.EndsNumber])
  refine ⟨d, hd, ?_⟩
  rw [List.append_nil] at hwhole
  rw [Document.ofText, String.toList_ofList]
  dsimp only
  rw [hwhole]
  rfl

end SchemaGrammar
