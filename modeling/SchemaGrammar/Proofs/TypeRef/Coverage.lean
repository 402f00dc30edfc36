import SchemaGrammar.Proofs.TypeRef.Lexing
import Mathlib.Data.List.Basic

/-!
# What the tokens of a text cover

The tokens of a type reference are pieces of its text: their ranges of bytes do not overlap and
come in order, each holds the text of its token, and what lies between them is ignorable.  A text
has no tokens if a character is left over when it is cut by maximal munch, the longest word
first.

**Results.**
* `TypeRef.munches_iff`: every text is cut by maximal munch in one way, which the scan finds.
* `TypeRef.covers_of_lexes`: the ranges of the tokens cover all of a text that counts.
* `TypeRef.tokenize_covers`: what is found loses nothing, and nothing is found exactly if a
  character is left over.
-/

namespace SchemaGrammar

/-- The range holds the byte. -/
def Span.Holds (s : Span) (i : Nat) : Prop := s.start ≤ i ∧ i < s.stop

namespace TypeRef

section Words

variable {kind : TokenKind} {word rest : List Char}

/-- A word has a first character, in which its kind shows. -/
theorem TokenKind.Word.exists_cons
    (h : kind.Word word) :
    ∃ c cs, word = c :: cs ∧ kind = (punctuation? c).getD .name := by
  cases h with
  | openList => exact ⟨_, _, rfl, rfl⟩
  | closeList => exact ⟨_, _, rfl, rfl⟩
  | bang => exact ⟨_, _, rfl, rfl⟩
  | @name c cs hstart _ =>
      refine ⟨c, cs, rfl, ?_⟩
      cases hkind : punctuation? c with
      | none => rfl
      | some other =>
          cases word_of_punctuation? hkind with
          | openList => revert hstart; decide
          | closeList => revert hstart; decide
          | bang => revert hstart; decide
          | name => rfl

/-- No word of any kind that begins where this one does is longer. -/
def Longest (word rest : List Char) : Prop :=
  ∀ kind longer after, TokenKind.Word kind longer → word ++ rest = longer ++ after →
    longer.length ≤ word.length

/-- A longest name ends where no name goes on. -/
theorem Longest.endsName
    (hlongest : Longest word rest)
    (hword : TokenKind.name.Word word) :
    EndsName rest := by
  intro c hc
  rw [← Bool.not_eq_true]
  intro hcontinues
  obtain ⟨after, rfl⟩ := List.head?_eq_some_iff.mp hc
  have hlonger : TokenKind.name.Word (word ++ [c]) := by
    cases hword with
    | name hstart hrest =>
        refine .name hstart fun d hd => ?_
        rcases List.mem_append.mp hd with hd | hd
        · exact hrest d hd
        · exact List.mem_singleton.mp hd ▸ hcontinues
  have hlength := hlongest .name (word ++ [c]) after hlonger (by simp)
  rw [List.length_append, List.length_singleton] at hlength
  omega

/-- A longer name would go on where this one ends. -/
theorem Longest.of_name
    (hword : TokenKind.name.Word word)
    (hends : EndsName rest)
    {longer after : List Char}
    (hlonger : TokenKind.name.Word longer)
    (heq : word ++ rest = longer ++ after) :
    longer.length ≤ word.length := by
  by_contra hlength
  have hbegin : word <+: longer :=
    List.prefix_of_prefix_length_le (List.prefix_append word rest)
      (heq ▸ List.prefix_append longer after) (by omega)
  obtain ⟨more, rfl⟩ := hbegin
  cases more with
  | nil => simp at hlength
  | cons c more =>
      rw [List.append_assoc, List.append_cancel_left_eq] at heq
      have hc := hends c (by rw [heq]; rfl)
      cases hword with
      | name _ _ =>
          cases hlonger with
          | name _ hrest =>
              rw [hrest c (by simp)] at hc
              cases hc

/-- A name that ends where no name goes on is a longest word, and so is every other word. -/
theorem longest_of_word
    (hword : kind.Word word)
    (hends : kind = .name → EndsName rest) :
    Longest word rest := by
  intro other longer after hlonger heq
  obtain ⟨c, cs, hcons, hkind⟩ := hword.exists_cons
  obtain ⟨d, ds, hcons', hother⟩ := hlonger.exists_cons
  have hhead : c = d := by
    rw [hcons, hcons'] at heq
    exact (List.cons.inj heq).1
  have hsame : other = kind := by rw [hother, hkind, hhead]
  by_cases hname : kind = .name
  · rw [hname] at hword
    rw [hsame, hname] at hlonger
    exact Longest.of_name hword (hends hname) hlonger heq
  · rw [hsame] at hlonger
    exact Nat.le_of_eq (congrArg List.length (hword.unique hname hlonger).symm)

end Words

section MaximalMunch

/-- Characters that begin at byte `start` are cut by maximal munch: ignorable characters are
passed over, the longest word that begins at a place is a token, and a character with which no
word begins is left over. -/
inductive Munches : (start : Nat) → List Char → List Lexeme → Prop
  | done (start : Nat) : Munches start [] []
  | ignorable {start : Nat} {c : Char} {cs : List Char} {lexemes : List Lexeme}
      (hc : isIgnorable c = true)
      (htail : Munches (start + c.utf8Size) cs lexemes) :
      Munches start (c :: cs) lexemes
  | token {start : Nat} {kind : TokenKind} {word cs : List Char} {lexemes : List Lexeme}
      (hword : kind.Word word)
      (hlongest : Longest word cs)
      (htail : Munches (start + byteLength word) cs lexemes) :
      Munches start (word ++ cs)
        (.token ⟨kind, word, ⟨start, start + byteLength word⟩⟩ :: lexemes)
  | stray {start : Nat} {c : Char} {cs : List Char} {lexemes : List Lexeme}
      (hc : Stray c)
      (htail : Munches (start + c.utf8Size) cs lexemes) :
      Munches start (c :: cs) (.stray ⟨start, start + c.utf8Size⟩ :: lexemes)

variable {start : Nat} {cs rest : List Char} {tokens : List Token} {lexemes : List Lexeme}

/-- Maximal munch is what the scan does. -/
theorem scan_of_munches
    (h : Munches start cs lexemes) :
    scan start cs = lexemes := by
  induction h with
  | done _ => rw [scan]
  | ignorable hc _ ih => rw [scan_ignorable hc, ih]
  | token hword hlongest _ ih =>
      rw [scan_word hword (fun hname => hlongest.endsName (hname ▸ hword)), ih]
  | stray hc _ ih => rw [scan_stray hc, ih]

/-- Characters that consist of tokens are cut into these, and then it goes on behind them. -/
theorem munches_append_of_lexes
    (h : Lexes rest start cs tokens)
    (hrest : Munches (start + byteLength cs) rest lexemes) :
    Munches start (cs ++ rest) (tokens.map .token ++ lexemes) := by
  induction h with
  | done _ => exact hrest
  | ignorable hc _ ih =>
      rw [byteLength, ← Nat.add_assoc] at hrest
      exact .ignorable hc (ih hrest)
  | token hword hlongest _ ih =>
      rw [byteLength_append, ← Nat.add_assoc] at hrest
      rw [List.append_assoc]
      exact .token hword (longest_of_word hword hlongest) (ih hrest)

/-- Every text is munched in some way. -/
theorem exists_munches
    (start : Nat)
    (cs : List Char) :
    ∃ lexemes, Munches start cs lexemes := by
  induction hn : cs.length using Nat.strongRecOn generalizing start cs with
  | ind n ih =>
      obtain ⟨before, rest, tokens, rfl, hlexes, hstray⟩ := exists_lexes start cs
      cases rest with
      | nil => exact ⟨_, munches_append_of_lexes hlexes (.done _)⟩
      | cons c after =>
          -- the cut goes on behind the character that is left over
          have hshorter : after.length < n := by
            rw [← hn, List.length_append, List.length_cons]
            omega
          obtain ⟨lexemes, hafter⟩ := ih _ hshorter _ after rfl
          exact ⟨_, munches_append_of_lexes hlexes (.stray (hstray c rfl) hafter)⟩

/-- **Maximal munch.**  A text is cut by maximal munch in one way, the one that the scan finds. -/
theorem munches_iff :
    Munches start cs lexemes ↔ lexemes = scan start cs := by
  constructor
  · exact fun h => (scan_of_munches h).symm
  · rintro rfl
    obtain ⟨lexemes, h⟩ := exists_munches start cs
    exact scan_of_munches h ▸ h

end MaximalMunch

section Ranges

/-- The character stands in a text from a byte on. -/
def CharAt (cs : List Char) (i : Nat) (c : Char) : Prop :=
  ∃ before after, cs = before ++ c :: after ∧ byteLength before = i

/-- The ranges of the tokens of a text cover all of it that counts. -/
structure Covers (source : String) (tokens : List Token) : Prop where
  nonempty : ∀ t ∈ tokens, t.span.start < t.span.stop
  ordered : tokens.Pairwise fun t u => t.span.stop ≤ u.span.start
  /-- The text of a token is what stands in its range. -/
  slice : ∀ t ∈ tokens,
    source.toByteArray.extract t.span.start t.span.stop = (String.ofList t.text).toByteArray
  word : ∀ t ∈ tokens, t.kind.Word t.text
  /-- A byte outside of all ranges belongs to an ignorable character. -/
  gap : ∀ i < source.utf8ByteSize, (∀ t ∈ tokens, ¬ t.span.Holds i) →
    ∃ c j, CharAt source.toList j c ∧ j ≤ i ∧ i < j + c.utf8Size ∧ isIgnorable c = true
  /-- There is something between two names. -/
  separated : tokens.Pairwise fun t u =>
    t.kind = .name → u.kind = .name → t.span.stop < u.span.start

variable {rest cs : List Char} {start : Nat} {tokens : List Token}

/-- The length in bytes is that of the encoding. -/
theorem byteLength_eq_size
    (cs : List Char) :
    byteLength cs = cs.utf8Encode.size := by
  induction cs with
  | nil => rfl
  | cons c cs ih =>
      rw [byteLength, List.utf8Encode_cons, ByteArray.size_append, ih, List.utf8Encode_singleton,
        List.size_toByteArray, String.length_utf8EncodeChar]

theorem byteLength_pos
    {cs : List Char}
    (h : cs ≠ []) :
    0 < byteLength cs := by
  cases cs with
  | nil => exact absurd rfl h
  | cons c cs =>
      have := c.utf8Size_pos
      rw [byteLength]
      omega

/-- Each token stands where its range says. -/
theorem exists_split_of_lexes
    (h : Lexes rest start cs tokens) :
    ∀ t ∈ tokens, ∃ before after, cs = before ++ t.text ++ after ∧
      t.span = ⟨start + byteLength before, start + byteLength before + byteLength t.text⟩ := by
  induction h with
  | done _ => exact fun _ ht => nomatch ht
  | @ignorable start c cs tokens _ _ ih =>
      intro t ht
      obtain ⟨before, after, rfl, hspan⟩ := ih t ht
      exact ⟨c :: before, after, rfl, by rw [hspan, byteLength, ← Nat.add_assoc]⟩
  | @token start kind word cs tokens _ _ _ ih =>
      refine List.forall_mem_cons.mpr ⟨⟨[], cs, rfl, rfl⟩, fun t ht => ?_⟩
      obtain ⟨before, after, rfl, hspan⟩ := ih t ht
      exact ⟨word ++ before, after, by simp only [List.append_assoc],
        by rw [hspan, byteLength_append, ← Nat.add_assoc]⟩

/-- Tokens lie within the text that they are read from. -/
theorem start_le_of_lexes
    (h : Lexes rest start cs tokens) :
    ∀ t ∈ tokens, start ≤ t.span.start ∧ t.span.stop ≤ start + byteLength cs := by
  intro t ht
  obtain ⟨before, after, rfl, hspan⟩ := exists_split_of_lexes h t ht
  rw [hspan, byteLength_append, byteLength_append]
  dsimp only
  omega

theorem start_lt_stop_of_lexes
    (h : Lexes rest start cs tokens) :
    ∀ t ∈ tokens, t.span.start < t.span.stop := by
  intro t ht
  obtain ⟨before, after, -, hspan⟩ := exists_split_of_lexes h t ht
  obtain ⟨c, word, htext, -⟩ := (word_of_lexes h t ht).exists_cons
  have hpos : 0 < byteLength t.text := byteLength_pos (htext ▸ List.cons_ne_nil c word)
  rw [hspan]
  dsimp only
  omega

/-- Tokens do not overlap. -/
theorem pairwise_stop_le_start_of_lexes
    (h : Lexes rest start cs tokens) :
    tokens.Pairwise fun t u => t.span.stop ≤ u.span.start := by
  induction h with
  | done _ => exact .nil
  | ignorable _ _ ih => exact ih
  | token _ _ htail ih =>
      exact .cons (fun u hu => (start_le_of_lexes htail u hu).1) ih

/-- A name that began where another one ends would go on with it. -/
theorem pairwise_separated_of_lexes
    (h : Lexes rest start cs tokens) :
    tokens.Pairwise fun t u =>
      t.kind = .name → u.kind = .name → t.span.stop < u.span.start := by
  induction h with
  | done _ => exact .nil
  | ignorable _ _ ih => exact ih
  | @token start kind word cs tokens _ hlongest htail ih =>
      refine .cons (fun u hu hname hother => ?_) ih
      have hle := (start_le_of_lexes htail u hu).1
      refine Nat.lt_of_le_of_ne hle fun hsame => ?_
      obtain ⟨before, after, rfl, hspan⟩ := exists_split_of_lexes htail u hu
      have hbefore : before = [] := by
        by_contra hne
        have := byteLength_pos hne
        rw [hspan] at hsame
        dsimp only at hsame
        omega
      have hword := word_of_lexes htail u hu
      rw [hother] at hword
      cases htext : u.text with
      | nil =>
          obtain ⟨c, cs, hcons, -⟩ := hword.exists_cons
          rw [htext] at hcons
          cases hcons
      | cons c text =>
          rw [htext] at hword
          have hc := hlongest hname c (by rw [hbefore, htext]; rfl)
          cases hword with
          | name hstart _ =>
              rw [Text.continuesName_of_startsName hstart] at hc
              cases hc

/-- A character that counts stands within the range of one token. -/
theorem ignorable_or_held_of_lexes
    (h : Lexes rest start cs tokens)
    {before after : List Char}
    {c : Char}
    (heq : cs = before ++ c :: after) :
    isIgnorable c = true ∨
      ∃ t ∈ tokens, t.span.start ≤ start + byteLength before ∧
        start + byteLength before + c.utf8Size ≤ t.span.stop := by
  induction h generalizing before with
  | done _ => simp at heq
  | @ignorable start d cs tokens hd _ ih =>
      rcases List.cons_eq_append_iff.mp heq with ⟨rfl, hcons⟩ | ⟨before, rfl, hcs⟩
      · obtain ⟨rfl, -⟩ := List.cons.inj hcons
        exact .inl hd
      · rw [byteLength, ← Nat.add_assoc]
        exact ih hcs
  | @token start kind word cs tokens hword _ _ ih =>
      have hplace : (∃ behind, before = word ++ behind ∧ cs = behind ++ c :: after) ∨
          ∃ more, word = before ++ c :: more := by
        rcases List.append_eq_append_iff.mp heq with hbehind | ⟨more, hword, hmore⟩
        · exact .inl hbehind
        · cases more with
          | nil => exact .inl ⟨[], by simpa using hword.symm, by simpa using hmore.symm⟩
          | cons d more =>
              obtain ⟨rfl, -⟩ := List.cons.inj hmore
              exact .inr ⟨more, hword⟩
      rcases hplace with ⟨behind, rfl, hcs⟩ | ⟨more, rfl⟩
      · rw [byteLength_append, ← Nat.add_assoc]
        rcases ih hcs with hignorable | ⟨t, ht, hspan⟩
        · exact .inl hignorable
        · exact .inr ⟨t, List.mem_cons_of_mem _ ht, hspan⟩
      · refine .inr ⟨_, List.mem_cons_self, Nat.le_add_right _ _, ?_⟩
        rw [byteLength_append, byteLength]
        dsimp only
        omega

/-- Every byte of a text belongs to a character. -/
theorem exists_charAt
    {i : Nat}
    (hi : i < byteLength cs) :
    ∃ c j, CharAt cs j c ∧ j ≤ i ∧ i < j + c.utf8Size := by
  induction cs generalizing i with
  | nil => cases hi
  | cons c cs ih =>
      rw [byteLength] at hi
      by_cases hfirst : i < c.utf8Size
      · exact ⟨c, 0, ⟨[], cs, rfl, rfl⟩, Nat.zero_le i, by omega⟩
      · obtain ⟨d, j, ⟨before, after, rfl, rfl⟩, hle, hlt⟩ := ih (i := i - c.utf8Size) (by omega)
        exact ⟨d, c.utf8Size + byteLength before, ⟨c :: before, after, rfl, rfl⟩, by omega,
          by omega⟩

/-- A slice between two texts is what stands there. -/
theorem extract_between
    (before word after : ByteArray) :
    (before ++ word ++ after).extract before.size (before.size + word.size) = word := by
  have hnone : after.extract (before.size - (before ++ word).size)
      (before.size + word.size - (before ++ word).size) = .empty := by
    rw [ByteArray.extract_eq_empty_iff, ByteArray.size_append]
    omega
  rw [ByteArray.extract_append, hnone, ByteArray.append_empty,
    ByteArray.extract_append_eq_right rfl rfl]

/-- The text of a token is what stands in its range. -/
theorem extract_of_lexes
    {source : String}
    (h : Lexes [] 0 source.toList tokens) :
    ∀ t ∈ tokens,
      source.toByteArray.extract t.span.start t.span.stop =
        (String.ofList t.text).toByteArray := by
  intro t ht
  obtain ⟨before, after, hsource, hspan⟩ := exists_split_of_lexes h t ht
  rw [byteLength_eq_size, byteLength_eq_size, Nat.zero_add] at hspan
  rw [← String.utf8Encode_toList, hsource, hspan, String.toByteArray_ofList,
    List.utf8Encode_append, List.utf8Encode_append]
  exact extract_between _ _ _

/-- **Coverage.**  The tokens of a text cover all of it that counts. -/
theorem covers_of_lexes
    {source : String}
    (h : Lexes [] 0 source.toList tokens) :
    Covers source tokens where
  nonempty := start_lt_stop_of_lexes h
  ordered := pairwise_stop_le_start_of_lexes h
  slice := extract_of_lexes h
  word := word_of_lexes h
  gap := by
    intro i hi hnone
    rw [← String.size_toByteArray, ← String.utf8Encode_toList, ← byteLength_eq_size] at hi
    obtain ⟨c, j, ⟨before, after, hsource, rfl⟩, hle, hlt⟩ := exists_charAt hi
    refine ⟨c, _, ⟨before, after, hsource, rfl⟩, hle, hlt, ?_⟩
    refine (ignorable_or_held_of_lexes h hsource).resolve_right ?_
    rintro ⟨t, ht, hstart, hstop⟩
    exact hnone t ht ⟨by omega, by omega⟩
  separated := pairwise_separated_of_lexes h

end Ranges

section Failure

variable {source : String} {start : Nat} {cs : List Char} {lexemes : List Lexeme}

theorem start_le_of_munches
    (h : Munches start cs lexemes) :
    ∀ t, .token t ∈ lexemes → start ≤ t.span.start := by
  induction h with
  | done _ => exact fun _ ht => nomatch ht
  | ignorable _ _ ih => exact fun t ht => Nat.le_of_add_right_le (ih t ht)
  | token _ _ _ ih =>
      intro t ht
      rcases List.mem_cons.mp ht with heq | ht
      · cases heq
        exact Nat.le_refl _
      · exact Nat.le_of_add_right_le (ih t ht)
  | stray _ _ ih =>
      intro t ht
      rcases List.mem_cons.mp ht with heq | ht
      · cases heq
      · exact Nat.le_of_add_right_le (ih t ht)

/-- A text without tokens has a character that is left over: the first with which no word
begins. -/
theorem exists_leftOver_of_error
    {place : Span}
    (h : tokenize source = .error place) :
    ∃ c i, CharAt source.toList i c ∧ isIgnorable c = false ∧
      ∀ t, .token t ∈ scan 0 source.toList → ¬ t.span.Holds i := by
  have hnot : ∀ tokens, ¬ Lexes [] 0 source.toList tokens := by
    intro tokens hlexes
    rw [tokenize_of_lexes hlexes] at h
    cases h
  obtain ⟨before, c, after, tokens, hsource, hlexes, hc, -⟩ := exists_stray_of_forall_not_lexes hnot
  refine ⟨c, byteLength before, ⟨before, after, hsource, rfl⟩, hc.ignorable, ?_⟩
  intro t ht hheld
  obtain ⟨hstart, hstop⟩ := hheld
  rw [hsource, scan_append_of_lexes hlexes, scan_stray hc, Nat.zero_add, List.mem_append] at ht
  rcases ht with ht | ht
  · obtain ⟨t, htoken, heq⟩ := List.mem_map.mp ht
    cases heq
    have := (start_le_of_lexes hlexes t htoken).2
    omega
  · rcases List.mem_cons.mp ht with heq | ht
    · cases heq
    · have := start_le_of_munches (munches_iff.mpr rfl) t ht
      have := c.utf8Size_pos
      omega

/-- Every character of a text with tokens is ignorable or part of one of them. -/
theorem error_of_leftOver
    {c : Char}
    {i : Nat}
    (hplace : CharAt source.toList i c)
    (hc : isIgnorable c = false)
    (hnone : ∀ t, .token t ∈ scan 0 source.toList → ¬ t.span.Holds i) :
    ∃ place, tokenize source = .error place := by
  cases htokens : tokenize source with
  | error place => exact ⟨place, rfl⟩
  | ok tokens =>
      have hlexes := tokenize_eq_ok_iff.mp htokens
      have hscan := scan_append_of_lexes hlexes
      rw [List.append_nil] at hscan
      obtain ⟨before, after, hsource, rfl⟩ := hplace
      have hpos := c.utf8Size_pos
      rcases ignorable_or_held_of_lexes hlexes hsource with hignorable | ⟨t, ht, hstart, hstop⟩
      · rw [hignorable] at hc
        cases hc
      · refine absurd ⟨by omega, by omega⟩ (hnone t ?_)
        rw [hscan]
        exact List.mem_append_left _ (List.mem_map_of_mem ht)

end Failure

/-- **Nothing is lost.**  The tokens that are found cover all of a text that counts.  A text is
cut by maximal munch in one way, and no tokens are found exactly if this leaves a character over
that is neither ignorable nor part of a token. -/
theorem tokenize_covers
    (source : String) :
    (∀ tokens, tokenize source = .ok tokens → Covers source tokens) ∧
      ∃ lexemes, (∀ others, Munches 0 source.toList others ↔ others = lexemes) ∧
        ((∃ place, tokenize source = .error place) ↔
          ∃ c i, CharAt source.toList i c ∧ isIgnorable c = false ∧
            ∀ t, .token t ∈ lexemes → ¬ t.span.Holds i) := by
  refine ⟨fun tokens h => covers_of_lexes (tokenize_eq_ok_iff.mp h),
    scan 0 source.toList, fun others => munches_iff, ?_, ?_⟩
  · rintro ⟨place, h⟩
    exact exists_leftOver_of_error h
  · rintro ⟨c, i, hplace, hc, hnone⟩
    exact error_of_leftOver hplace hc hnone

theorem tokenize_covers_list :
    (tokenize "[ID,\tPost2 !]").toOption.isSome = true ∧
      (∃ tokens, tokenize "[ID,\tPost2 !]" = .ok tokens ∧ Covers "[ID,\tPost2 !]" tokens) ∧
      tokenize "Post é2" = .error ⟨5, 7⟩ ∧
      ∃ c i, CharAt "Post é2".toList i c ∧ isIgnorable c = false := by
  have hfound : (tokenize "[ID,\tPost2 !]").toOption.isSome = true := by decide +kernel
  have hnone : tokenize "Post é2" = .error ⟨5, 7⟩ := by decide +kernel
  obtain ⟨lexemes, -, hiff⟩ := (tokenize_covers "Post é2").2
  obtain ⟨c, i, hplace, hc, -⟩ := hiff.mp ⟨_, hnone⟩
  refine ⟨hfound, ?_, hnone, c, i, hplace, hc⟩
  cases htokens : tokenize "[ID,\tPost2 !]" with
  | error place =>
      rw [htokens] at hfound
      cases hfound
  | ok tokens => exact ⟨tokens, rfl, (tokenize_covers _).1 tokens htokens⟩

end TypeRef

end SchemaGrammar
