import SchemaGrammar.TypeRef.Token
import SchemaGrammar.Proofs.Collection.Front

/-!
# Cutting a text into tokens

What the tokens of a text are is said without the scan: the text consists of ignorable
characters and of words, each in the class of its token, and no name could go on where it ends.
The scan finds these tokens, up to the end of the text or to the first character that begins no
token and is not ignorable.

**Results.**
* `TypeRef.tokenize_eq_ok_iff`: what is found are the tokens, and all texts that have tokens are
  cut into them.
* `TypeRef.exists_stray_of_forall_not_lexes`: where the first character stands that belongs
  nowhere.
* `TypeRef.filter_of_lexes`: no character is lost but the ignorable ones.
-/

namespace SchemaGrammar.TypeRef

section Classes

/-- The words of a kind of token. -/
inductive TokenKind.Word : TokenKind → List Char → Prop
  | openList : Word .openList ['[']
  | closeList : Word .closeList [']']
  | bang : Word .bang ['!']
  | name {c : Char} {cs : List Char} (hstart : Text.startsName c = true)
      (hrest : ∀ d ∈ cs, Text.continuesName d = true) : Word .name (c :: cs)

/-- No token begins with the character, and it may not stand between tokens either. -/
structure Stray (c : Char) : Prop where
  ignorable : isIgnorable c = false
  word : ∀ kind word, TokenKind.Word kind word → word.head? ≠ some c

/-- Where the text goes on in this way, no name goes on. -/
def EndsName (rest : List Char) : Prop := ∀ c ∈ rest.head?, Text.continuesName c = false

theorem isIgnorable_eq_false_of_continuesName
    {c : Char}
    (h : Text.continuesName c = true) :
    isIgnorable c = false := by
  rw [← Bool.not_eq_true]
  intro hignorable
  simp only [isIgnorable, Bool.or_eq_true, beq_iff_eq] at hignorable
  rcases hignorable with ((((rfl | rfl) | rfl) | rfl) | rfl) | rfl <;> revert h <;> decide

theorem word_of_punctuation?
    {c : Char}
    {kind : TokenKind}
    (h : punctuation? c = some kind) :
    kind.Word [c] := by
  unfold punctuation? at h
  split at h
  · next hc => cases h; exact hc ▸ .openList
  · split at h
    · next hc => cases h; exact hc ▸ .closeList
    · split at h
      · next hc => cases h; exact hc ▸ .bang
      · cases h

/-- A character that begins no token is a stray one. -/
theorem stray_of_punctuation?
    {c : Char}
    (hignorable : isIgnorable c = false)
    (hstart : Text.startsName c = false)
    (h : punctuation? c = none) :
    Stray c := by
  refine ⟨hignorable, fun kind word hword hhead => ?_⟩
  cases hword with
  | openList => cases hhead; revert h; decide
  | closeList => cases hhead; revert h; decide
  | bang => cases hhead; revert h; decide
  | name hname _ =>
      cases hhead
      rw [hstart] at hname
      cases hname

theorem Stray.startsName
    {c : Char}
    (h : Stray c) :
    Text.startsName c = false := by
  rw [← Bool.not_eq_true]
  intro hstart
  exact h.word .name [c] (.name hstart fun _ hd => nomatch hd) rfl

theorem Stray.punctuation?
    {c : Char}
    (h : Stray c) :
    punctuation? c = none := by
  cases hkind : TypeRef.punctuation? c with
  | none => rfl
  | some kind => exact absurd rfl (h.word kind [c] (word_of_punctuation? hkind))

/-- Every kind but that of names has one word. -/
theorem TokenKind.Word.unique
    {kind : TokenKind}
    {word word' : List Char}
    (hkind : kind ≠ .name)
    (h : kind.Word word)
    (h' : kind.Word word') :
    word = word' := by
  cases h with
  | openList => cases h'; rfl
  | closeList => cases h'; rfl
  | bang => cases h'; rfl
  | name _ _ => exact absurd rfl hkind

/-- No character of a token is ignorable. -/
theorem TokenKind.Word.isIgnorable
    {kind : TokenKind}
    {word : List Char}
    (h : kind.Word word) :
    ∀ c ∈ word, isIgnorable c = false := by
  cases h with
  | openList => exact List.forall_mem_singleton.mpr (by decide)
  | closeList => exact List.forall_mem_singleton.mpr (by decide)
  | bang => exact List.forall_mem_singleton.mpr (by decide)
  | name hstart hrest =>
      intro d hd
      refine isIgnorable_eq_false_of_continuesName ?_
      rcases List.mem_cons.mp hd with rfl | hd
      · exact Text.continuesName_of_startsName hstart
      · exact hrest d hd

end Classes

/-- Some characters, which begin at byte `start` and are followed by `rest`, consist of tokens
and ignorable characters.  Every name is as long as it can be. -/
inductive Lexes (rest : List Char) : (start : Nat) → List Char → List Token → Prop
  | done (start : Nat) : Lexes rest start [] []
  | ignorable {start : Nat} {c : Char} {cs : List Char} {tokens : List Token}
      (hc : isIgnorable c = true)
      (htail : Lexes rest (start + c.utf8Size) cs tokens) :
      Lexes rest start (c :: cs) tokens
  | token {start : Nat} {kind : TokenKind} {word cs : List Char} {tokens : List Token}
      (hword : kind.Word word)
      (hlongest : kind = .name → EndsName (cs ++ rest))
      (htail : Lexes rest (start + byteLength word) cs tokens) :
      Lexes rest start (word ++ cs) (⟨kind, word, ⟨start, start + byteLength word⟩⟩ :: tokens)

section Texts

variable {rest cs : List Char} {start : Nat} {tokens : List Token}

theorem byteLength_append
    (cs ds : List Char) :
    byteLength (cs ++ ds) = byteLength cs + byteLength ds := by
  induction cs with
  | nil => rw [List.nil_append, byteLength, Nat.zero_add]
  | cons c cs ih => rw [List.cons_append, byteLength, byteLength, ih, Nat.add_assoc]

/-- Tokens are of the class of their kind. -/
theorem word_of_lexes
    (h : Lexes rest start cs tokens) :
    ∀ token ∈ tokens, token.kind.Word token.text := by
  induction h with
  | done _ => exact fun _ htoken => nomatch htoken
  | ignorable _ _ ih => exact ih
  | token hword _ _ ih => exact List.forall_mem_cons.mpr ⟨hword, ih⟩

/-- The characters of a text that are not ignorable are those of its tokens. -/
theorem filter_of_lexes
    (h : Lexes rest start cs tokens) :
    cs.filter (fun c => !isIgnorable c) = tokens.flatMap Token.text := by
  induction h with
  | done _ => rfl
  | ignorable hc _ ih =>
      rw [List.filter_cons_of_neg (by rw [hc]; decide)]
      exact ih
  | token hword _ _ ih =>
      rw [List.filter_append, List.flatMap_cons, ih, List.filter_eq_self.mpr]
      intro c hc
      rw [hword.isIgnorable c hc]
      rfl

/-- Ignorable characters in front move the tokens on. -/
theorem lexes_ignorable_append
    {gap : List Char}
    (hgap : ∀ c ∈ gap, isIgnorable c = true)
    (h : Lexes rest (start + byteLength gap) cs tokens) :
    Lexes rest start (gap ++ cs) tokens := by
  induction gap generalizing start with
  | nil => exact h
  | cons c gap ih =>
      obtain ⟨hc, hgap⟩ := List.forall_mem_cons.mp hgap
      refine .ignorable hc (ih hgap ?_)
      rwa [byteLength, ← Nat.add_assoc] at h

theorem lexes_ignorable
    {gap : List Char}
    (hgap : ∀ c ∈ gap, isIgnorable c = true)
    (start : Nat) :
    Lexes rest start gap [] := by
  rw [← List.append_nil gap]
  exact lexes_ignorable_append hgap (.done _)

/-- Two texts are read one behind the other. -/
theorem Lexes.append
    {ds : List Char}
    {others : List Token}
    (h : Lexes (ds ++ rest) start cs tokens)
    (hnext : Lexes rest (start + byteLength cs) ds others) :
    Lexes rest start (cs ++ ds) (tokens ++ others) := by
  induction h with
  | done _ => exact hnext
  | ignorable hc _ ih =>
      refine .ignorable hc (ih ?_)
      rwa [byteLength, ← Nat.add_assoc] at hnext
  | token hword hlongest _ ih =>
      rw [List.append_assoc]
      refine .token hword (by rwa [List.append_assoc]) (ih ?_)
      rwa [byteLength_append, ← Nat.add_assoc] at hnext

end Texts

section Scanning

/-- Ignorable characters are skipped. -/
theorem scan_ignorable
    {c : Char}
    (hc : isIgnorable c = true)
    (start : Nat)
    (cs : List Char) :
    scan start (c :: cs) = scan (start + c.utf8Size) cs := by
  rw [scan, if_pos hc]

/-- A word is scanned as one token, up to its end. -/
theorem scan_word
    {kind : TokenKind}
    {word rest : List Char}
    (hword : kind.Word word)
    (hlongest : kind = .name → EndsName rest)
    (start : Nat) :
    scan start (word ++ rest) =
      .token ⟨kind, word, ⟨start, start + byteLength word⟩⟩ ::
        scan (start + byteLength word) rest := by
  cases hword with
  | openList => rw [List.singleton_append, scan]; rfl
  | closeList => rw [List.singleton_append, scan]; rfl
  | bang => rw [List.singleton_append, scan]; rfl
  | @name c cs hstart hrest =>
      have hignorable := isIgnorable_eq_false_of_continuesName
        (Text.continuesName_of_startsName hstart)
      rw [List.cons_append, scan, hignorable, if_neg Bool.false_ne_true, if_pos hstart,
        Front.takeWhile_append hrest (hlongest rfl), Front.dropWhile_append hrest (hlongest rfl)]

theorem scan_stray
    {c : Char}
    (h : Stray c)
    (start : Nat)
    (cs : List Char) :
    scan start (c :: cs) =
      .stray ⟨start, start + c.utf8Size⟩ :: scan (start + c.utf8Size) cs := by
  rw [scan, h.ignorable, h.startsName, h.punctuation?, if_neg Bool.false_ne_true,
    if_neg Bool.false_ne_true]

/-- The scan of a text that has tokens lists them and goes on behind them. -/
theorem scan_append_of_lexes
    {rest cs : List Char}
    {start : Nat}
    {tokens : List Token}
    (h : Lexes rest start cs tokens) :
    scan start (cs ++ rest) =
      tokens.map .token ++ scan (start + byteLength cs) rest := by
  induction h with
  | done _ => rfl
  | ignorable hc _ ih =>
      rw [List.cons_append, scan_ignorable hc, ih, byteLength, Nat.add_assoc]
  | token hword hlongest _ ih =>
      rw [List.append_assoc, scan_word hword hlongest, ih, byteLength_append, List.map_cons,
        List.cons_append, Nat.add_assoc]

/-- Every text has tokens up to its end, or up to a character that belongs nowhere. -/
theorem exists_lexes
    (start : Nat)
    (cs : List Char) :
    ∃ before rest tokens, cs = before ++ rest ∧ Lexes rest start before tokens ∧
      ∀ c ∈ rest.head?, Stray c := by
  fun_induction scan start cs with
  | case1 start => exact ⟨[], [], [], rfl, .done start, fun _ hc => nomatch hc⟩
  | case2 start c cs hc ih =>
      obtain ⟨before, rest, tokens, rfl, hlexes, hstray⟩ := ih
      exact ⟨c :: before, rest, tokens, rfl, .ignorable hc hlexes, hstray⟩
  | case3 start c cs _ hstart word stop ih =>
      obtain ⟨before, rest, tokens, hdrop, hlexes, hstray⟩ := ih
      have hword : TokenKind.Word .name word :=
        .name hstart (List.all_eq_true.mp List.all_takeWhile)
      have hlongest : EndsName (before ++ rest) := by
        intro d hd
        rw [← hdrop] at hd
        have hnot := List.head?_dropWhile_not Text.continuesName cs
        rw [Option.mem_def.mp hd] at hnot
        exact Bool.eq_false_iff.mpr (by simpa using hnot)
      refine ⟨word ++ before, rest, _, ?_, .token hword (fun _ => hlongest) hlexes, hstray⟩
      rw [List.append_assoc, ← hdrop, List.cons_append, List.takeWhile_append_dropWhile]
  | case4 start c cs hignorable hstart stop lexeme ih =>
      cases hkind : punctuation? c with
      | none =>
          refine ⟨[], c :: cs, [], rfl, .done start, fun d hd => ?_⟩
          cases hd
          exact stray_of_punctuation? (Bool.eq_false_iff.mpr hignorable)
            (Bool.eq_false_iff.mpr hstart) hkind
      | some kind =>
          obtain ⟨before, rest, tokens, rfl, hlexes, hstray⟩ := ih
          have hword := word_of_punctuation? hkind
          have hname : kind ≠ .name := by
            rintro rfl
            cases hword with
            | name h _ => exact hstart h
          exact ⟨[c] ++ before, rest, _, rfl, .token hword (fun h => absurd h hname) hlexes,
            hstray⟩

end Scanning

section Tokenizing

variable {source : String} {tokens : List Token}

theorem collect_map_token
    (tokens : List Token)
    (lexemes : List Lexeme) :
    collect (tokens.map .token ++ lexemes) = (collect lexemes).map (tokens ++ ·) := by
  induction tokens with
  | nil => cases h : collect lexemes <;> simp [h, Except.map]
  | cons token tokens ih =>
      rw [List.map_cons, List.cons_append, collect, ih]
      cases collect lexemes <;> rfl

/-- Tokens that a text can be read as are those that it is read as. -/
theorem tokenize_of_lexes
    (h : Lexes [] 0 source.toList tokens) :
    tokenize source = .ok tokens := by
  have hscan := scan_append_of_lexes h
  rw [List.append_nil] at hscan
  rw [tokenize, hscan, collect_map_token, scan, collect]
  show Except.ok (tokens ++ []) = _
  rw [List.append_nil]

/-- The first character that belongs nowhere is an error, whatever follows. -/
theorem tokenize_of_stray
    {before after : List Char}
    {c : Char}
    (hsource : source.toList = before ++ c :: after)
    (h : Lexes (c :: after) 0 before tokens)
    (hc : Stray c) :
    tokenize source = .error ⟨byteLength before, byteLength before + c.utf8Size⟩ := by
  rw [tokenize, hsource, scan_append_of_lexes h, collect_map_token, scan_stray hc, Nat.zero_add]
  rfl

/-- A text has tokens, or there is a first character that belongs nowhere. -/
theorem lexes_or_stray
    (source : String) :
    (∃ tokens, Lexes [] 0 source.toList tokens) ∨
      ∃ before c after tokens, source.toList = before ++ c :: after ∧
        Lexes (c :: after) 0 before tokens ∧ Stray c := by
  obtain ⟨before, rest, tokens, hsource, hlexes, hstray⟩ := exists_lexes 0 source.toList
  cases rest with
  | nil =>
      rw [List.append_nil] at hsource
      exact .inl ⟨tokens, hsource ▸ hlexes⟩
  | cons c after => exact .inr ⟨before, c, after, tokens, hsource, hlexes, hstray c rfl⟩

/-- **Tokens of a text.**  The text is cut into its tokens, if it has any cut. -/
theorem tokenize_eq_ok_iff :
    tokenize source = .ok tokens ↔ Lexes [] 0 source.toList tokens := by
  refine ⟨fun h => ?_, tokenize_of_lexes⟩
  rcases lexes_or_stray source with
    ⟨others, hlexes⟩ | ⟨before, c, after, others, hsource, hlexes, hc⟩
  · rw [tokenize_of_lexes hlexes] at h
    cases h
    exact hlexes
  · rw [tokenize_of_stray hsource hlexes hc] at h
    cases h

/-- A text without tokens has a first character that belongs nowhere. -/
theorem exists_stray_of_forall_not_lexes
    (h : ∀ tokens, ¬ Lexes [] 0 source.toList tokens) :
    ∃ before c after tokens, source.toList = before ++ c :: after ∧
      Lexes (c :: after) 0 before tokens ∧ Stray c ∧
      tokenize source = .error ⟨byteLength before, byteLength before + c.utf8Size⟩ := by
  rcases lexes_or_stray source with
    ⟨tokens, hlexes⟩ | ⟨before, c, after, tokens, hsource, hlexes, hc⟩
  · exact absurd hlexes (h tokens)
  · exact ⟨before, c, after, tokens, hsource, hlexes, hc, tokenize_of_stray hsource hlexes hc⟩

end Tokenizing

end SchemaGrammar.TypeRef
