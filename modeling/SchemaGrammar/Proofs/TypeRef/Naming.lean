import SchemaGrammar.TypeRef.Basic

/-!
# The name in a type reference

However many brackets and marks stand around it, the innermost part of a type reference that
has been read is a name.

**Results.**
* `TypeRef.sound_of_mem_tokenize`: tokens of the kind of names are names.
* `TypeRef.isName_namedType`: so is the innermost part of a reference.
-/

namespace SchemaGrammar.TypeRef

section Tokens

/-- A token of the kind of names is a name. -/
def Token.Sound (t : Token) : Prop :=
  t.kind = .name → Text.isName (String.ofList t.text) = true

theorem sound_of_punctuation?
    {c : Char}
    {kind : TokenKind}
    (h : punctuation? c = some kind)
    (span : Span) :
    Token.Sound ⟨kind, [c], span⟩ := by
  rintro ⟨⟩
  unfold punctuation? at h
  split at h
  · cases h
  · split at h
    · cases h
    · split at h <;> cases h

/-- Every name that is scanned is one. -/
theorem sound_of_mem_scan
    (start : Nat)
    (cs : List Char) :
    ∀ t, Lexeme.token t ∈ scan start cs → t.Sound := by
  fun_induction scan start cs with
  | case1 => intro t ht; cases ht
  | case2 _ _ _ _ ih => exact ih
  | case3 start c cs _ hstart word stop ih =>
      intro t ht
      rcases List.mem_cons.mp ht with ht | ht
      · cases ht
        intro _
        have hrest : (cs.takeWhile Text.continuesName).all Text.continuesName = true :=
          List.all_takeWhile
        unfold Text.isName
        rw [String.toList_ofList]
        simp [word, hstart, hrest]
      · exact ih t ht
  | case4 start c cs _ _ stop lexeme ih =>
      intro t ht
      rcases List.mem_cons.mp ht with ht | ht
      · simp only [lexeme] at ht
        split at ht
        · next kind hkind =>
            cases ht
            exact sound_of_punctuation? hkind _
        · cases ht
      · exact ih t ht

theorem mem_of_mem_collect
    {lexemes : List Lexeme}
    {tokens : List Token}
    (h : collect lexemes = .ok tokens) :
    ∀ t ∈ tokens, Lexeme.token t ∈ lexemes := by
  induction lexemes generalizing tokens with
  | nil =>
      cases h
      exact fun t ht => nomatch ht
  | cons lexeme rest ih =>
      cases lexeme with
      | stray place => cases h
      | token t =>
          rw [collect] at h
          cases hrest : collect rest with
          | error place =>
              rw [hrest] at h
              cases h
          | ok others =>
              rw [hrest] at h
              cases h
              intro t' ht'
              rcases List.mem_cons.mp ht' with rfl | ht'
              · exact List.mem_cons_self
              · exact List.mem_cons_of_mem _ (ih hrest t' ht')

/-- Every name among the tokens of a text is one. -/
theorem sound_of_mem_tokenize
    {source : String}
    {tokens : List Token}
    (h : tokenize source = .ok tokens) :
    ∀ t ∈ tokens, t.Sound :=
  fun t ht => sound_of_mem_scan 0 source.toList t (mem_of_mem_collect h t ht)

end Tokens

section Parsing

theorem namedType_withBang
    (t : TypeRef)
    (tokens : List Token) :
    (withBang t tokens).1.namedType = t.namedType := by
  unfold withBang
  split
  · split <;> rfl
  · rfl

theorem namedType_closeLists
    {opened : Nat}
    {t t' : TypeRef}
    {tokens rest : List Token}
    (h : closeLists opened t tokens = .ok (t', rest)) :
    t'.namedType = t.namedType := by
  induction opened generalizing t tokens with
  | zero =>
      cases h
      rfl
  | succ opened ih =>
      cases tokens with
      | nil => cases h
      | cons token tokens =>
          rw [closeLists] at h
          split at h
          · exact (ih h).trans (namedType_withBang (.list t) tokens)
          · cases h

/-- A type that is read has the name of a token. -/
theorem exists_token_of_parseType
    {opened : Nat}
    {tokens rest : List Token}
    {t : TypeRef}
    (h : parseType opened tokens = .ok (t, rest)) :
    ∃ token ∈ tokens, token.kind = .name ∧ t.namedType = String.ofList token.text := by
  induction tokens generalizing opened with
  | nil => cases h
  | cons token tokens ih =>
      rw [parseType] at h
      split at h
      · obtain ⟨token', htoken', hname⟩ := ih h
        exact ⟨token', List.mem_cons_of_mem _ htoken', hname⟩
      · next hkind =>
          refine ⟨token, List.mem_cons_self, hkind, ?_⟩
          exact (namedType_closeLists h).trans (namedType_withBang (.named _) tokens)
      · cases h

/-- **The innermost name.**  What is read as a type reference has a name inside. -/
theorem isName_namedType
    {source : String}
    {t : TypeRef}
    (h : parse source = .ok t) :
    Text.isName t.namedType = true := by
  unfold parse at h
  split at h
  · cases h
  · next tokens htokens =>
      unfold ofTokens at h
      split at h
      · cases h
      · split at h
        · cases h
        · next hparse =>
            cases h
            obtain ⟨token, htoken, hkind, hname⟩ := exists_token_of_parseType hparse
            rw [hname]
            exact sound_of_mem_tokenize htokens token htoken hkind
        · cases h

end Parsing

end SchemaGrammar.TypeRef
