import SchemaGrammar.Proofs.TypeRef.Derivation
import SchemaGrammar.Proofs.TypeRef.Lexing
import Mathlib.Data.List.Basic

/-!
# Texts that are no type references

Each error says something about all ways in which the text could go on.  Where the text ends too
early, it is the beginning of a type; a token is refused where no type goes on with it, and it
is the first one.

**Results.**
* `TypeRef.fault_of_ofTokens`: what an error says about the tokens.
* `TypeRef.parse_errors_exact`: which error a text gets, and where.
-/

namespace SchemaGrammar.TypeRef

section Faults

variable {tokens : List Token} {e : Error}

/-- What is wrong with tokens that form no type. -/
inductive Fault : List Token → Error → Prop
  | empty : Fault [] .empty
  | ended {tokens : List Token} (expected : String) (hne : tokens ≠ [])
      (hviable : Viable tokens) (hcomplete : ¬ Complete tokens) :
      Fault tokens (.unexpectedEnd expected)
  | refused {before after : List Token} {token : Token} (expected : String)
      (hviable : Viable before) (hcomplete : ¬ Complete before)
      (hrefused : ¬ Viable (before ++ [token])) :
      Fault (before ++ token :: after) (unexpected expected token)
  | trailing {before after : List Token} {token : Token} (hcomplete : Complete before)
      (hrefused : ¬ Viable (before ++ [token])) :
      Fault (before ++ token :: after) (.trailingInput token.span)

/-- An error tells what is wrong with the tokens. -/
theorem fault_of_ofTokens
    (h : ofTokens tokens = .error e) :
    Fault tokens e := by
  unfold ofTokens at h
  split at h
  · next hempty =>
      cases h
      cases List.isEmpty_iff.mp hempty
      exact .empty
  · next hempty =>
      have houtcome := outcome_of_tokens tokens
      split at h
      · next hread =>
          cases h
          rw [hread] at houtcome
          cases houtcome with
          | ended expected hviable hcomplete =>
              exact .ended expected (mt List.isEmpty_iff.mpr hempty) hviable hcomplete
          | refused expected hviable hcomplete hrefused =>
              exact .refused expected hviable hcomplete hrefused
      · cases h
      · next hread =>
          cases h
          rw [hread] at houtcome
          cases houtcome with
          | read h hrest => exact .trailing ⟨_, h⟩ (not_viable_of_derives h hrest)

/-- Only an empty text is refused as empty. -/
theorem ofTokens_eq_empty_iff :
    ofTokens tokens = .error .empty ↔ tokens = [] := by
  constructor
  · intro h
    cases fault_of_ofTokens h
    rfl
  · rintro rfl
    rfl

/-- A text ends too early if it could go on and is not complete. -/
theorem exists_ofTokens_eq_unexpectedEnd_iff :
    (∃ expected, ofTokens tokens = .error (.unexpectedEnd expected)) ↔
      tokens ≠ [] ∧ Viable tokens ∧ ¬ Complete tokens := by
  constructor
  · rintro ⟨expected, h⟩
    cases fault_of_ofTokens h with
    | ended _ hne hviable hcomplete => exact ⟨hne, hviable, hcomplete⟩
  · rintro ⟨hne, hviable, hcomplete⟩
    have hbegins : ∀ {before token after}, tokens = before ++ token :: after →
        Viable (before ++ [token]) := by
      rintro before token after rfl
      rw [← List.singleton_append, ← List.append_assoc] at hviable
      exact hviable.of_append
    cases hread : ofTokens tokens with
    | ok t => exact absurd ⟨t, ofTokens_eq_ok_iff.mp hread⟩ hcomplete
    | error e =>
        cases fault_of_ofTokens hread with
        | empty => exact absurd rfl hne
        | ended expected _ _ _ => exact ⟨expected, rfl⟩
        | refused _ _ _ hrefused => exact absurd (hbegins rfl) hrefused
        | trailing _ hrefused => exact absurd (hbegins rfl) hrefused

/-- Tokens that begin a type and form none begin a longer one. -/
theorem viable_iff_of_not_complete
    (h : ¬ Complete tokens) :
    Viable tokens ↔ ∃ more, more ≠ [] ∧ Complete (tokens ++ more) := by
  constructor
  · rintro ⟨more, hmore⟩
    refine ⟨more, ?_, hmore⟩
    rintro rfl
    rw [List.append_nil] at hmore
    exact h hmore
  · rintro ⟨more, -, hmore⟩
    exact ⟨more, hmore⟩

end Faults

/-- A text is parsed as its tokens. -/
theorem parse_of_lexes
    {source : String}
    {tokens : List Token}
    (h : Lexes [] 0 source.toList tokens) :
    parse source = ofTokens tokens := by
  rw [parse, tokenize_of_lexes h]

/-- **Errors of type references.**  A text with tokens is empty if there are none, and ends too
early if they are the beginning of a type and form none; every other error stands at the first
token with which no type goes on, which is trailing if a type is complete before it.  A text
without tokens has an error at the first character that belongs to no token and is not
ignorable. -/
theorem parse_errors_exact
    (source : String) :
    (∀ tokens, Lexes [] 0 source.toList tokens →
      (parse source = .error .empty ↔ tokens = []) ∧
      ((∃ expected, parse source = .error (.unexpectedEnd expected)) ↔
        tokens ≠ [] ∧ (∃ more, more ≠ [] ∧ Complete (tokens ++ more)) ∧ ¬ Complete tokens) ∧
      ∀ e, parse source = .error e → e ≠ .empty → (∀ expected, e ≠ .unexpectedEnd expected) →
        ∃ before token after, tokens = before ++ token :: after ∧
          Viable before ∧ ¬ Viable (before ++ [token]) ∧
          (Complete before ∧ e = .trailingInput token.span ∨
            ¬ Complete before ∧ ∃ expected found,
              e = .unexpectedToken expected found token.span)) ∧
    ((∀ tokens, ¬ Lexes [] 0 source.toList tokens) →
      ∃ before c after tokens, source.toList = before ++ c :: after ∧
        Lexes (c :: after) 0 before tokens ∧ Stray c ∧
        parse source =
          .error (.invalidToken ⟨byteLength before, byteLength before + c.utf8Size⟩)) := by
  constructor
  · intro tokens hlexes
    rw [parse_of_lexes hlexes]
    refine ⟨ofTokens_eq_empty_iff, ?_, fun e he hempty hended => ?_⟩
    · rw [exists_ofTokens_eq_unexpectedEnd_iff]
      exact and_congr_right fun _ => and_congr_left viable_iff_of_not_complete
    · cases fault_of_ofTokens he with
      | empty => exact absurd rfl hempty
      | ended expected _ _ _ => exact absurd rfl (hended expected)
      | @refused before after token expected hviable hcomplete hrefused =>
          exact ⟨before, token, after, rfl, hviable, hrefused, .inr ⟨hcomplete, _, _, rfl⟩⟩
      | @trailing before after token hcomplete hrefused =>
          exact ⟨before, token, after, rfl, hcomplete.viable, hrefused, .inl ⟨hcomplete, rfl⟩⟩
  · intro h
    obtain ⟨before, c, after, tokens, hsource, hlexes, hc, htokenize⟩ :=
      exists_stray_of_forall_not_lexes h
    refine ⟨before, c, after, tokens, hsource, hlexes, hc, ?_⟩
    rw [parse, htokenize]

theorem parse_errors_exact_doubled :
    (∃ before token after, Lexes [] 0 "[Int,! !]".toList (before ++ token :: after) ∧
      Viable before ∧ ¬ Viable (before ++ [token]) ∧ ¬ Complete before ∧
      parse "[Int,! !]" = .error (.unexpectedToken "']'" "'!' ('!')" token.span) ∧
      token.span = ⟨7, 8⟩) ∧
    ∃ before c after tokens, "[Int, é]".toList = before ++ c :: after ∧
      Lexes (c :: after) 0 before tokens ∧ Stray c ∧
      parse "[Int, é]" = .error (.invalidToken ⟨6, 8⟩) ∧ byteLength before = 6 := by
  constructor
  · have hlexemes : (tokenize "[Int,! !]").toOption.isSome = true := by decide +kernel
    obtain ⟨tokens, htokens⟩ : ∃ tokens, tokenize "[Int,! !]" = .ok tokens := by
      cases htokens : tokenize "[Int,! !]" with
      | ok tokens => exact ⟨tokens, rfl⟩
      | error place =>
          rw [htokens] at hlexemes
          cases hlexemes
    have hlexes := tokenize_eq_ok_iff.mp htokens
    have hread : parse "[Int,! !]" =
        .error (.unexpectedToken "']'" "'!' ('!')" ⟨7, 8⟩) := by
      decide +kernel
    obtain ⟨-, -, hothers⟩ := (parse_errors_exact "[Int,! !]").1 tokens hlexes
    obtain ⟨before, token, after, rfl, hviable, hrefused, hend | ⟨hcomplete, _, _, hspan⟩⟩ :=
      hothers _ hread (fun h => by cases h) (fun _ h => by cases h)
    · cases hend.2
    · have hspan := (Error.unexpectedToken.inj hspan).2.2
      exact ⟨before, token, after, hlexes, hviable, hrefused, hcomplete, hspan ▸ hread,
        hspan.symm⟩
  · have hread : parse "[Int, é]" = .error (.invalidToken ⟨6, 8⟩) := by decide +kernel
    have hnone : ∀ tokens, ¬ Lexes [] 0 "[Int, é]".toList tokens := by
      intro tokens hlexes
      have htokens : tokenize "[Int, é]" = .error ⟨6, 8⟩ := by decide +kernel
      rw [tokenize_of_lexes hlexes] at htokens
      cases htokens
    obtain ⟨before, c, after, tokens, hsource, hlexes, hc, herror⟩ :=
      (parse_errors_exact "[Int, é]").2 hnone
    have hspan := Error.invalidToken.inj (Except.error.inj (herror.symm.trans hread))
    exact ⟨before, c, after, tokens, hsource, hlexes, hc, hread, (Span.mk.inj hspan).1⟩

end SchemaGrammar.TypeRef
