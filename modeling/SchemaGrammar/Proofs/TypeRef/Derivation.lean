import SchemaGrammar.TypeRef.Basic

/-!
# The grammar of type references

A type is a name or a list of a type between brackets, perhaps with a mark behind it:

```
type = base "!"?        base = "[" type "]" | name
```

The reader counts the brackets that it enters and closes them on the way out.  What it has read
is at every moment a number of brackets with nothing or a type inside the innermost one, and from
there every token either leads on to a type or to none.

**Results.**
* `TypeRef.outcome_parseType`: what comes of reading, in terms of the grammar: a type is read as
  far as it goes, and an error stands where no type can go on.
* `TypeRef.ofTokens_eq_ok_iff`: the tokens that are read as a type are those that the grammar
  derives it from.
-/

namespace SchemaGrammar.TypeRef

section Grammar

inductive Nonterminal
  | type
  | base

/-- The derivations of the grammar, and the types that they stand for. -/
inductive Derives : Nonterminal → TypeRef → List Token → Prop
  | name {token : Token} (hname : token.kind = .name) :
      Derives .base (.named (String.ofList token.text)) [token]
  | list {opening closing : Token} {inner : TypeRef} {tokens : List Token}
      (hopening : opening.kind = .openList) (hclosing : closing.kind = .closeList)
      (hinner : Derives .type inner tokens) :
      Derives .base (.list inner) (opening :: (tokens ++ [closing]))
  | bare {t : TypeRef} {tokens : List Token} (h : Derives .base t tokens) :
      Derives .type t tokens
  | marked {bang : Token} {t : TypeRef} {tokens : List Token} (hbang : bang.kind = .bang)
      (h : Derives .base t tokens) :
      Derives .type (.nonNull t) (tokens ++ [bang])

/-- Tokens that form a type. -/
def Complete (tokens : List Token) : Prop := ∃ t, Derives .type t tokens

/-- Tokens that some type begins with. -/
def Viable (tokens : List Token) : Prop := ∃ more, Complete (tokens ++ more)

/-- A type goes no further where `rest` comes next: it has its mark, or none follows. -/
def Final (t : TypeRef) (rest : List Token) : Prop :=
  ∀ token ∈ rest.head?, token.kind = .bang → t.isNonNull = true

/-- Tokens that form a type are the beginning of one. -/
theorem Complete.viable
    {tokens : List Token}
    (h : Complete tokens) :
    Viable tokens :=
  ⟨[], by rwa [List.append_nil]⟩

/-- What comes before viable tokens is viable. -/
theorem Viable.of_append
    {tokens more : List Token}
    (h : Viable (tokens ++ more)) :
    Viable tokens := by
  obtain ⟨others, h⟩ := h
  exact ⟨more ++ others, by rwa [List.append_assoc] at h⟩

/-- A type without a bang is not marked as such. -/
theorem isNonNull_of_derives_base
    {t : TypeRef}
    {tokens : List Token}
    (h : Derives .base t tokens) :
    t.isNonNull = false := by
  cases h <;> rfl

theorem final_nil (t : TypeRef) : Final t [] := fun _ htoken => nomatch htoken

end Grammar

section Reading

variable {t : TypeRef} {rest tokens : List Token}

theorem withBang_bang
    {bang : Token}
    (hbang : bang.kind = .bang)
    (t : TypeRef)
    (rest : List Token) :
    withBang t (bang :: rest) = (.nonNull t, rest) :=
  if_pos hbang

/-- Where no bang follows, the type stays. -/
theorem withBang_of_final
    (ht : t.isNonNull = false)
    (h : Final t rest) :
    withBang t rest = (t, rest) := by
  cases rest with
  | nil => rfl
  | cons token rest =>
      refine if_neg fun hbang => ?_
      rw [h token rfl hbang] at ht
      cases ht

/-- What has been read of a nonterminal when `rest` comes next. -/
def readOf : Nonterminal → TypeRef → List Token → TypeRef × List Token
  | .type, t, rest => (t, rest)
  | .base, t, rest => withBang t rest

/-- Derived tokens are read, in any number of brackets, up to where the type goes no further. -/
theorem parseType_append
    {n : Nonterminal}
    (h : Derives n t tokens)
    (opened : Nat)
    (hrest : n = .type → Final t rest) :
    parseType opened (tokens ++ rest) =
      closeLists opened (readOf n t rest).1 (readOf n t rest).2 := by
  induction h generalizing opened rest with
  | @name token hname =>
      rw [List.singleton_append, parseType, hname]
      rfl
  | @list opening closing inner tokens hopening hclosing _ ih =>
      have hfinal : Final inner (closing :: rest) := by
        intro token htoken hbang
        cases htoken
        rw [hclosing] at hbang
        cases hbang
      rw [List.cons_append, List.append_assoc, List.singleton_append, parseType, hopening]
      dsimp only
      rw [ih (opened + 1) fun _ => hfinal, readOf, closeLists, if_pos hclosing]
      rfl
  | bare h ih =>
      rw [ih opened nofun, readOf, readOf,
        withBang_of_final (isNonNull_of_derives_base h) (hrest rfl)]
  | marked hbang h ih =>
      rw [List.append_assoc, List.singleton_append, ih opened nofun]
      dsimp only [readOf]
      rw [withBang_bang hbang]

/-- What has been read when a nonterminal has been read inside `opened` brackets. -/
inductive Inside (n : Nonterminal) : (opened : Nat) → TypeRef → List Token → Prop
  | whole {t : TypeRef} {tokens : List Token} (h : Derives n t tokens) : Inside n 0 t tokens
  | bracket {opening : Token} {opened : Nat} {t : TypeRef} {read : List Token}
      (hopening : opening.kind = .openList) (h : Inside n opened t read) :
      Inside n (opened + 1) t (opening :: read)

/-- What has been read when `opened` brackets have been entered. -/
structure Brackets (opened : Nat) (read : List Token) : Prop where
  length : read.length = opened
  kind : ∀ token ∈ read, token.kind = .openList

section Steps

variable {opened : Nat} {read : List Token}

/-- A type that is derived inside of brackets stands inside of them. -/
theorem Inside.of_derives
    {n m : Nonterminal}
    {u : TypeRef}
    {behind : List Token}
    (h : Inside n opened t read)
    (hstep : ∀ tokens, Derives n t tokens → Derives m u (tokens ++ behind)) :
    Inside m opened u (read ++ behind) := by
  induction h with
  | whole h => exact .whole (hstep _ h)
  | bracket hopening _ ih => exact .bracket hopening (ih hstep)

theorem Inside.bare
    (h : Inside .base opened t read) :
    Inside .type opened t read := by
  have hbare : Inside .type opened t (read ++ []) :=
    h.of_derives fun tokens htokens => by
      rw [List.append_nil]
      exact .bare htokens
  rwa [List.append_nil] at hbare

/-- Closing the innermost bracket makes a list. -/
theorem Inside.close
    {closing : Token}
    (hclosing : closing.kind = .closeList)
    (h : Inside .type (opened + 1) t read) :
    Inside .base opened (.list t) (read ++ [closing]) := by
  generalize hdepth : opened + 1 = depth at h
  induction h generalizing opened with
  | whole _ => cases hdepth
  | @bracket opening around t read hopening h ih =>
      cases hdepth
      cases around with
      | zero =>
          cases h with
          | whole h => exact .whole (.list hopening hclosing h)
      | succ around => exact .bracket hopening (ih rfl)

/-- A name inside the innermost bracket. -/
theorem Brackets.name
    {token : Token}
    (hname : token.kind = .name)
    (h : Brackets opened read) :
    Inside .base opened (.named (String.ofList token.text)) (read ++ [token]) := by
  obtain ⟨rfl, hkind⟩ := h
  induction read with
  | nil => exact .whole (.name hname)
  | cons opening read ih =>
      obtain ⟨hopening, hkind⟩ := List.forall_mem_cons.mp hkind
      exact .bracket hopening (ih hkind)

theorem Brackets.concat
    {opening : Token}
    (hopening : opening.kind = .openList)
    (h : Brackets opened read) :
    Brackets (opened + 1) (read ++ [opening]) := by
  obtain ⟨rfl, hkind⟩ := h
  refine ⟨List.length_append, fun token htoken => ?_⟩
  rcases List.mem_append.mp htoken with htoken | htoken
  · exact hkind token htoken
  · cases List.mem_singleton.mp htoken
    exact hopening

/-- A base takes the mark that follows it, and then it is final. -/
theorem Inside.withBang
    (h : Inside .base opened t read)
    (hbase : t.isNonNull = false)
    (tokens : List Token) :
    ∃ more, tokens = more ++ (TypeRef.withBang t tokens).2 ∧
      Inside .type opened (TypeRef.withBang t tokens).1 (read ++ more) ∧
      Final (TypeRef.withBang t tokens).1 (TypeRef.withBang t tokens).2 := by
  by_cases hbang : ∃ bang ∈ tokens.head?, bang.kind = .bang
  · obtain ⟨bang, hhead, hbang⟩ := hbang
    obtain ⟨rest, rfl⟩ := List.head?_eq_some_iff.mp hhead
    rw [withBang_bang hbang]
    exact ⟨[bang], rfl, h.of_derives fun _ h => .marked hbang h, fun _ _ _ => rfl⟩
  · have hfinal : Final t tokens := fun bang hhead hkind => absurd ⟨bang, hhead, hkind⟩ hbang
    rw [withBang_of_final hbase hfinal]
    exact ⟨[], rfl, (List.append_nil read).symm ▸ h.bare, hfinal⟩

end Steps

section Equations

variable {opened : Nat} {read : List Token}

/-- Opening brackets are counted. -/
theorem parseType_brackets
    (h : Brackets opened read)
    (entered : Nat)
    (rest : List Token) :
    parseType entered (read ++ rest) = parseType (entered + opened) rest := by
  obtain ⟨rfl, hkind⟩ := h
  induction read generalizing entered with
  | nil => rfl
  | cons opening read ih =>
      obtain ⟨hopening, hkind⟩ := List.forall_mem_cons.mp hkind
      rw [List.cons_append, parseType, hopening]
      dsimp only
      rw [ih _ hkind, List.length_cons, Nat.add_right_comm, Nat.add_assoc]

/-- Behind the innermost type the brackets are closed. -/
theorem parseType_inside
    (h : Inside .type opened t read)
    (hrest : Final t rest)
    (entered : Nat) :
    parseType entered (read ++ rest) = closeLists (entered + opened) t rest := by
  induction h generalizing entered with
  | whole h => exact parseType_append h entered fun _ => hrest
  | bracket hopening _ ih =>
      rw [List.cons_append, parseType, hopening]
      dsimp only
      rw [ih hrest, Nat.add_right_comm, Nat.add_assoc]

/-- A derived type is parsed to its end. -/
theorem parseType_of_derives
    (h : Derives .type t tokens) :
    parseType 0 tokens = .ok (t, []) := by
  have hread : parseType 0 (tokens ++ []) = closeLists 0 t [] :=
    parseType_append h 0 fun _ => final_nil t
  rwa [List.append_nil] at hread

end Equations

end Reading

section Outcomes

variable {opened : Nat} {t : TypeRef} {read tokens : List Token} {token : Token}

/-- Where a type stands inside brackets, closing them leads to a type. -/
theorem Inside.viable
    (h : Inside .type opened t read) :
    Viable read := by
  induction opened generalizing t read with
  | zero =>
      cases h with
      | whole h => exact Complete.viable ⟨t, h⟩
  | succ opened ih =>
      have hclosing : (Token.mk .closeList [']'] default).kind = .closeList := rfl
      exact (ih (h.close hclosing).bare).of_append

theorem Brackets.viable
    (h : Brackets opened read) :
    Viable read := by
  have hname : (Token.mk .name ['T'] default).kind = .name := rfl
  exact (h.name hname).bare.viable.of_append

/-- Tokens that form a type are read without an error. -/
theorem not_complete_of_parseType
    (h : ∀ t, parseType 0 tokens ≠ .ok (t, [])) :
    ¬ Complete tokens :=
  fun ⟨t, ht⟩ => h t (parseType_of_derives ht)

/-- A token that always ends the reading leads to no type. -/
theorem not_viable_of_parseType
    (h : ∀ more t, parseType 0 (read ++ token :: more) ≠ .ok (t, [])) :
    ¬ Viable (read ++ [token]) := by
  rintro ⟨more, hcomplete⟩
  rw [List.append_assoc, List.singleton_append] at hcomplete
  exact not_complete_of_parseType (h more) hcomplete

/-- Inside of brackets no type is complete. -/
theorem Inside.not_complete
    (h : Inside .type (opened + 1) t read) :
    ¬ Complete read := by
  refine not_complete_of_parseType fun u hread => ?_
  have hinside := parseType_inside h (final_nil t) 0
  rw [List.append_nil, Nat.zero_add] at hinside
  rw [hinside] at hread
  cases hread

theorem Brackets.not_complete
    (h : Brackets opened read) :
    ¬ Complete read := by
  refine not_complete_of_parseType fun u hread => ?_
  have hbrackets := parseType_brackets h 0 []
  rw [List.append_nil] at hbrackets
  rw [hbrackets] at hread
  cases hread

/-- Inside brackets nothing but a closing one may follow a final type. -/
theorem Inside.not_viable
    (h : Inside .type (opened + 1) t read)
    (hfinal : Final t [token])
    (hkind : token.kind ≠ .closeList) :
    ¬ Viable (read ++ [token]) := by
  refine not_viable_of_parseType fun more u hread => ?_
  have hmore : Final t (token :: more) := hfinal
  rw [parseType_inside h hmore, Nat.zero_add, closeLists, if_neg hkind] at hread
  cases hread

/-- Nothing may follow a final type outside of brackets. -/
theorem not_viable_of_derives
    (h : Derives .type t read)
    (hfinal : Final t [token]) :
    ¬ Viable (read ++ [token]) := by
  refine not_viable_of_parseType fun more u hread => ?_
  have hmore : Final t (token :: more) := hfinal
  rw [parseType_append h 0 fun _ => hmore, readOf, closeLists] at hread
  cases hread

/-- Nothing but a type may follow opening brackets. -/
theorem Brackets.not_viable
    (h : Brackets opened read)
    (hopening : token.kind ≠ .openList)
    (hname : token.kind ≠ .name) :
    ¬ Viable (read ++ [token]) := by
  refine not_viable_of_parseType fun more u hread => ?_
  rw [parseType_brackets h, parseType] at hread
  split at hread
  · next hkind => exact hopening hkind
  · next hkind => exact hname hkind
  · cases hread

/-- What comes of reading tokens. -/
inductive Outcome : List Token → Except Error (TypeRef × List Token) → Prop
  /-- A type is read as far as it goes. -/
  | read {t : TypeRef} {tokens rest : List Token} (h : Derives .type t tokens)
      (hrest : Final t rest) : Outcome (tokens ++ rest) (.ok (t, rest))
  /-- The tokens end before a type does. -/
  | ended {tokens : List Token} (expected : String) (hviable : Viable tokens)
      (hcomplete : ¬ Complete tokens) : Outcome tokens (.error (.unexpectedEnd expected))
  /-- A token comes with which no type goes on. -/
  | refused {before after : List Token} {token : Token} (expected : String)
      (hviable : Viable before) (hcomplete : ¬ Complete before)
      (hrefused : ¬ Viable (before ++ [token])) :
      Outcome (before ++ token :: after) (.error (unexpected expected token))

theorem outcome_closeLists
    (h : Inside .type opened t read)
    (hfinal : Final t tokens) :
    Outcome (read ++ tokens) (closeLists opened t tokens) := by
  induction opened generalizing t read tokens with
  | zero =>
      cases h with
      | whole h => exact .read h hfinal
  | succ opened ih =>
      cases tokens with
      | nil =>
          rw [List.append_nil]
          exact .ended _ h.viable h.not_complete
      | cons token tokens =>
          rw [closeLists]
          split
          · next hclosing =>
              obtain ⟨more, htokens, hinside, hmore⟩ := (h.close hclosing).withBang rfl tokens
              have hnext := ih hinside hmore
              rw [List.append_assoc, List.append_assoc, ← htokens] at hnext
              exact hnext
          · next hkind =>
              exact .refused _ h.viable h.not_complete (h.not_viable hfinal hkind)

/-- **Reading a type.**  Inside brackets, the tokens are read as the grammar says. -/
theorem outcome_parseType
    (h : Brackets opened read) :
    Outcome (read ++ tokens) (parseType opened tokens) := by
  induction tokens generalizing opened read with
  | nil =>
      rw [List.append_nil]
      exact .ended _ h.viable h.not_complete
  | cons token tokens ih =>
      rw [parseType]
      split
      · next hopening =>
          have hnext := ih (h.concat hopening)
          rwa [List.append_assoc] at hnext
      · next hname =>
          obtain ⟨more, htokens, hinside, hmore⟩ := (h.name hname).withBang rfl tokens
          have hnext := outcome_closeLists hinside hmore
          rw [List.append_assoc, List.append_assoc, ← htokens] at hnext
          exact hnext
      · next hopening hname =>
          exact .refused _ h.viable h.not_complete (h.not_viable hopening hname)

/-- Every list of tokens has one of the outcomes. -/
theorem outcome_of_tokens
    (tokens : List Token) :
    Outcome tokens (parseType 0 tokens) := by
  have hnone : Brackets 0 [] := ⟨rfl, fun _ htoken => nomatch htoken⟩
  exact outcome_parseType hnone

theorem ne_nil_of_derives
    {n : Nonterminal}
    (h : Derives n t tokens) :
    tokens ≠ [] := by
  cases h <;> simp
  next h => cases h <;> simp

/-- **Reading and deriving.**  Tokens are read as a type exactly if it is derived from them. -/
theorem ofTokens_eq_ok_iff :
    ofTokens tokens = .ok t ↔ Derives .type t tokens := by
  unfold ofTokens
  constructor
  · intro h
    split at h
    · cases h
    · have houtcome := outcome_of_tokens tokens
      split at h
      · cases h
      · next u hread =>
          cases h
          rw [hread] at houtcome
          cases houtcome with
          | read h _ => rwa [List.append_nil]
      · cases h
  · intro h
    rw [if_neg (mt List.isEmpty_iff.mp (ne_nil_of_derives h)), parseType_of_derives h]

end Outcomes

end SchemaGrammar.TypeRef
