import SchemaGrammar.Proofs.TypeRef.Derivation
import SchemaGrammar.Proofs.TypeRef.Lexing
import Mathlib.Data.List.Basic

/-!
# Reading and displaying type references

A text is read as a type if it has tokens and the grammar derives the type from them.  Displaying
the type gives the text without its ignorable characters; wherever ignorable characters are put
between the tokens of a displayed type, it is read again.

**Results.**
* `TypeRef.parse_eq_ok_iff`: the texts of a type.
* `TypeRef.words_of_derives`: the tokens of a type spell what is displayed for it.
* `TypeRef.exists_lexes_of_spaced`: any spacing of these words has tokens that form the type.
* `TypeRef.parse_inverts_display`: the two together.
-/

namespace SchemaGrammar.TypeRef

/-- **The texts of a type.**  A text is read as a type exactly if it has tokens from which the
grammar derives the type. -/
theorem parse_eq_ok_iff
    {source : String}
    {t : TypeRef} :
    parse source = .ok t ↔ ∃ tokens, Lexes [] 0 source.toList tokens ∧ Derives .type t tokens := by
  unfold parse
  constructor
  · intro h
    split at h
    · cases h
    · next tokens htokens =>
        exact ⟨tokens, tokenize_eq_ok_iff.mp htokens, ofTokens_eq_ok_iff.mp h⟩
  · rintro ⟨tokens, hlexes, hderives⟩
    rw [tokenize_eq_ok_iff.mpr hlexes]
    exact ofTokens_eq_ok_iff.mpr hderives

section Words

/-- The words of the displayed type. -/
def words : TypeRef → List (List Char)
  | named name => [name.toList]
  | list inner => ['['] :: (inner.words ++ [[']']])
  | nonNull inner => inner.words ++ [['!']]

/-- No mark stands directly behind another one. -/
def Single : TypeRef → Prop
  | named _ => True
  | list inner => inner.Single
  | nonNull inner => inner.isNonNull = false ∧ inner.Single

/-- The words of a type, without blanks, are how it is written. -/
theorem flatten_words
    (t : TypeRef) :
    t.words.flatten = t.display.toList := by
  induction t with
  | named name => exact List.append_nil _
  | list inner ih =>
      simp only [words, display, List.flatten_cons, List.flatten_append, List.flatten_nil,
        String.toList_append, ih]
      rfl
  | nonNull inner ih =>
      simp only [words, display, List.flatten_cons, List.flatten_append, List.flatten_nil,
        String.toList_append, ih]
      rfl

variable {n : Nonterminal} {t : TypeRef} {tokens : List Token}

/-- A derived type has no bang behind another one. -/
theorem single_of_derives
    (h : Derives n t tokens) :
    t.Single := by
  induction h with
  | name _ => exact trivial
  | list _ _ _ ih => exact ih
  | bare _ ih => exact ih
  | marked _ h ih => exact ⟨isNonNull_of_derives_base h, ih⟩

/-- The tokens of a type spell its words. -/
theorem words_of_derives
    (h : Derives n t tokens)
    (hwords : ∀ token ∈ tokens, token.kind.Word token.text) :
    t.words = tokens.map Token.text := by
  induction h with
  | name _ => rw [words, String.toList_ofList, List.map_singleton]
  | @list opening closing inner tokens hopening hclosing _ ih =>
      simp only [List.forall_mem_cons, List.forall_mem_append, List.mem_singleton, forall_eq]
        at hwords
      obtain ⟨hopen, hinner, hclose⟩ := hwords
      rw [hopening] at hopen
      rw [hclosing] at hclose
      rw [words, ih hinner, List.map_cons, List.map_append, List.map_singleton,
        TokenKind.Word.unique (by decide) hopen .openList,
        TokenKind.Word.unique (by decide) hclose .closeList]
  | bare _ ih => exact ih hwords
  | @marked bang t tokens hbang _ ih =>
      simp only [List.forall_mem_append, List.mem_singleton, forall_eq] at hwords
      obtain ⟨hbase, hmark⟩ := hwords
      rw [hbang] at hmark
      rw [words, ih hbase, List.map_append, List.map_singleton,
        TokenKind.Word.unique (by decide) hmark .bang]

/-- The text of a type is displayed without its ignorable characters. -/
theorem display_of_lexes
    {source : String}
    (hlexes : Lexes [] 0 source.toList tokens)
    (hderives : Derives .type t tokens) :
    t.display = String.ofList (source.toList.filter fun c => !isIgnorable c) := by
  rw [filter_of_lexes hlexes, List.flatMap_def,
    ← words_of_derives hderives (word_of_lexes hlexes), flatten_words, String.ofList_toList]

end Words

section Spacing

/-- Words one after the other, with ignorable characters before, between and behind them. -/
inductive Spaced : List (List Char) → List Char → Prop
  | nil {gap : List Char} (hgap : ∀ c ∈ gap, isIgnorable c = true) : Spaced [] gap
  | cons {gap word cs : List Char} {words : List (List Char)}
      (hgap : ∀ c ∈ gap, isIgnorable c = true) (htail : Spaced words cs) :
      Spaced (word :: words) (gap ++ (word ++ cs))

variable {rest gap cs word : List Char}

/-- Spaced words can be cut where words end. -/
theorem exists_of_spaced_append
    {before behind : List (List Char)}
    (h : Spaced (before ++ behind) cs) :
    ∃ ds es, cs = ds ++ es ∧ Spaced before ds ∧ Spaced behind es := by
  induction before generalizing cs with
  | nil =>
      have hnone : Spaced [] [] := .nil fun _ hc => nomatch hc
      exact ⟨[], cs, rfl, hnone, h⟩
  | cons word before ih =>
      cases h with
      | cons hgap htail =>
          obtain ⟨ds, es, rfl, hbefore, hbehind⟩ := ih htail
          exact ⟨_, es, by simp only [List.append_assoc], .cons hgap hbefore, hbehind⟩

theorem endsName_gap_append
    (hgap : ∀ c ∈ gap, isIgnorable c = true)
    (hrest : EndsName rest) :
    EndsName (gap ++ rest) := by
  cases gap with
  | nil => exact hrest
  | cons c gap =>
      intro d hd
      cases hd
      have hignorable := hgap c List.mem_cons_self
      rw [← Bool.not_eq_true]
      intro hname
      rw [isIgnorable_eq_false_of_continuesName hname] at hignorable
      cases hignorable

/-- No name goes on in front of a mark, wherever it stands. -/
theorem endsName_spaced_append
    {c : Char}
    (hc : Text.continuesName c = false)
    (h : Spaced [[c]] cs)
    (rest : List Char) :
    EndsName (cs ++ rest) := by
  cases h with
  | cons hgap _ =>
      rw [List.append_assoc]
      refine endsName_gap_append hgap fun d hd => ?_
      cases hd
      exact hc

/-- A spaced word is read as one token. -/
theorem exists_lexes_word
    {kind : TokenKind}
    (hword : kind.Word word)
    (hspaced : Spaced [word] cs)
    (hrest : kind = .name → EndsName rest)
    (start : Nat) :
    ∃ token, token.kind = kind ∧ token.text = word ∧ Lexes rest start cs [token] := by
  cases hspaced with
  | cons hgap htail =>
      cases htail with
      | nil hbehind =>
          refine ⟨_, rfl, rfl, lexes_ignorable_append hgap (.token hword ?_ ?_)⟩
          · exact fun hkind => endsName_gap_append hbehind (hrest hkind)
          · exact lexes_ignorable hbehind _

theorem word_of_isName
    {name : String}
    (h : Text.isName name = true) :
    TokenKind.Word .name name.toList := by
  obtain ⟨c, cs, hchars, hstart, hrest⟩ := Text.exists_of_isName h
  rw [hchars]
  exact .name hstart hrest

/-- Any spacing of the words of a type has tokens that form the type. -/
theorem exists_lexes_of_spaced
    {t : TypeRef}
    (hname : Text.isName t.namedType = true)
    (hsingle : t.Single)
    (hspaced : Spaced t.words cs)
    (hrest : EndsName rest)
    (start : Nat) :
    ∃ tokens, Lexes rest start cs tokens ∧ Derives .type t tokens := by
  induction t generalizing rest cs start with
  | named name =>
      obtain ⟨token, hkind, htext, hlexes⟩ :=
        exists_lexes_word (word_of_isName hname) hspaced (fun _ => hrest) start
      have hderives := Derives.name hkind
      rw [htext, String.ofList_toList] at hderives
      exact ⟨[token], hlexes, .bare hderives⟩
  | list inner ih =>
      have hwords : Spaced ([['[']] ++ (inner.words ++ [[']']])) cs := hspaced
      obtain ⟨ds, others, rfl, hopen, hothers⟩ := exists_of_spaced_append hwords
      obtain ⟨es, fs, rfl, hinner, hclose⟩ := exists_of_spaced_append hothers
      obtain ⟨opening, hopening, -, hfirst⟩ :=
        exists_lexes_word .openList hopen (fun h => nomatch h) start
      obtain ⟨tokens, hmiddle, hderives⟩ :=
        ih hname hsingle hinner (endsName_spaced_append (by decide) hclose rest) _
      obtain ⟨closing, hclosing, -, hlast⟩ :=
        exists_lexes_word .closeList hclose (fun h => nomatch h) _
      refine ⟨_, ?_, .bare (.list hopening hclosing hderives)⟩
      exact hfirst.append (hmiddle.append hlast)
  | nonNull inner ih =>
      obtain ⟨hbase, hsingle⟩ := hsingle
      obtain ⟨ds, es, rfl, hinner, hmark⟩ := exists_of_spaced_append hspaced
      obtain ⟨tokens, hfirst, hderives⟩ :=
        ih hname hsingle hinner (endsName_spaced_append (by decide) hmark rest) start
      obtain ⟨bang, hbang, -, hlast⟩ :=
        exists_lexes_word .bang hmark (fun h => nomatch h) _
      refine ⟨_, hfirst.append hlast, ?_⟩
      cases hderives with
      | bare hderives => exact .marked hbang hderives
      | marked _ _ => cases hbase

/-- Words may stand without blanks. -/
theorem spaced_flatten
    (words : List (List Char)) :
    Spaced words words.flatten := by
  have hnone : ∀ c ∈ ([] : List Char), isIgnorable c = true := fun _ hc => nomatch hc
  induction words with
  | nil => exact .nil hnone
  | cons word words ih => exact .cons hnone ih

end Spacing

/-- **Reading inverts displaying.**  A text is read as a type exactly if it has tokens from which
the grammar derives the type.  No mark of the type stands directly behind another one then, and
the type is displayed as the text without its ignorable characters.  Every type with a name and
without doubled marks is read back, wherever ignorable characters are put between the tokens of
what is displayed for it. -/
theorem parse_inverts_display
    (t : TypeRef) :
    (∀ source, parse source = .ok t ↔
      ∃ tokens, Lexes [] 0 source.toList tokens ∧ Derives .type t tokens) ∧
    (∀ source, parse source = .ok t →
      t.Single ∧ t.display = String.ofList (source.toList.filter fun c => !isIgnorable c)) ∧
    (Text.isName t.namedType = true → t.Single →
      ∃ tokens, Lexes [] 0 t.display.toList tokens ∧
        ∀ source, Spaced (tokens.map Token.text) source.toList → parse source = .ok t) := by
  refine ⟨fun source => parse_eq_ok_iff, fun source h => ?_, fun hname hsingle => ?_⟩
  · obtain ⟨tokens, hlexes, hderives⟩ := parse_eq_ok_iff.mp h
    exact ⟨single_of_derives hderives, display_of_lexes hlexes hderives⟩
  · have hend : EndsName [] := fun _ hc => nomatch hc
    obtain ⟨tokens, hlexes, hderives⟩ :=
      exists_lexes_of_spaced hname hsingle (spaced_flatten t.words) hend 0
    have hwords := words_of_derives hderives (word_of_lexes hlexes)
    rw [flatten_words] at hlexes
    refine ⟨tokens, hlexes, fun source hspaced => parse_eq_ok_iff.mpr ?_⟩
    rw [← hwords] at hspaced
    exact exists_lexes_of_spaced hname hsingle hspaced hend 0

/-- A list of lists of names that are marked. -/
def nested : TypeRef := .list (.list (.nonNull (.named "Int")))

theorem parse_inverts_display_nested :
    Text.isName nested.namedType = true ∧ nested.Single ∧
      ∃ tokens, Lexes [] 0 nested.display.toList tokens ∧
        Spaced (tokens.map Token.text) " [ [\tInt ! ] , ], ".toList ∧
        parse " [ [\tInt ! ] , ], " = .ok nested ∧ nested.display = "[[Int!]]" := by
  have hname : Text.isName nested.namedType = true := by decide
  have hsingle : nested.Single := ⟨rfl, trivial⟩
  obtain ⟨-, hdisplay, hread⟩ := parse_inverts_display nested
  obtain ⟨tokens, hlexes, hback⟩ := hread hname hsingle
  have htexts : (tokenize nested.display).map (fun tokens => tokens.map Token.text) =
      .ok [['['], ['['], ['I', 'n', 't'], ['!'], [']'], [']']] := by
    decide +kernel
  rw [tokenize_of_lexes hlexes] at htexts
  have htexts : tokens.map Token.text = _ := Except.ok.inj htexts
  have hchars : " [ [\tInt ! ] , ], ".toList =
      [' '] ++ (['['] ++ ([' '] ++ (['['] ++ (['\t'] ++ (['I', 'n', 't'] ++ ([' '] ++ (['!'] ++
        ([' '] ++ ([']'] ++ ([' ', ',', ' '] ++ ([']'] ++ [',', ' ']))))))))))) := by
    decide +kernel
  have hgap : ∀ gap : List Char, gap.all isIgnorable = true → ∀ c ∈ gap, isIgnorable c = true :=
    fun _ => List.all_eq_true.mp
  have hspaced : Spaced (tokens.map Token.text) " [ [\tInt ! ] , ], ".toList := by
    rw [htexts, hchars]
    refine .cons (hgap _ ?_) (.cons (hgap _ ?_) (.cons (hgap _ ?_) (.cons (hgap _ ?_)
      (.cons (hgap _ ?_) (.cons (hgap _ ?_) (.nil (hgap _ ?_))))))) <;> decide
  have hparse := hback _ hspaced
  exact ⟨hname, hsingle, tokens, hlexes, hspaced, hparse,
    (hdisplay _ hparse).2.trans (by decide +kernel)⟩

end SchemaGrammar.TypeRef
