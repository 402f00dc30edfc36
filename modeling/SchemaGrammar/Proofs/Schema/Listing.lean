import Mathlib.Data.List.Basic
import SchemaGrammar.Schema.Listing
import SchemaGrammar.Proofs.Text.Token

/-!
# The types that a listing declares

The name of a rule becomes the name of a type: what is neither letter nor digit is dropped, the
first letter of each word is made a capital, and a letter is put in front where none would be.
The folding is not one to one, so two rules may share the name of a type, and the notation of a
rule may run over several lines of the listing.

**Results.**
* `Listing.camelCase_eq_fold`: the words run together are the name folded in one pass.
* `Listing.isIdentifier_identifier`: the name of a type is one as the language wants it.
* `Listing.identifier_eq_iff`: which rules share the name of a type.
* `Grammar.typeListing_declares`: the types that the lines of a listing declare.
-/

namespace SchemaGrammar

namespace Listing

section Folding

/-- The letters and digits of a text, with a capital in front of each word.  `fresh` tells
whether the text stands where a word may begin. -/
def foldFrom (fresh : Bool) : List Char → List Char
  | [] => []
  | c :: cs =>
      if c.isAlphanum then (if fresh then c.toUpper else c) :: foldFrom false cs
      else foldFrom true cs

/-- A name with all but its letters and digits dropped and a capital in front of each word. -/
def fold (name : String) : List Char := foldFrom true name.toList

/-- The first run of letters and digits goes on with the word before it, the others are words of
their own. -/
theorem exists_words_eq
    (cs : List Char) :
    ∃ word rest, words cs = word :: rest ∧
      word ++ rest.flatMap capitalized = foldFrom false cs ∧
      capitalized word ++ rest.flatMap capitalized = foldFrom true cs := by
  induction cs with
  | nil => exact ⟨[], [], rfl, rfl, rfl⟩
  | cons c cs ih =>
      obtain ⟨word, rest, hwords, hgoing, hfresh⟩ := ih
      rw [words, hwords, foldFrom, foldFrom]
      split
      · refine ⟨c :: word, rest, rfl, ?_, ?_⟩
        · rw [List.cons_append, hgoing]
          rfl
        · rw [capitalized, List.cons_append, hgoing]
          rfl
      · refine ⟨[], word :: rest, rfl, ?_, ?_⟩
        · rw [List.nil_append, List.flatMap_cons, hfresh]
        · rw [capitalized, List.nil_append, List.flatMap_cons, hfresh]

/-- The words of a name run together are the name folded in one pass. -/
theorem camelCase_eq_fold
    (name : String) :
    camelCase name = fold name := by
  obtain ⟨word, rest, hwords, -, hfresh⟩ := exists_words_eq name.toList
  rw [camelCase, hwords, List.flatMap_cons, hfresh, fold]

theorem isAlpha_iff
    {c : Char} :
    c.isAlpha = true ↔ c.isUpper = true ∨ c.isLower = true :=
  Bool.or_eq_true_iff

theorem isUpper_iff
    {c : Char} :
    c.isUpper = true ↔ 'A'.val ≤ c.val ∧ c.val ≤ 'Z'.val :=
  decide_eq_true_iff

theorem isLower_iff
    {c : Char} :
    c.isLower = true ↔ 'a'.val ≤ c.val ∧ c.val ≤ 'z'.val :=
  Bool.and_eq_true_iff.trans (and_congr decide_eq_true_iff decide_eq_true_iff)

/-- A digit is its own capital. -/
theorem toUpper_of_isDigit
    {c : Char}
    (h : c.isDigit = true) :
    c.toUpper = c := by
  refine dif_neg fun hlower => ?_
  simp only [Char.isDigit, Bool.and_eq_true, decide_eq_true_eq, UInt32.le_iff_toNat_le,
    ge_iff_le] at h hlower
  have hnine : '9'.val.toNat = 57 := rfl
  have ha : 'a'.val.toNat = 97 := rfl
  omega

/-- The capital of a letter is one. -/
theorem isUpper_toUpper_of_isAlpha
    {c : Char}
    (h : c.isAlpha = true) :
    c.toUpper.isUpper = true := by
  rw [isAlpha_iff, isLower_iff] at h
  unfold Char.toUpper
  split
  · next hlower =>
      have hshift : (c.val + ('A'.val - 'a'.val)).toNat = (c.val.toNat + (2 ^ 32 - 32)) % 2 ^ 32 :=
        UInt32.toNat_add c.val ('A'.val - 'a'.val)
      have ha : 'a'.val.toNat = 97 := rfl
      have hz : 'z'.val.toNat = 122 := rfl
      have hfirst : 'A'.val.toNat = 65 := rfl
      have hlast : 'Z'.val.toNat = 90 := rfl
      rw [isUpper_iff]
      simp only [UInt32.le_iff_toNat_le, hshift] at hlower ⊢
      omega
  · next hlower => exact h.resolve_right hlower

theorem isAlphanum_toUpper
    {c : Char}
    (h : c.isAlphanum = true) :
    c.toUpper.isAlphanum = true := by
  rw [Char.isAlphanum, Bool.or_eq_true] at h ⊢
  rcases h with h | h
  · exact .inl (isAlpha_iff.mpr (.inl (isUpper_toUpper_of_isAlpha h)))
  · rw [toUpper_of_isDigit h]
    exact .inr h

/-- Only letters and digits are left of a name. -/
theorem isAlphanum_of_mem_foldFrom
    (fresh : Bool)
    (cs : List Char) :
    ∀ c ∈ foldFrom fresh cs, c.isAlphanum = true := by
  fun_induction foldFrom fresh cs with
  | case1 => exact fun _ hc => nomatch hc
  | case2 fresh d cs hd ih =>
      refine List.forall_mem_cons.mpr ⟨?_, ih⟩
      cases fresh
      · exact hd
      · exact isAlphanum_toUpper hd
  | case3 _ _ _ _ ih => exact ih

/-- A folded name begins with a capital, if it begins with a letter. -/
theorem isDigit_or_isUpper_of_head?_foldFrom
    (cs : List Char) :
    ∀ c ∈ (foldFrom true cs).head?, c.isDigit = true ∨ c.isUpper = true := by
  induction cs with
  | nil => exact fun _ hc => nomatch hc
  | cons d cs ih =>
      rw [foldFrom]
      split
      · next hd =>
          intro c hc
          cases hc
          rw [Char.isAlphanum, Bool.or_eq_true] at hd
          rcases hd with hd | hd
          · exact .inr (isUpper_toUpper_of_isAlpha hd)
          · exact .inl ((toUpper_of_isDigit hd).symm ▸ hd)
      · exact ih

end Folding

section Identifiers

/-- Whether a folded name has no letter in front. -/
def LacksLetter (body : List Char) : Prop := body.head?.all Char.isDigit = true

instance (body : List Char) : Decidable (LacksLetter body) :=
  inferInstanceAs (Decidable (_ = true))

/-- Two names that are folded to the same, up to a letter that is put in front. -/
def FoldAlike (name other : String) : Prop :=
  fold name = fold other ∨
    (LacksLetter (fold name) ∧ fold other = 'R' :: fold name) ∨
    (LacksLetter (fold other) ∧ fold name = 'R' :: fold other)

/-- A letter, followed by letters and digits. -/
def IsIdentifier (name : String) : Prop :=
  ∃ c cs, name.toList = c :: cs ∧ c.isAlpha = true ∧ ∀ d ∈ cs, d.isAlphanum = true

/-- The words that the language keeps for itself, now or later. -/
def keywords : List String :=
  ["as", "async", "await", "break", "const", "continue", "crate", "dyn", "else", "enum",
    "extern", "false", "fn", "for", "if", "impl", "in", "let", "loop", "match", "mod", "move",
    "mut", "pub", "ref", "return", "self", "Self", "static", "struct", "super", "trait", "true",
    "type", "unsafe", "use", "where", "while", "abstract", "become", "box", "do", "final",
    "gen", "macro", "override", "priv", "try", "typeof", "unsized", "virtual", "yield"]

theorem toList_identifier
    (name : String) :
    (identifier name).toList =
      if LacksLetter (fold name) then 'R' :: fold name else fold name := by
  rw [identifier, camelCase_eq_fold, String.toList_ofList]
  rfl

/-- The name of a type begins with a capital and goes on with letters and digits. -/
theorem exists_toList_identifier
    (name : String) :
    ∃ c cs, (identifier name).toList = c :: cs ∧ c.isUpper = true ∧
      ∀ d ∈ cs, d.isAlphanum = true := by
  have hall := isAlphanum_of_mem_foldFrom true name.toList
  rw [toList_identifier]
  split
  · exact ⟨'R', fold name, rfl, rfl, hall⟩
  · next hletter =>
      rw [fold]
      have hhead := isDigit_or_isUpper_of_head?_foldFrom name.toList
      cases hfold : foldFrom true name.toList with
      | nil =>
          rw [LacksLetter, fold, hfold] at hletter
          exact absurd rfl hletter
      | cons c cs =>
          rw [LacksLetter, fold, hfold] at hletter
          rw [hfold] at hall hhead
          exact ⟨c, cs, rfl, (hhead c rfl).resolve_left hletter,
            fun d hd => hall d (List.mem_cons_of_mem c hd)⟩

/-- The name of a type is one as the language wants it. -/
theorem isIdentifier_identifier
    (name : String) :
    IsIdentifier (identifier name) := by
  obtain ⟨c, cs, hname, hupper, hrest⟩ := exists_toList_identifier name
  exact ⟨c, cs, hname, isAlpha_iff.mpr (.inl hupper), hrest⟩

/-- Only one keyword begins with a capital. -/
theorem eq_self_of_mem_keywords
    (name : String)
    (h : identifier name ∈ keywords) :
    identifier name = "Self" := by
  have honly : ∀ word ∈ keywords, word.toList.head?.all Char.isUpper = true → word = "Self" := by
    decide +kernel
  obtain ⟨c, cs, hname, hupper, -⟩ := exists_toList_identifier name
  refine honly _ h ?_
  rw [hname]
  exact hupper

/-- **Shared names.**  Two rules share the name of a type exactly if their names are folded to
the same, up to the letter that is put in front. -/
theorem identifier_eq_iff
    {name other : String} :
    identifier name = identifier other ↔ FoldAlike name other := by
  have hletter (body : List Char) : ¬ LacksLetter ('R' :: body) := by
    intro h
    cases h
  rw [← String.toList_inj, toList_identifier, toList_identifier, FoldAlike]
  split
  · next hname =>
      split
      · next hother =>
          rw [List.cons_inj_right]
          constructor
          · exact .inl
          · rintro (h | ⟨-, h⟩ | ⟨-, h⟩)
            · exact h
            · exact absurd (h ▸ hother) (hletter _)
            · exact absurd (h ▸ hname) (hletter _)
      · next hother =>
          constructor
          · exact fun h => .inr (.inl ⟨hname, h.symm⟩)
          · rintro (h | ⟨-, h⟩ | ⟨h, -⟩)
            · exact absurd (h ▸ hname) hother
            · exact h.symm
            · exact absurd h hother
  · next hname =>
      split
      · next hother =>
          constructor
          · exact fun h => .inr (.inr ⟨hother, h⟩)
          · rintro (h | ⟨h, -⟩ | ⟨-, h⟩)
            · exact absurd (h ▸ hother) hname
            · exact absurd h hname
            · exact h
      · next hother =>
          constructor
          · exact .inl
          · rintro (h | ⟨h, -⟩ | ⟨h, -⟩)
            · exact h
            · exact absurd h hname
            · exact absurd h hother

end Identifiers

section Lines

/-- The name of the type that a line declares, if it declares one without fields. -/
def declared? (line : String) : Option String :=
  match line.toList.dropPrefix? "pub struct ".toList with
  | none => none
  | some rest => if rest.getLast? = some ';' then some (String.ofList rest.dropLast) else none

def declaredTypes (text : String) : List String := (Text.lines text).filterMap declared?

/-- What is declared by the lines of a text that goes on in a new line. -/
def declaredBefore (text : String) : List String :=
  ((Text.splitLineFeeds text.toList).map fun piece =>
    String.ofList (Text.dropReturn piece)).filterMap declared?

/-- A line feed ends a piece. -/
theorem splitLineFeeds_append_feed
    (cs ds : List Char) :
    Text.splitLineFeeds (cs ++ '\n' :: ds) =
      Text.splitLineFeeds cs ++ Text.splitLineFeeds ds := by
  induction cs with
  | nil => rfl
  | cons c cs ih =>
      rw [List.cons_append, Text.splitLineFeeds, Text.splitLineFeeds, ih]
      split
      · rfl
      · cases hpieces : Text.splitLineFeeds cs with
        | nil => exact absurd hpieces (Text.splitLineFeeds_ne_nil cs)
        | cons piece pieces => rfl

theorem splitLineFeeds_eq_singleton
    {cs : List Char}
    (h : '\n' ∉ cs) :
    Text.splitLineFeeds cs = [cs] := by
  induction cs with
  | nil => rfl
  | cons c cs ih =>
      rw [List.mem_cons, not_or] at h
      rw [Text.splitLineFeeds, if_neg (Ne.symm h.1), ih h.2]

/-- All pieces but the last end in a line feed. -/
theorem linesOfPieces_append
    (pieces : List (List Char))
    {more : List (List Char)}
    (hmore : more ≠ []) :
    Text.linesOfPieces (pieces ++ more) =
      pieces.map Text.dropReturn ++ Text.linesOfPieces more := by
  induction pieces with
  | nil => rfl
  | cons piece pieces ih =>
      obtain ⟨next, rest, hnext⟩ : ∃ next rest, pieces ++ more = next :: rest :=
        List.exists_cons_of_ne_nil (List.append_ne_nil_of_right_ne_nil pieces hmore)
      rw [List.cons_append, hnext, Text.linesOfPieces, ← hnext, ih]
      rfl

/-- The lines on both sides of a line feed are read apart. -/
theorem declaredTypes_append_feed
    (text more : String) :
    declaredTypes (text ++ "\n" ++ more) = declaredBefore text ++ declaredTypes more := by
  have hchars : (text ++ "\n" ++ more).toList = text.toList ++ '\n' :: more.toList := by
    rw [String.toList_append, String.toList_append, List.append_assoc]
    rfl
  rw [declaredTypes, declaredTypes, declaredBefore, Text.lines, Text.lines, hchars,
    splitLineFeeds_append_feed, linesOfPieces_append _ (Text.splitLineFeeds_ne_nil _),
    List.map_append, List.filterMap_append, List.map_map]
  rfl

theorem toList_dropPrefix?_eq_some_iff
    {line rest : List Char} :
    line.dropPrefix? "pub struct ".toList = some rest ↔ line = "pub struct ".toList ++ rest := by
  rw [List.dropPrefix?_eq_some_iff]
  constructor
  · rintro ⟨head, rfl, hhead⟩
    rw [eq_of_beq hhead]
  · rintro rfl
    exact ⟨_, rfl, beq_self_eq_true _⟩

theorem declared?_eq_none
    {line : String}
    (h : line.toList.head? ≠ some 'p') :
    declared? line = none := by
  have hnone : line.toList.dropPrefix? "pub struct ".toList = none := by
    rw [Option.eq_none_iff_forall_ne_some]
    intro rest hrest
    rw [toList_dropPrefix?_eq_some_iff] at hrest
    rw [hrest] at h
    exact h rfl
  rw [declared?, hnone]

/-- The line of a type declares it. -/
theorem declared?_struct
    (name : String) :
    declared? ("pub struct " ++ name ++ ";") = some name := by
  have hrest : ("pub struct " ++ name ++ ";").toList.dropPrefix? "pub struct ".toList =
      some (name.toList ++ [';']) := by
    rw [toList_dropPrefix?_eq_some_iff, String.toList_append, String.toList_append,
      List.append_assoc]
    rfl
  rw [declared?, hrest]
  dsimp only
  rw [List.getLast?_concat, if_pos rfl, List.dropLast_concat, String.ofList_toList]

/-- A comment of one line declares nothing. -/
theorem declaredBefore_comment
    {text : String}
    (hline : '\n' ∉ text.toList)
    (hcomment : text.toList.head? ≠ some 'p') :
    declaredBefore text = [] := by
  have hhead : (Text.dropReturn text.toList).head? ≠ some 'p' := by
    unfold Text.dropReturn
    split
    · rw [List.head?_dropLast]
      split
      · exact hcomment
      · exact nofun
    · exact hcomment
  have hnone : declared? (String.ofList (Text.dropReturn text.toList)) = none :=
    declared?_eq_none (by rwa [String.toList_ofList])
  rw [declaredBefore, splitLineFeeds_eq_singleton hline, List.map_singleton,
    List.filterMap_cons_none hnone, List.filterMap_nil]

theorem notMem_around
    {c : Char}
    {opening text closing : String}
    (hopening : c ∉ opening.toList)
    (htext : c ∉ text.toList)
    (hclosing : c ∉ closing.toList) :
    c ∉ (opening ++ text ++ closing).toList := by
  rw [String.toList_append, String.toList_append, List.mem_append, List.mem_append]
  exact not_or.mpr ⟨not_or.mpr ⟨hopening, htext⟩, hclosing⟩

/-- Neither does a comment around a text of one line. -/
theorem declaredBefore_around
    {opening text closing : String}
    (hcomment : opening.toList.head? = some '/')
    (hopening : '\n' ∉ opening.toList)
    (htext : '\n' ∉ text.toList)
    (hclosing : '\n' ∉ closing.toList) :
    declaredBefore (opening ++ text ++ closing) = [] := by
  refine declaredBefore_comment (notMem_around hopening htext hclosing) ?_
  obtain ⟨cs, hcs⟩ := List.head?_eq_some_iff.mp hcomment
  rw [String.toList_append, String.toList_append, hcs]
  exact nofun

/-- The name of a type holds letters and digits only. -/
theorem notMem_identifier
    {c : Char}
    (hc : c.isAlphanum = false)
    (name : String) :
    c ∉ (identifier name).toList := by
  intro hmem
  obtain ⟨d, cs, hname, hupper, hrest⟩ := exists_toList_identifier name
  rw [hname] at hmem
  rcases List.mem_cons.mp hmem with rfl | hmem
  · rw [Char.isAlphanum, isAlpha_iff.mpr (.inl hupper)] at hc
    cases hc
  · rw [hrest c hmem] at hc
    cases hc

/-- The last line of a declaration declares the type of the rule. -/
theorem declaredBefore_struct
    (name : String) :
    declaredBefore ("pub struct " ++ identifier name ++ ";") = [identifier name] := by
  have hline : '\n' ∉ ("pub struct " ++ identifier name ++ ";").toList :=
    notMem_around (by decide) (notMem_identifier (by decide) name) (by decide)
  have hend : Text.dropReturn ("pub struct " ++ identifier name ++ ";").toList =
      ("pub struct " ++ identifier name ++ ";").toList := by
    have hsemicolon : ";".toList = [';'] := by decide
    rw [Text.dropReturn, if_neg]
    rw [String.toList_append, hsemicolon, List.getLast?_concat]
    decide
  rw [declaredBefore, splitLineFeeds_eq_singleton hline, List.map_singleton, hend,
    String.ofList_toList, List.filterMap_cons_some (declared?_struct _), List.filterMap_nil]

/-- What is declared within the documentation of a rule. -/
def declaredInComment (rule : Rule) : List String :=
  declaredBefore ("/// \x60" ++ documentation rule ++ "\x60")

/-- The lines of a declaration. -/
theorem declaration_append_eq
    (rule : Rule)
    (more : String) :
    declaration rule ++ more =
      "" ++ "\n" ++ ("/// \x60" ++ documentation rule ++ "\x60" ++ "\n" ++
        ("#[derive(Debug, Clone, Default, PartialEq, Eq)]" ++ "\n" ++
          ("pub struct " ++ identifier rule.name ++ ";" ++ "\n" ++ more))) := by
  have hfirst : "\n/// \x60" = "" ++ "\n" ++ "/// \x60" := by decide +kernel
  have hsecond : "\x60\n" = "\x60" ++ "\n" := by decide +kernel
  have hthird : "#[derive(Debug, Clone, Default, PartialEq, Eq)]\n" =
      "#[derive(Debug, Clone, Default, PartialEq, Eq)]" ++ "\n" := by decide +kernel
  have hfourth : ";\n" = ";" ++ "\n" := by decide +kernel
  rw [declaration, hfirst, hsecond, hthird, hfourth]
  simp only [String.append_assoc]

/-- A declaration declares the type of its rule, behind whatever stands in the documentation. -/
theorem declaredTypes_declaration_append
    (rule : Rule)
    (more : String) :
    declaredTypes (declaration rule ++ more) =
      declaredInComment rule ++ identifier rule.name :: declaredTypes more := by
  have hempty : declaredBefore "" = [] :=
    declaredBefore_comment (by decide +kernel) (by decide +kernel)
  have hderive : declaredBefore "#[derive(Debug, Clone, Default, PartialEq, Eq)]" = [] :=
    declaredBefore_comment (by decide +kernel) (by decide +kernel)
  rw [declaration_append_eq, declaredTypes_append_feed, declaredTypes_append_feed,
    declaredTypes_append_feed, declaredTypes_append_feed, hempty, hderive, declaredBefore_struct]
  rfl

/-- The notation of one line is a comment. -/
theorem declaredInComment_of_oneLine
    {rule : Rule}
    (h : '\n' ∉ rule.display.toList) :
    declaredInComment rule = [] := by
  have hnotation : '\n' ∉ (documentation rule).toList := by
    rw [documentation, String.toList_map, List.mem_map]
    rintro ⟨c, hc, hfeed⟩
    split at hfeed
    · cases hfeed
    · exact h (hfeed ▸ hc)
  exact declaredBefore_around (by decide) (by decide) hnotation (by decide)

/-- The declarations of rules declare one type for each of them, in order. -/
theorem declaredTypes_join
    (rules : List Rule) :
    declaredTypes (String.join (rules.map declaration)) =
      rules.flatMap fun rule => declaredInComment rule ++ [identifier rule.name] := by
  induction rules with
  | nil => rfl
  | cons rule rules ih =>
      rw [List.map_cons, String.join_cons, declaredTypes_declaration_append, ih,
        List.flatMap_cons, List.append_assoc]
      rfl

end Lines
end Listing

namespace Grammar

open Listing

variable (g : Grammar)

/-- What is declared within the first line, which tells the root. -/
def declaredInHead : List String :=
  declaredBefore ("//! Placeholder types for the grammar rooted at \x60" ++ g.root ++ "\x60.")

theorem declaredTypes_head_append
    (more : String) :
    declaredTypes
        ("//! Placeholder types for the grammar rooted at \x60" ++ g.root ++ "\x60.\n" ++ more) =
      g.declaredInHead ++ declaredTypes more := by
  have hend : "\x60.\n" = "\x60." ++ "\n" := by decide +kernel
  rw [hend, ← String.append_assoc, declaredTypes_append_feed, declaredInHead]

/-- What a listing declares: a type for each rule, and what stands in comments. -/
theorem declaredTypes_typeListing :
    declaredTypes g.typeListing =
      g.declaredInHead ++ g.rules.values.flatMap fun rule =>
        declaredInComment rule ++ [identifier rule.name] := by
  unfold typeListing
  rw [declaredTypes_head_append, declaredTypes_join]

/-- A root whose name is on one line declares nothing. -/
theorem declaredInHead_of_oneLine
    (h : '\n' ∉ g.root.toList) :
    g.declaredInHead = [] :=
  declaredBefore_around (by decide +kernel) (by decide +kernel) h (by decide +kernel)

/-- The types of the rules are declared in order, with whatever the documentation declares in
between. -/
theorem sublist_flatMap_declaredInComment
    (rules : List Rule) :
    (rules.map fun rule => identifier rule.name).Sublist
      (rules.flatMap fun rule => declaredInComment rule ++ [identifier rule.name]) := by
  induction rules with
  | nil => exact .slnil
  | cons rule rules ih =>
      rw [List.map_cons, List.flatMap_cons, List.append_assoc]
      exact (ih.cons_cons (identifier rule.name)).trans (List.sublist_append_right _ _)

/-- Where keys are names, no two rules have the same name. -/
theorem pairwise_name_ne
    {g : Grammar}
    (hkeys : ∀ entry ∈ g.rules.entries, entry.1 = entry.2.name) :
    g.rules.values.Pairwise fun rule other => rule.name ≠ other.name := by
  have hnames : g.rules.values.map Rule.name = g.rules.entries.map Prod.fst := by
    rw [Table.values, List.map_map]
    exact List.map_congr_left fun entry hmem => (hkeys entry hmem).symm
  have hnodup := g.rules.nodup_keys
  rw [← hnames] at hnodup
  exact List.pairwise_map.mp hnodup

/-- **Declared types.**  The lines of a listing declare one type for each rule, in the order of
the rules, and nothing else if the root and the rules are told in one line each.  Every type has
a name as the language wants it, `Self` being the only keyword that it can be, and two rules
share one exactly if their names are folded alike. -/
theorem typeListing_declares
    (hkeys : ∀ entry ∈ g.rules.entries, entry.1 = entry.2.name) :
    (g.rules.values.map fun rule => identifier rule.name).Sublist
        (declaredTypes g.typeListing) ∧
      ('\n' ∉ g.root.toList → (∀ rule ∈ g.rules.values, '\n' ∉ rule.display.toList) →
        declaredTypes g.typeListing = g.rules.values.map fun rule => identifier rule.name) ∧
      (∀ rule ∈ g.rules.values,
        IsIdentifier (identifier rule.name) ∧
          (identifier rule.name ∈ keywords → identifier rule.name = "Self")) ∧
      g.rules.values.Pairwise fun rule other =>
        rule.name ≠ other.name ∧
          (identifier rule.name = identifier other.name ↔ FoldAlike rule.name other.name) := by
  refine ⟨?_, ?_, ?_, ?_⟩
  · rw [declaredTypes_typeListing]
    refine (sublist_flatMap_declaredInComment g.rules.values).trans (List.sublist_append_right _ _)
  · intro hroot hrules
    have hflat : (g.rules.values.flatMap fun rule =>
        declaredInComment rule ++ [identifier rule.name]) =
          g.rules.values.flatMap fun rule => [identifier rule.name] :=
      List.flatMap_congr fun rule hmem => by
        rw [declaredInComment_of_oneLine (hrules rule hmem), List.nil_append]
    rw [declaredTypes_typeListing, declaredInHead_of_oneLine g hroot, List.nil_append, hflat]
    exact List.flatMap_pure_eq_map _ _
  · exact fun rule _ => ⟨isIdentifier_identifier rule.name, eq_self_of_mem_keywords rule.name⟩
  · exact (pairwise_name_ne hkeys).imp fun hne => ⟨hne, identifier_eq_iff⟩

def fieldGrammar : Grammar :=
  .ofRules "Document"
    [⟨"Document", .list (.nonTerminal "field_definition")⟩,
      ⟨"field_definition", .sequence [.nonTerminal "2d", .optional (.terminal "Name" none)]⟩,
      ⟨"2d", .nonTerminal "Document"⟩]

theorem typeListing_declares_fields :
    (∀ entry ∈ fieldGrammar.rules.entries, entry.1 = entry.2.name) ∧
      '\n' ∉ fieldGrammar.root.toList ∧
      (∀ rule ∈ fieldGrammar.rules.values, '\n' ∉ rule.display.toList) ∧
      declaredTypes fieldGrammar.typeListing = ["Document", "FieldDefinition", "R2d"] := by
  have hkeys : ∀ entry ∈ fieldGrammar.rules.entries, entry.1 = entry.2.name := by decide +kernel
  have hroot : '\n' ∉ fieldGrammar.root.toList := by decide +kernel
  have hrules : ∀ rule ∈ fieldGrammar.rules.values, '\n' ∉ rule.display.toList := by
    decide +kernel
  refine ⟨hkeys, hroot, hrules, ?_⟩
  rw [(typeListing_declares fieldGrammar hkeys).2.1 hroot hrules]
  decide +kernel

/-- Two rules whose names are folded to the same, one that is folded to a keyword, and one whose
name runs over several lines. -/
def clashingGrammar : Grammar :=
  .ofRules "field_definition"
    [⟨"field_definition", .nonTerminal "FieldDefinition"⟩,
      ⟨"FieldDefinition", .nonTerminal "self"⟩,
      ⟨"self", .nonTerminal "self"⟩,
      ⟨"page\npub struct Extra;\n", .nonTerminal "self"⟩]

/-- Rules can share a type, a type can have a keyword for its name, and there can be types that
belong to no rule. -/
theorem typeListing_clashing :
    (∀ entry ∈ clashingGrammar.rules.entries, entry.1 = entry.2.name) ∧
      declaredTypes clashingGrammar.typeListing =
        ["FieldDefinition", "FieldDefinition", "Self", "Extra", "PagePubStructExtra"] ∧
      clashingGrammar.rules.size = 4 ∧
      "Self" ∈ keywords := by
  have hroot : '\n' ∉ clashingGrammar.root.toList := by decide +kernel
  rw [declaredTypes_typeListing, declaredInHead_of_oneLine _ hroot]
  decide +kernel

end Grammar

end SchemaGrammar
