/-!
# Names

A name starts with a letter of the ASCII alphabet or an underscore and goes on with letters,
digits and underscores.  Everything else is no name, letters of other scripts included.

**Results.**
* `Text.isName` decides whether a text is a name; `Text.exists_of_isName`: its characters.
-/

namespace SchemaGrammar.Text

/-- Whether a character may start a name. -/
def startsName (c : Char) : Bool := c == '_' || c.isAlpha

/-- Whether a character may go on with a name. -/
def continuesName (c : Char) : Bool := c == '_' || c.isAlphanum

theorem continuesName_of_startsName
    {c : Char}
    (h : startsName c = true) :
    continuesName c = true := by
  simp only [startsName, continuesName, Char.isAlphanum, Bool.or_eq_true] at h ⊢
  rcases h with h | h
  · exact .inl h
  · exact .inr (.inl h)

/-- Whether a text is a name. -/
def isName (text : String) : Bool :=
  match text.toList with
  | [] => false
  | c :: cs => startsName c && cs.all continuesName

theorem exists_of_isName
    {text : String}
    (h : isName text = true) :
    ∃ c cs, text.toList = c :: cs ∧ startsName c = true ∧ ∀ d ∈ cs, continuesName d = true := by
  unfold isName at h
  split at h
  · cases h
  · next c cs hchars =>
      obtain ⟨hstart, hrest⟩ := (Bool.and_eq_true _ _).mp h
      exact ⟨c, cs, hchars, hstart, List.all_eq_true.mp hrest⟩

end SchemaGrammar.Text
