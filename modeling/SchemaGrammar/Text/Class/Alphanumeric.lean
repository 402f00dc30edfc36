import SchemaGrammar.Text.Class.Category
import SchemaGrammar.Text.Class.Listed

/-!
# Letters and numbers

The characters that count as letters in any script, and those of the number categories.
-/

namespace SchemaGrammar.Text

/-- The categories of letters. -/
def letterCategories : List Category :=
  [.uppercaseLetter, .lowercaseLetter, .titlecaseLetter, .modifierLetter, .otherLetter,
    .letterNumber]

/-- Whether a character counts as a letter in any script. -/
def isAlphabetic (c : Char) : Bool :=
  letterCategories.any (·.has c) ||
    [otherAlphabeticRuns, otherLowercaseRuns, otherUppercaseRuns].any (·.has c)

/-- Whether a character is a letter or a number in any script. -/
def isAlphanumeric (c : Char) : Bool :=
  isAlphabetic c || [Category.decimalNumber, Category.otherNumber].any (·.has c)

example : isAlphanumeric 'a' ∧ isAlphanumeric '7' ∧ isAlphanumeric '\u00e9' ∧
    isAlphanumeric '\u8a9e' := by
  decide +kernel

example : ¬ isAlphanumeric '_' ∧ ¬ isAlphanumeric '\x7b' ∧ ¬ isAlphanumeric '\u2192' := by
  decide +kernel

end SchemaGrammar.Text
