import SchemaGrammar.Text.Class.Category

/-!
# Characters without a printed form

The control, format, private-use and unassigned characters, and every separator but the plain
space.
-/

namespace SchemaGrammar.Text

/-- The categories of characters with a printed form: letters, marks, numbers, punctuation and
symbols. -/
def printedCategories : List Category :=
  [.uppercaseLetter, .lowercaseLetter, .titlecaseLetter, .modifierLetter, .otherLetter,
    .nonspacingMark, .spacingMark, .enclosingMark, .decimalNumber, .letterNumber, .otherNumber,
    .connectorPunctuation, .dashPunctuation, .openPunctuation, .closePunctuation,
    .initialPunctuation, .finalPunctuation, .otherPunctuation, .mathSymbol, .currencySymbol,
    .modifierSymbol, .otherSymbol]

/-- Whether a character has no printed form of its own. -/
def isUnprintable (c : Char) : Bool := c != ' ' && !printedCategories.any (·.has c)

example : isUnprintable '\x07' ∧ isUnprintable '\u00a0' ∧ ¬ isUnprintable ' ' ∧
    ¬ isUnprintable 'a' := by
  decide +kernel

end SchemaGrammar.Text
