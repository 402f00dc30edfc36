import SchemaGrammar.Text.Class.Category
import SchemaGrammar.Text.Class.Listed

/-!
# Characters that extend a grapheme

Marks that join the character before them.
-/

namespace SchemaGrammar.Text

/-- Whether a character joins the one before it. -/
def extendsGrapheme (c : Char) : Bool :=
  Category.nonspacingMark.has c || Category.enclosingMark.has c || otherGraphemeExtendRuns.has c

end SchemaGrammar.Text
