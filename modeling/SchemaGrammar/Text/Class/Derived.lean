import SchemaGrammar.Text.Blank
import SchemaGrammar.Text.Class.Category
import SchemaGrammar.Text.Class.Folding
import SchemaGrammar.Text.Class.Listed

/-!
# Derived properties

Properties of characters that follow from their categories, from lists of exceptions and from
the families of letters.

**Results.**
* `alphabeticRuns`, `lowercaseRuns` and `uppercaseRuns` are the letters in the widest sense,
  `identifierStartRuns` and `identifierContinueRuns` what identifiers are made of.
* `graphemeExtendRuns` and `graphemeBaseRuns` tell what joins the character before it and what
  it may join.
-/

namespace SchemaGrammar.Text

section Categories

/-- The runs of several categories. -/
def Category.runsOf (categories : List Category) : Runs :=
  Runs.unions (categories.map Category.runs)

/-- The characters that have a category. -/
def assignedRuns : Runs := Category.runsOf Category.all

/-- The characters without a category. -/
def unassignedRuns : Runs := assignedRuns.complement

/-- The letters. -/
def letterRuns : Runs :=
  Category.runsOf
    [.uppercaseLetter, .lowercaseLetter, .titlecaseLetter, .modifierLetter, .otherLetter]

/-- The marks. -/
def markRuns : Runs := Category.runsOf [.nonspacingMark, .spacingMark, .enclosingMark]

end Categories

section Letters

/-- The small letters. -/
def lowercaseRuns : Runs := lowercaseLetterRuns.union otherLowercaseRuns

/-- The capital letters. -/
def uppercaseRuns : Runs := uppercaseLetterRuns.union otherUppercaseRuns

/-- The letters that have a case. -/
def withCaseRuns : Runs := Runs.unions [lowercaseRuns, uppercaseRuns, titlecaseLetterRuns]

/-- The letters, and whatever else counts as one. -/
def alphabeticRuns : Runs :=
  Runs.unions
    [withCaseRuns, modifierLetterRuns, otherLetterRuns, letterNumberRuns, otherAlphabeticRuns]

/-- What does not count where the case of neighbours is looked at. -/
def caseIgnorableRuns : Runs :=
  Runs.unions
    [nonspacingMarkRuns, enclosingMarkRuns, formatRuns, modifierLetterRuns, modifierSymbolRuns,
      midLetterRuns, midNumberLetterRuns, [39, 40]]

/-- What words consist of: letters, marks, digits, connectors and the two controls of joining. -/
def wordRuns : Runs :=
  Runs.unions
    [alphabeticRuns, markRuns, decimalNumberRuns, connectorPunctuationRuns, joinControlRuns]

/-- The symbols and letters of mathematics. -/
def mathRuns : Runs := mathSymbolRuns.union otherMathRuns

end Letters

section CaseChanges

/-- Small letters whose capital is written with several characters, and the dotless i. -/
def expandingRuns : Runs :=
  [305, 306, 329, 330, 496, 497, 1415, 1416, 7830, 7835, 8016, 8017, 8018, 8019, 8020, 8021, 8022,
    8023, 8114, 8115, 8116, 8117, 8118, 8120, 8130, 8131, 8132, 8133, 8134, 8136, 8146, 8147,
    8150, 8152, 8162, 8163, 8164, 8165, 8166, 8168, 8178, 8179, 8180, 8181, 8182, 8184, 64256,
    64261, 64275, 64280]

/-- The small letters of Georgian, which begin no title with a capital. -/
def georgianRuns : Runs := [4304, 4347, 4349, 4352]

/-- The capital digraphs, of which a title has only the first letter as a capital. -/
def digraphRuns : Runs := [452, 453, 455, 456, 458, 459, 497, 498]

/-- The capital letters of Cherokee, in which the small ones are compared. -/
def cherokeeRuns : Runs := [5024, 5110]

/-- Letters that are no capitals and are still compared as other letters. -/
def foldedRuns : Runs :=
  [181, 182, 223, 224, 329, 330, 383, 384, 837, 838, 962, 963, 976, 978, 981, 983, 1008, 1010,
    1013, 1014, 1415, 1416, 5112, 5118, 7296, 7305, 7834, 7836, 8064, 8072, 8080, 8088, 8096,
    8104, 8114, 8117, 8119, 8120, 8130, 8133, 8135, 8136, 8178, 8181, 8183, 8184, 43888, 43968,
    64256, 64263, 64275, 64280]

/-- What changes when a text is put into small letters. -/
def changesWhenLowercasedRuns : Runs :=
  ((uppercaseRuns.union titlecaseLetterRuns).intersection casedRuns).union [304, 305]

/-- What changes when a text is put into capital letters. -/
def changesWhenUppercasedRuns : Runs :=
  ((lowercaseRuns.union titlecaseLetterRuns).intersection casedRuns).union expandingRuns

/-- What changes at the beginning of a word of a title. -/
def changesWhenTitlecasedRuns : Runs :=
  ((changesWhenUppercasedRuns.difference titlecaseLetterRuns).difference georgianRuns).union
    digraphRuns

/-- What changes when a text is compared regardless of case. -/
def changesWhenCasefoldedRuns : Runs :=
  (changesWhenLowercasedRuns.difference cherokeeRuns).union foldedRuns

/-- What changes with any change of case. -/
def changesWhenCasemappedRuns : Runs :=
  Runs.unions
    [changesWhenLowercasedRuns, changesWhenUppercasedRuns, changesWhenTitlecasedRuns]

end CaseChanges

section Graphemes

/-- What joins the character before it. -/
def graphemeExtendRuns : Runs :=
  Runs.unions [nonspacingMarkRuns, enclosingMarkRuns, otherGraphemeExtendRuns]

/-- What other characters may join. -/
def graphemeBaseRuns : Runs :=
  (Runs.unions
    [controlRuns, formatRuns, privateUseRuns, unassignedRuns, lineSeparatorRuns,
      paragraphSeparatorRuns, graphemeExtendRuns]).complement

/-- Format characters that are shown: of annotations, and of hieroglyphs. -/
def visibleFormatRuns : Runs := [65529, 65532, 78896, 78913]

/-- What has no form of its own and may be left out. -/
def defaultIgnorableRuns : Runs :=
  (Runs.unions [otherDefaultIgnorableRuns, formatRuns, variationSelectorRuns]).difference
    (Runs.unions [blankRuns, visibleFormatRuns, prependedConcatenationMarkRuns])

end Graphemes

section Identifiers

/-- The characters of patterns: their syntax and their white space. -/
def patternRuns : Runs := patternSyntaxRuns.union patternWhiteSpaceRuns

/-- What identifiers begin with. -/
def identifierStartRuns : Runs :=
  (Runs.unions [letterRuns, letterNumberRuns, otherIdentifierStartRuns]).difference patternRuns

/-- What identifiers consist of. -/
def identifierContinueRuns : Runs :=
  (Runs.unions
    [identifierStartRuns, nonspacingMarkRuns, spacingMarkRuns, decimalNumberRuns,
      connectorPunctuationRuns, otherIdentifierContinueRuns]).difference patternRuns

/-- What begins no identifier any more when compatible forms are replaced. -/
def unstableStartRuns : Runs :=
  [890, 891, 3635, 3636, 3763, 3764, 12443, 12445, 64606, 64612, 65018, 65020, 65136, 65137,
    65138, 65139, 65140, 65141, 65142, 65143, 65144, 65145, 65146, 65147, 65148, 65149, 65150,
    65151, 65438, 65440]

/-- What stands in no identifier any more when compatible forms are replaced. -/
def unstableContinueRuns : Runs :=
  [890, 891, 12443, 12445, 64606, 64612, 65018, 65020, 65136, 65137, 65138, 65139, 65140, 65141,
    65142, 65143, 65144, 65145, 65146, 65147, 65148, 65149, 65150, 65151]

/-- What identifiers begin with, before and after compatible forms are replaced. -/
def stableIdentifierStartRuns : Runs := identifierStartRuns.difference unstableStartRuns

/-- What identifiers consist of, before and after compatible forms are replaced. -/
def stableIdentifierContinueRuns : Runs := identifierContinueRuns.difference unstableContinueRuns

end Identifiers

end SchemaGrammar.Text
