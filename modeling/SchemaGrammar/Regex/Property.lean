import SchemaGrammar.Regex.CharClass
import SchemaGrammar.Text.Class.Age
import SchemaGrammar.Text.Class.Break
import SchemaGrammar.Text.Class.ScriptExtension

/-!
# Properties of characters by name

Classes of Unicode are asked for by the names of categories, scripts and properties.  Case,
spaces, hyphens and underscores in a name do not count, and neither does a leading "is".

**Results.**
* `CharClass.named?` gives the class of a name, `CharClass.valued?` that of a property and a
  value.
-/

namespace SchemaGrammar.CharClass

section Names

/-- A name without what does not count.  The name "isc" keeps its beginning. -/
def looseName (name : List Char) : String :=
  let marked := (name.take 2).map Char.toLower == ['i', 's']
  let rest := if marked then name.drop 2 else name
  let kept := (rest.filter fun c => !(c == ' ' || c == '_' || c == '-') && c ≤ '\x7f').map
    Char.toLower
  String.ofList (if marked && kept == ['c'] then ['i', 's', 'c'] else kept)

/-- The full names of the categories. -/
def categoryNames : Text.Category → List String
  | .uppercaseLetter => ["uppercaseletter"]
  | .lowercaseLetter => ["lowercaseletter"]
  | .titlecaseLetter => ["titlecaseletter"]
  | .modifierLetter => ["modifierletter"]
  | .otherLetter => ["otherletter"]
  | .nonspacingMark => ["nonspacingmark"]
  | .spacingMark => ["spacingmark"]
  | .enclosingMark => ["enclosingmark"]
  | .decimalNumber => ["decimalnumber", "digit"]
  | .letterNumber => ["letternumber"]
  | .otherNumber => ["othernumber"]
  | .connectorPunctuation => ["connectorpunctuation"]
  | .dashPunctuation => ["dashpunctuation"]
  | .openPunctuation => ["openpunctuation"]
  | .closePunctuation => ["closepunctuation"]
  | .initialPunctuation => ["initialpunctuation"]
  | .finalPunctuation => ["finalpunctuation"]
  | .otherPunctuation => ["otherpunctuation"]
  | .mathSymbol => ["mathsymbol"]
  | .currencySymbol => ["currencysymbol"]
  | .modifierSymbol => ["modifiersymbol"]
  | .otherSymbol => ["othersymbol"]
  | .spaceSeparator => ["spaceseparator"]
  | .lineSeparator => ["lineseparator"]
  | .paragraphSeparator => ["paragraphseparator"]
  | .control => ["control", "cntrl"]
  | .format => ["format"]
  | .privateUse => ["privateuse"]

/-- The names of groups of categories, and the letters that their abbreviations begin with. -/
def groupNames : List (List String × Char) :=
  [(["l", "letter"], 'L'), (["m", "mark", "combiningmark"], 'M'), (["n", "number"], 'N'),
    (["p", "punctuation", "punct"], 'P'), (["s", "symbol"], 'S'), (["z", "separator"], 'Z')]

end Names

section Tables

/-- The properties that a character has or has not: their names and the runs of those that
have them. -/
def properties : List (List String × Runs) :=
  [
    (["alpha", "alphabetic"], Text.alphabeticRuns),
    (["lower", "lowercase"], Text.lowercaseRuns),
    (["upper", "uppercase"], Text.uppercaseRuns),
    (["cased"], Text.withCaseRuns),
    (["ci", "caseignorable"], Text.caseIgnorableRuns),
    (["cwl", "changeswhenlowercased"], Text.changesWhenLowercasedRuns),
    (["cwu", "changeswhenuppercased"], Text.changesWhenUppercasedRuns),
    (["cwt", "changeswhentitlecased"], Text.changesWhenTitlecasedRuns),
    (["cwcf", "changeswhencasefolded"], Text.changesWhenCasefoldedRuns),
    (["cwcm", "changeswhencasemapped"], Text.changesWhenCasemappedRuns),
    (["softdotted", "sd"], Text.softDottedRuns),
    (["dia", "diacritic"], Text.diacriticRuns),
    (["ext", "extender"], Text.extenderRuns),
    (["mcm", "modifiercombiningmark"], Text.modifierCombiningMarkRuns),
    (["loe", "logicalorderexception"], Text.logicalOrderExceptionRuns),
    (["dep", "deprecated"], Text.deprecatedRuns),
    (["oalpha", "otheralphabetic"], Text.otherAlphabeticRuns),
    (["olower", "otherlowercase"], Text.otherLowercaseRuns),
    (["oupper", "otheruppercase"], Text.otherUppercaseRuns),
    (["math"], Text.mathRuns),
    (["omath", "othermath"], Text.otherMathRuns),
    (["grbase", "graphemebase"], Text.graphemeBaseRuns),
    (["grext", "graphemeextend"], Text.graphemeExtendRuns),
    (["ogrext", "othergraphemeextend"], Text.otherGraphemeExtendRuns),
    (["grlink", "graphemelink"], Text.graphemeLinkRuns),
    (["di", "defaultignorablecodepoint"], Text.defaultIgnorableRuns),
    (["odi", "otherdefaultignorablecodepoint"], Text.otherDefaultIgnorableRuns),
    (["ids", "idstart"], Text.identifierStartRuns),
    (["idc", "idcontinue"], Text.identifierContinueRuns),
    (["xids", "xidstart"], Text.stableIdentifierStartRuns),
    (["xidc", "xidcontinue"], Text.stableIdentifierContinueRuns),
    (["oids", "otheridstart"], Text.otherIdentifierStartRuns),
    (["oidc", "otheridcontinue"], Text.otherIdentifierContinueRuns),
    (["idcompatmathstart"], Text.compatMathStartRuns),
    (["idcompatmathcontinue"], Text.compatMathContinueRuns),
    (["patsyn", "patternsyntax"], Text.patternSyntaxRuns),
    (["patws", "patternwhitespace"], Text.patternWhiteSpaceRuns),
    (["space", "whitespace", "wspace"], Text.blankRuns),
    (["dash"], Text.dashRuns),
    (["hyphen"], Text.hyphenRuns),
    (["qmark", "quotationmark"], Text.quotationMarkRuns),
    (["sterm", "sentenceterminal"], Text.sentenceTerminalRuns),
    (["term", "terminalpunctuation"], Text.terminalPunctuationRuns),
    (["ahex", "asciihexdigit"], Text.asciiHexDigitRuns),
    (["hex", "hexdigit"], Text.hexDigitRuns),
    (["bidic", "bidicontrol"], Text.bidiControlRuns),
    (["bidim", "bidimirrored"], Text.bidiMirroredRuns),
    (["joinc", "joincontrol"], Text.joinControlRuns),
    (["pcm", "prependedconcatenationmark"], Text.prependedConcatenationMarkRuns),
    (["vs", "variationselector"], Text.variationSelectorRuns),
    (["ri", "regionalindicator"], Text.regionalIndicatorRuns),
    (["nchar", "noncharactercodepoint"], Text.noncharacterRuns),
    (["ideo", "ideographic"], Text.ideographicRuns),
    (["uideo", "unifiedideograph"], Text.unifiedIdeographRuns),
    (["radical"], Text.radicalRuns),
    (["idsu", "idsunaryoperator"], Text.descriptionUnaryRuns),
    (["idsb", "idsbinaryoperator"], Text.descriptionBinaryRuns),
    (["idst", "idstrinaryoperator"], Text.descriptionTrinaryRuns),
    (["emoji"], Text.emojiRuns),
    (["ecomp", "emojicomponent"], Text.emojiComponentRuns),
    (["emod", "emojimodifier"], Text.emojiModifierRuns),
    (["ebase", "emojimodifierbase"], Text.emojiModifierBaseRuns),
    (["epres", "emojipresentation"], Text.emojiPresentationRuns),
    (["extpict", "extendedpictographic"], Text.extendedPictographicRuns)
  ]

/-- The class in a table that has a name. -/
def find? (table : List (List String × Runs)) (name : String) : Option CharClass :=
  (table.find? fun entry => entry.1.contains name).map fun entry => ⟨entry.2⟩

end Tables

section Classes

/-- The characters of some categories. -/
def ofCategories (categories : List Text.Category) : CharClass :=
  ⟨Text.Category.runsOf categories⟩

/-- The class of a group of categories. -/
def group (letter : Char) : CharClass :=
  ofCategories (Text.Category.all.filter fun c => c.abbreviation.toList.head? == some letter)

/-- The class of the category or of the group with a name. -/
def category? (name : String) : Option CharClass :=
  let single := Text.Category.all.find? fun c =>
    (c.abbreviation.map Char.toLower) == name || (categoryNames c).contains name
  match single with
  | some category => some (ofCategories [category])
  | .none =>
      match groupNames.find? fun g => g.1.contains name with
      | some g => some (group g.2)
      | .none =>
          if name = "any" then some everything
          else if name = "ascii" then some (range '\x00' '\x7f')
          else if name = "assigned" then some ⟨Text.assignedRuns⟩
          else if name = "cn" ∨ name = "unassigned" then some ⟨Text.unassignedRuns⟩
          else if name = "c" ∨ name = "other" then
            some (union ⟨Text.unassignedRuns⟩ (ofCategories [.control, .format, .privateUse]))
          else if name = "lc" ∨ name = "casedletter" then
            some (ofCategories [.uppercaseLetter, .lowercaseLetter, .titlecaseLetter])
          else .none

/-- The class of a name: that of a property, of a category or of a script. -/
def named? (name : List Char) : Option CharClass :=
  let key := looseName name
  ((find? properties key).or (category? key)).or (find? Text.scripts key)

/-- The class of a property and a value. -/
def valued? (property value : List Char) : Option CharClass :=
  let key := looseName property
  let name := looseName value
  if key = "gc" ∨ key = "generalcategory" then category? name
  else if key = "sc" ∨ key = "script" then find? Text.scripts name
  else if key = "scx" ∨ key = "scriptextensions" then
    (Text.scriptExtension? name).map CharClass.mk
  else if key = "age" then (Text.age? name).map CharClass.mk
  else if key = "gcb" ∨ key = "graphemeclusterbreak" then find? Text.graphemeBreaks name
  else if key = "wb" ∨ key = "wordbreak" then find? Text.wordBreaks name
  else if key = "sb" ∨ key = "sentencebreak" then find? Text.sentenceBreaks name
  else .none

end Classes

end SchemaGrammar.CharClass
