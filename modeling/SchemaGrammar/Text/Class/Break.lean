import SchemaGrammar.Text.Class.Derived
import SchemaGrammar.Text.Class.Emoji
import SchemaGrammar.Text.Class.Script

/-!
# Breaks of texts

What a character is for the places between graphemes, between words and between sentences.
Every character has at most one role for each of the three.

**Results.**
* `graphemeBreaks`, `wordBreaks` and `sentenceBreaks` list the roles by name.
-/

namespace SchemaGrammar.Text

section Graphemes

/-- The syllables of Hangul with two letters: the first of every 28. -/
def openSyllableRuns : Runs :=
  Runs.ofSorted ((List.range 399).map fun i => 0xac00 + 28 * i)

/-- The syllables of Hangul with three letters. -/
def closedSyllableRuns : Runs := Runs.difference [0xac00, 0xd7a4] openSyllableRuns

/-- Letters that stand before the syllable to which they belong. -/
def prependedRuns : Runs :=
  [3406, 3407, 70082, 70084, 70609, 70610, 71999, 72000, 72001, 72002, 72250, 72251, 72324, 72330,
    73030, 73031, 73474, 73475]

/-- Spacing marks that do not join the character before them. -/
def separateMarkRuns : Runs :=
  [4139, 4141, 4152, 4153, 4194, 4197, 4199, 4206, 4227, 4228, 4231, 4237, 4239, 4240, 4250, 4253,
    6753, 6754, 6755, 6757, 43643, 43644, 43645, 43646, 71456, 71458]

/-- Spacing marks that join the character before them, and two vowels that do so. -/
def joinedMarkRuns : Runs :=
  (spacingMarkRuns.difference (graphemeExtendRuns.union separateMarkRuns)).union
    [3635, 3636, 3763, 3764]

/-- What joins the character before it, colours of skin among it. -/
def extendingRuns : Runs := graphemeExtendRuns.union emojiModifierRuns

/-- What never joins a character. -/
def separatingRuns : Runs :=
  (Runs.unions
    [lineSeparatorRuns, paragraphSeparatorRuns, controlRuns, formatRuns,
      unassignedRuns.intersection defaultIgnorableRuns]).difference
    (Runs.unions
      [[10, 11, 13, 14, 8204, 8206], prependedConcatenationMarkRuns, graphemeExtendRuns])

/-- The roles for the places between graphemes: their names and their runs. -/
def graphemeBreaks : List (List String × Runs) :=
  [
    (["cr"], [13, 14]),
    (["lf"], [10, 11]),
    (["cn", "control"], separatingRuns),
    (["ex", "extend"], extendingRuns),
    (["zwj"], [8205, 8206]),
    (["regionalindicator", "ri"], regionalIndicatorRuns),
    (["pp", "prepend"], prependedConcatenationMarkRuns.union prependedRuns),
    (["sm", "spacingmark"], joinedMarkRuns),
    (["l"], [4352, 4448, 43360, 43389]),
    (["v"], [4448, 4520, 55216, 55239, 93539, 93540, 93543, 93547]),
    (["t"], [4520, 4608, 55243, 55292]),
    (["lv"], openSyllableRuns),
    (["lvt"], closedSyllableRuns)
  ]

end Graphemes

section Words

/-- The runs of a script. -/
def scriptRuns (name : String) : Runs := (script? name).getD []

/-- What joins the character before it within a word. -/
def wordExtendRuns : Runs := extendingRuns.union spacingMarkRuns

/-- Format characters within a word. -/
def wordFormatRuns : Runs :=
  formatRuns.difference
    (Runs.unions [[8203, 8206], prependedConcatenationMarkRuns, wordExtendRuns])

/-- The letters of Hebrew. -/
def hebrewLetterRuns : Runs := (scriptRuns "hebr").intersection otherLetterRuns

/-- The letters and signs of Katakana. -/
def katakanaRuns : Runs :=
  (scriptRuns "kana").union [12337, 12342, 12443, 12445, 12448, 12449, 12540, 12541, 65392, 65393]

/-- The scripts that write words without spaces and tell them apart by a dictionary. -/
def unspacedScriptRuns : Runs :=
  Runs.unions
    (["thai", "laoo", "mymr", "khmr", "tale", "talu", "lana", "tavt", "ahom"].map scriptRuns)

/-- Signs that count as letters of a word. -/
def letterLikeRuns : Runs :=
  [706, 710, 722, 728, 734, 736, 741, 748, 749, 750, 751, 768, 1370, 1373, 1374, 1375, 1418, 1419,
    1523, 1524, 1807, 1808, 42760, 42775, 42784, 42786, 42889, 42891, 43867, 43868]

/-- Signs that count as digits of a number. -/
def digitLikeRuns : Runs :=
  [1536, 1542, 1643, 1644, 1757, 1758, 2192, 2194, 2274, 2275, 6618, 6619, 69821, 69822, 69837,
    69838]

/-- The letters of words. -/
def wordLetterRuns : Runs :=
  (alphabeticRuns.difference
    (Runs.unions
      [ideographicRuns, katakanaRuns, scriptRuns "hira", wordExtendRuns, hebrewLetterRuns,
        unspacedScriptRuns])).union letterLikeRuns

/-- The digits of numbers. -/
def wordDigitRuns : Runs := decimalNumberRuns.union digitLikeRuns

/-- The roles for the places between words: their names and their runs. -/
def wordBreaks : List (List String × Runs) :=
  [
    (["cr"], [13, 14]),
    (["lf"], [10, 11]),
    (["newline", "nl"], [11, 13, 133, 134, 8232, 8234]),
    (["extend"], wordExtendRuns),
    (["zwj"], [8205, 8206]),
    (["fo", "format"], wordFormatRuns),
    (["regionalindicator", "ri"], regionalIndicatorRuns),
    (["ka", "katakana"], katakanaRuns),
    (["hebrewletter", "hl"], hebrewLetterRuns),
    (["aletter", "le"], wordLetterRuns),
    (["singlequote", "sq"], [39, 40]),
    (["doublequote", "dq"], [34, 35]),
    (["mb", "midnumlet"], midNumberLetterRuns),
    (["midletter", "ml"], midLetterRuns),
    (["midnum", "mn"], midNumberRuns),
    (["nu", "numeric"], wordDigitRuns),
    (["ex", "extendnumlet"], connectorPunctuationRuns.union [8239, 8240]),
    (["wsegspace"], spaceSeparatorRuns.difference [160, 161, 8199, 8200, 8239, 8240])
  ]

end Words

section Sentences

/-- What joins the character before it within a sentence. -/
def sentenceExtendRuns : Runs := (wordExtendRuns.union [8205, 8206]).difference emojiModifierRuns

/-- Small letters within a sentence. -/
def sentenceLowerRuns : Runs :=
  lowercaseRuns.difference (sentenceExtendRuns.union georgianRuns)

/-- Capital letters within a sentence; the capitals of Georgian begin none. -/
def sentenceUpperRuns : Runs :=
  (titlecaseLetterRuns.union uppercaseRuns).difference [7312, 7355, 7357, 7360]

/-- The full stops. -/
def fullStopRuns : Runs := [46, 47, 8228, 8229, 65106, 65107, 65294, 65295]

/-- Punctuation after which a sentence goes on. -/
def continuingRuns : Runs :=
  [44, 46, 58, 60, 894, 895, 1373, 1374, 1548, 1550, 2040, 2041, 6146, 6147, 6152, 6153, 8211,
    8213, 12289, 12290, 65040, 65042, 65043, 65045, 65073, 65075, 65104, 65106, 65108, 65110,
    65112, 65113, 65123, 65124, 65292, 65294, 65306, 65308, 65380, 65381]

/-- Ornaments and signs that enclose a part of a sentence. -/
def ornamentalQuoteRuns : Runs :=
  [10075, 10081, 11776, 11778, 11782, 11785, 11787, 11788, 128630, 128633]

/-- What encloses a part of a sentence. -/
def enclosingRuns : Runs :=
  ((Runs.unions
    [openPunctuationRuns, closePunctuationRuns, initialPunctuationRuns, finalPunctuationRuns,
      quotationMarkRuns]).difference [65282, 65283, 65287, 65288]).union ornamentalQuoteRuns

/-- The roles for the places between sentences: their names and their runs. -/
def sentenceBreaks : List (List String × Runs) :=
  [
    (["cr"], [13, 14]),
    (["lf"], [10, 11]),
    (["se", "sep"], [133, 134, 8232, 8234]),
    (["ex", "extend"], sentenceExtendRuns),
    (["fo", "format"], wordFormatRuns.union [1807, 1808, 8203, 8204]),
    (["sp"], blankRuns.difference [10, 11, 13, 14, 133, 134, 8232, 8234]),
    (["lo", "lower"], sentenceLowerRuns),
    (["up", "upper"], sentenceUpperRuns),
    (["le", "oletter"], (alphabeticRuns.difference
      (Runs.unions [sentenceLowerRuns, sentenceUpperRuns, sentenceExtendRuns])).union [1523, 1524]),
    (["nu", "numeric"], wordDigitRuns.union [1644, 1645]),
    (["at", "aterm"], fullStopRuns),
    (["sc", "scontinue"], continuingRuns),
    (["st", "sterm"], sentenceTerminalRuns.difference fullStopRuns),
    (["cl", "close"], enclosingRuns)
  ]

end Sentences

end SchemaGrammar.Text
