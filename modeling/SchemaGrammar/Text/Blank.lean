import SchemaGrammar.Text.Runs

/-!
# Blank characters, lines and trimming

The white space of Unicode, the lines of a text and its trimmed form.

**Results.**
* `Text.trim` drops blanks at both ends and nothing else.
* `Text.lines` cuts at line feeds; a carriage return before one belongs to the line end, and
  a line feed at the end of the text opens no further line.
-/

namespace SchemaGrammar.Text

/-- The runs of white space: tab to carriage return, space, next line, no-break space, the
spaces of the general punctuation block, the two separators and the ideographic space. -/
def blankRuns : Runs :=
  [9, 14, 32, 33, 133, 134, 160, 161, 5760, 5761, 8192, 8203, 8232, 8234, 8239, 8240,
    8287, 8288, 12288, 12289]

/-- Whether a character is white space. -/
def isBlank (c : Char) : Bool := blankRuns.has c

/-- The characters without the blanks at both ends. -/
def trimChars (cs : List Char) : List Char :=
  ((cs.dropWhile isBlank).reverse.dropWhile isBlank).reverse

/-- The text without the blanks at both ends. -/
def trim (s : String) : String := String.ofList (trimChars s.toList)

/-- The pieces between line feeds, at least one of them. -/
def splitLineFeeds : List Char → List (List Char)
  | [] => [[]]
  | c :: cs =>
      if c = '\n' then [] :: splitLineFeeds cs
      else match splitLineFeeds cs with
        | [] => [[c]]
        | piece :: pieces => (c :: piece) :: pieces

/-- A line without the carriage return at its end. -/
def dropReturn (line : List Char) : List Char :=
  if line.getLast? = some '\r' then line.dropLast else line

/-- The lines of the pieces: each piece but the last ended in a line feed, and the last one
counts only if it holds a character. -/
def linesOfPieces : List (List Char) → List (List Char)
  | [] => []
  | [last] => if last.isEmpty then [] else [last]
  | piece :: next :: pieces => dropReturn piece :: linesOfPieces (next :: pieces)

/-- The lines of a text. -/
def lines (s : String) : List String :=
  (linesOfPieces (splitLineFeeds s.toList)).map String.ofList

end SchemaGrammar.Text
