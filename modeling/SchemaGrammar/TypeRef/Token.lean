import SchemaGrammar.Text.Name

/-!
# Tokens of a type reference

The text of a type reference is cut into brackets, exclamation marks and names.  Blanks and
commas between them mean nothing.  A name is taken as long as possible; a character that is
neither part of a token nor ignorable is kept as such, with its place.

**Results.**
* `TypeRef.scan` covers the whole text: what it does not list is ignorable.
* `TypeRef.tokenize` succeeds if every character that counts belongs to a token.
-/

namespace SchemaGrammar

/-- A range of bytes: `stop` is the first byte behind it. -/
structure Span where
  start : Nat
  stop : Nat
  deriving DecidableEq, Inhabited

def Span.display (s : Span) : String := toString s.start ++ ".." ++ toString s.stop

namespace TypeRef

/-- The kinds of tokens. -/
inductive TokenKind
  | openList
  | closeList
  | bang
  | name
  deriving DecidableEq, Inhabited

/-- A kind of token in words. -/
def TokenKind.describe : TokenKind → String
  | openList => "'['"
  | closeList => "']'"
  | bang => "'!'"
  | name => "type name"

/-- A token, its text and its place. -/
structure Token where
  kind : TokenKind
  text : List Char
  span : Span
  deriving DecidableEq, Inhabited

/-- What the scan finds: a token, or the place of a character that belongs nowhere. -/
inductive Lexeme
  | token (t : Token)
  | stray (place : Span)
  deriving DecidableEq, Inhabited

/-- Whether a character may stand anywhere between tokens. -/
def isIgnorable (c : Char) : Bool :=
  c == ' ' || c == '\t' || c == '\r' || c == '\n' || c == '\x0c' || c == ','

/-- The number of bytes of a text. -/
def byteLength : List Char → Nat
  | [] => 0
  | c :: cs => c.utf8Size + byteLength cs

/-- The token of one character. -/
def punctuation? (c : Char) : Option TokenKind :=
  if c = '[' then some .openList
  else if c = ']' then some .closeList
  else if c = '!' then some .bang
  else none

/-- The lexemes of a text that begins at byte `start`. -/
def scan (start : Nat) : List Char → List Lexeme
  | [] => []
  | c :: cs =>
      if isIgnorable c then scan (start + c.utf8Size) cs
      else if Text.startsName c then
        let word := c :: cs.takeWhile Text.continuesName
        let stop := start + byteLength word
        .token ⟨.name, word, ⟨start, stop⟩⟩ :: scan stop (cs.dropWhile Text.continuesName)
      else
        let stop := start + c.utf8Size
        let lexeme : Lexeme := match punctuation? c with
          | some kind => .token ⟨kind, [c], ⟨start, stop⟩⟩
          | none => .stray ⟨start, stop⟩
        lexeme :: scan stop cs
termination_by cs => cs.length
decreasing_by
  · simp
  · have := (List.dropWhile_suffix (l := cs) Text.continuesName).length_le
    simp only [List.length_cons]
    omega
  · simp

/-- The tokens among lexemes, if there are no others, else the first other one's place. -/
def collect : List Lexeme → Except Span (List Token)
  | [] => .ok []
  | .stray place :: _ => .error place
  | .token t :: rest => (collect rest).map (t :: ·)

/-- The tokens of a text, or the place of the first character that belongs nowhere. -/
def tokenize (source : String) : Except Span (List Token) := collect (scan 0 source.toList)

end TypeRef

end SchemaGrammar
