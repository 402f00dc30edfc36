import SchemaGrammar.Json.Reader

/-!
# Strings and keys of TOML

A string stands between double quotes, where a backslash escapes, or between single quotes,
where nothing does; three quotes in a row open a string that may run over several lines.  A
key is bare or a string, and keys are joined by points.

**Results.**
* `Toml.readString` and `Toml.readKey` read from the first character on and give back the
  rest of the text; they give nothing where the text is no TOML.
-/

namespace SchemaGrammar.Toml

section Characters

/-- Space and tab. -/
def isSpace (c : Char) : Bool := c == ' ' || c == '\t'

def skipSpaces (cs : List Char) : List Char := cs.dropWhile isSpace

/-- Whether a character may stand in a comment or, quotes and backslashes apart, in a string:
everything but control characters, the tab excepted. -/
def isPlain (c : Char) : Bool := c == '\t' || (' ' ≤ c && c != '\x7f')

/-- Whether a character may stand in a bare key. -/
def isBare (c : Char) : Bool := c.isAlphanum || c == '_' || c == '-'

/-- Takes a line end, with or without carriage return. -/
def newline? : List Char → Option (List Char)
  | '\n' :: rest => some rest
  | '\r' :: '\n' :: rest => some rest
  | _ => none

/-- The text behind a comment, if one stands here. -/
def skipComment : List Char → List Char
  | '#' :: rest => rest.dropWhile isPlain
  | cs => cs

/-- Skips spaces, comments and line ends. -/
def skipLines : (steps : Nat) → List Char → List Char
  | 0, cs => cs
  | steps + 1, cs =>
      let rest := skipComment (skipSpaces cs)
      match newline? rest with
      | some rest => skipLines steps rest
      | none => rest

/-- Skips everything that may stand between the items of an array. -/
def skipBetween (cs : List Char) : List Char := skipLines (cs.length + 1) cs

end Characters

section Strings

/-- Reads exactly `count` hexadecimal digits. -/
def readHex : (count value : Nat) → List Char → Option (Nat × List Char)
  | 0, value, cs => some (value, cs)
  | _ + 1, _, [] => none
  | count + 1, value, c :: cs => do
      let d ← JsonText.hexDigit? c
      readHex count (value * 16 + d) cs

/-- The character with a number, if there is one. -/
def scalar? (n : Nat) : Option Char :=
  if n.isValidChar then some (Char.ofNat n) else none

/-- Reads an escape behind its backslash. -/
def readEscape : List Char → Option (Char × List Char)
  | [] => none
  | c :: cs =>
      if c = 'b' then some ('\x08', cs)
      else if c = 't' then some ('\t', cs)
      else if c = 'n' then some ('\n', cs)
      else if c = 'f' then some ('\x0c', cs)
      else if c = 'r' then some ('\r', cs)
      else if c = '"' then some ('"', cs)
      else if c = '\\' then some ('\\', cs)
      else if c = 'u' ∨ c = 'U' then do
        let (n, rest) ← readHex (if c = 'u' then 4 else 8) 0 cs
        let d ← scalar? n
        return (d, rest)
      else none

/-- Reads the rest of a string between double quotes. -/
def readBasic : (steps : Nat) → List Char → Option (List Char × List Char)
  | 0, _ => none
  | _ + 1, [] => none
  | steps + 1, c :: cs =>
      if c = '"' then some ([], cs)
      else if c = '\\' then do
        let (d, rest) ← readEscape cs
        let (text, rest) ← readBasic steps rest
        return (d :: text, rest)
      else if isPlain c then do
        let (text, rest) ← readBasic steps cs
        return (c :: text, rest)
      else none

/-- Reads the rest of a string between single quotes. -/
def readLiteral (cs : List Char) : Option (List Char × List Char) :=
  let body := cs.takeWhile fun c => isPlain c && c != '\''
  match cs.dropWhile fun c => isPlain c && c != '\'' with
  | '\'' :: rest => some (body, rest)
  | _ => none

/-- Takes the quotes that end a string of several lines: three of them, and before them one or
two that belong to the text. -/
def closingQuotes (quote : Char) (cs : List Char) : Option (List Char × List Char) :=
  let run := (cs.takeWhile (· == quote)).length
  if run < 3 then none
  else
    let extra := min (run - 3) 2
    some (List.replicate extra quote, cs.drop (extra + 3))

/-- Whether nothing but spaces stands before the end of the line. -/
def endsLine (cs : List Char) : Bool := (newline? (skipSpaces cs)).isSome

/-- The text behind all spaces and line ends. -/
def skipBlankLines : (steps : Nat) → List Char → List Char
  | 0, cs => cs
  | steps + 1, cs =>
      let rest := skipSpaces cs
      match newline? rest with
      | some rest => skipBlankLines steps rest
      | none => rest

/-- Reads the rest of a string of several lines; `quote` encloses it, and escapes hold where it
is the double one. -/
def readMultiline (quote : Char) : (steps : Nat) → List Char → Option (List Char × List Char)
  | 0, _ => none
  | _ + 1, [] => none
  | steps + 1, c :: cs =>
      if c = quote then
        match closingQuotes quote (c :: cs) with
        | some (text, rest) => some (text, rest)
        | none => do
            let (text, rest) ← readMultiline quote steps cs
            return (c :: text, rest)
      else if c = '\\' ∧ quote = '"' then
        if endsLine cs then readMultiline quote steps (skipBlankLines (cs.length + 1) cs)
        else do
          let (d, rest) ← readEscape cs
          let (text, rest) ← readMultiline quote steps rest
          return (d :: text, rest)
      else match newline? (c :: cs) with
        | some rest => do
            let (text, rest) ← readMultiline quote steps rest
            return ('\n' :: text, rest)
        | none =>
            if isPlain c then do
              let (text, rest) ← readMultiline quote steps cs
              return (c :: text, rest)
            else none

/-- The text behind a line end right after the opening quotes. -/
def skipFirstNewline (cs : List Char) : List Char := (newline? cs).getD cs

/-- Reads a string of any form. -/
def readString (cs : List Char) : Option (String × List Char) := do
  let (text, rest) ← match cs with
    | '"' :: '"' :: '"' :: body => readMultiline '"' (body.length + 1) (skipFirstNewline body)
    | '\'' :: '\'' :: '\'' :: body =>
        readMultiline '\'' (body.length + 1) (skipFirstNewline body)
    | '"' :: body => readBasic (body.length + 1) body
    | '\'' :: body => readLiteral body
    | _ => none
  return (String.ofList text, rest)

end Strings

section Keys

/-- Reads one part of a key. -/
def readSimpleKey (cs : List Char) : Option (String × List Char) :=
  match cs with
  | '"' :: body => do
      let (text, rest) ← readBasic (body.length + 1) body
      return (String.ofList text, rest)
  | '\'' :: body => do
      let (text, rest) ← readLiteral body
      return (String.ofList text, rest)
  | cs =>
      let name := cs.takeWhile isBare
      if name.isEmpty then none else some (String.ofList name, cs.dropWhile isBare)

/-- Reads the parts of a key that are joined by points. -/
def readKey : (steps : Nat) → List Char → Option (List String × List Char)
  | 0, _ => none
  | steps + 1, cs => do
      let (first, rest) ← readSimpleKey (skipSpaces cs)
      match skipSpaces rest with
      | '.' :: rest =>
          let (parts, rest) ← readKey steps rest
          return (first :: parts, rest)
      | rest => return ([first], rest)

end Keys

end SchemaGrammar.Toml
