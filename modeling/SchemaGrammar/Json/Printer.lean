import SchemaGrammar.Decimal.Shortest
import SchemaGrammar.Json.Basic

/-!
# Written JSON

The compact form has no white space.  The indented form puts every item and member on a line
of its own, two spaces deeper than its container; empty containers stay closed.

**Results.**
* `Json.compact` and `Json.indented` are the two texts of a value.
* `Json.escapeChar` escapes the quote, the backslash and the controls below the space, and
  nothing else.
-/

namespace SchemaGrammar

namespace Json

/-- A control character in the four-digit form. -/
def unicodeEscape (n : Nat) : List Char :=
  ['\\', 'u', '0', '0', Nat.digitChar (n / 16), Nat.digitChar (n % 16)]

/-- One character as it stands in a JSON string. -/
def escapeChar (c : Char) : List Char :=
  if c = '"' then ['\\', '"']
  else if c = '\\' then ['\\', '\\']
  else if c = '\x08' then ['\\', 'b']
  else if c = '\t' then ['\\', 't']
  else if c = '\n' then ['\\', 'n']
  else if c = '\x0c' then ['\\', 'f']
  else if c = '\r' then ['\\', 'r']
  else if c < ' ' then unicodeEscape c.toNat
  else [c]

/-- A string with its quotes. -/
def stringChars (s : String) : List Char := '"' :: s.toList.flatMap escapeChar ++ ['"']

/-- An integer in decimal digits. -/
def intChars : Int → List Char
  | .ofNat n => Nat.toDigits 10 n
  | .negSucc n => '-' :: Nat.toDigits 10 (n + 1)

def numberChars : Number → List Char
  | .int i => intChars i
  | .double d => d.jsonText

def boolChars (b : Bool) : List Char :=
  if b then ['t', 'r', 'u', 'e'] else ['f', 'a', 'l', 's', 'e']

section Compact

mutual

/-- The value without white space. -/
def compactChars : Json → List Char
  | .null => ['n', 'u', 'l', 'l']
  | .bool b => boolChars b
  | .num n => numberChars n
  | .str s => stringChars s
  | .arr items => '[' :: compactItems items ++ [']']
  | .obj members => '\x7b' :: compactMembers members ++ ['\x7d']

/-- The items with commas between them. -/
def compactItems : List Json → List Char
  | [] => []
  | [v] => compactChars v
  | v :: w :: vs => compactChars v ++ ',' :: compactItems (w :: vs)

/-- The members with commas between them. -/
def compactMembers : List (String × Json) → List Char
  | [] => []
  | [(k, v)] => stringChars k ++ ':' :: compactChars v
  | (k, v) :: m :: ms => stringChars k ++ ':' :: compactChars v ++ ',' :: compactMembers (m :: ms)

end

/-- The compact text of a value. -/
def compact (v : Json) : String := String.ofList v.compactChars

end Compact

section Indented

/-- A new line at a depth of nesting. -/
def newline (level : Nat) : List Char := '\n' :: List.replicate (2 * level) ' '

mutual

/-- The value on several lines, from a depth of nesting on. -/
def indentedChars (level : Nat) : Json → List Char
  | .null => ['n', 'u', 'l', 'l']
  | .bool b => boolChars b
  | .num n => numberChars n
  | .str s => stringChars s
  | .arr items =>
      if items.isEmpty then ['[', ']']
      else '[' :: indentedItems (level + 1) items ++ newline level ++ [']']
  | .obj members =>
      if members.isEmpty then ['\x7b', '\x7d']
      else '\x7b' :: indentedMembers (level + 1) members ++ newline level ++ ['\x7d']

/-- The items, each on a line of its own. -/
def indentedItems (level : Nat) : List Json → List Char
  | [] => []
  | [v] => newline level ++ indentedChars level v
  | v :: w :: vs => newline level ++ indentedChars level v ++ ',' :: indentedItems level (w :: vs)

/-- The members, each on a line of its own. -/
def indentedMembers (level : Nat) : List (String × Json) → List Char
  | [] => []
  | [(k, v)] => newline level ++ stringChars k ++ ':' :: ' ' :: indentedChars level v
  | (k, v) :: m :: ms =>
      newline level ++ stringChars k ++ ':' :: ' ' :: indentedChars level v ++
        ',' :: indentedMembers level (m :: ms)

end

/-- The text of a value on several lines. -/
def indented (v : Json) : String := String.ofList (v.indentedChars 0)

end Indented

end Json

end SchemaGrammar
