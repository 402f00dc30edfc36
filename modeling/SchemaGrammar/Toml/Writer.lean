import SchemaGrammar.Decimal.Shortest
import SchemaGrammar.Json.Basic
import SchemaGrammar.Toml.Text

/-!
# Writing TOML

An object is written as a table: first its plain values, then its tables and arrays of
tables, each under a header of its own.  A table that holds nothing but tables needs no
header.  Inside an array everything stands on one line.

**Results.**
* `Toml.write` gives the text of an object, or the reason why it has none.
-/

namespace SchemaGrammar.Toml

/-- Why a value cannot be written. -/
inductive WriteError
  /-- There is no way to write null. -/
  | null
  /-- An integer needs more than 64 bits with sign. -/
  | outOfRange
  deriving DecidableEq, Inhabited

def WriteError.message : WriteError → String
  | .null => "unsupported unit type"
  | .outOfRange => "out-of-range value for u64 type"

section Strings

/-- What a text holds that matters to its written form. -/
structure Traits where
  /-- Control characters other than tab and line feed. -/
  control : Bool
  backslash : Bool
  newline : Bool
  /-- The longest run of double quotes. -/
  doubleQuotes : Nat
  /-- The longest run of single quotes. -/
  singleQuotes : Nat
  deriving DecidableEq, Inhabited

/-- The length of the longest run of a character; `run` counts the one at the start. -/
def longestRun (c : Char) (run : Nat) : List Char → Nat
  | [] => run
  | d :: ds => if d = c then longestRun c (run + 1) ds else max run (longestRun c 0 ds)

/-- Whether a character cannot stand as it is in any form. -/
def isControl (c : Char) : Bool := (c < ' ' && c != '\t' && c != '\n') || c == '\x7f'

def traits (cs : List Char) : Traits where
  control := cs.any isControl
  backslash := cs.contains '\\'
  newline := cs.contains '\n'
  doubleQuotes := longestRun '"' 0 cs
  singleQuotes := longestRun '\'' 0 cs

/-- A hexadecimal digit in capitals. -/
def hexDigit (n : Nat) : Char := (Nat.digitChar n).toUpper

/-- A character between double quotes, line feeds and quotes apart. -/
def escapeChar (c : Char) : List Char :=
  if c = '\x08' then ['\\', 'b']
  else if c = '\t' then ['\\', 't']
  else if c = '\x0c' then ['\\', 'f']
  else if c = '\r' then ['\\', 'r']
  else if c = '\\' then ['\\', '\\']
  else if isControl c then
    ['\\', 'u', '0', '0', hexDigit (c.toNat / 16), hexDigit (c.toNat % 16)]
  else [c]

/-- The text between double quotes: `quotes` in a row may stand without an escape, and so may
line feeds in the form of several lines. -/
def escapeText (quotes : Nat) (multiline : Bool) : (run : Nat) → List Char → List Char
  | _, [] => []
  | run, c :: cs =>
      if c = '"' then
        if run < quotes then '"' :: escapeText quotes multiline (run + 1) cs
        else '\\' :: '"' :: escapeText quotes multiline 0 cs
      else if c = '\n' ∧ ¬ multiline then '\\' :: 'n' :: escapeText quotes multiline 0 cs
      else if c = '\n' then '\n' :: escapeText quotes multiline 0 cs
      else escapeChar c ++ escapeText quotes multiline 0 cs

/-- The form on one line. -/
def basicForm (cs : List Char) : List Char := '"' :: escapeText 0 false 0 cs ++ ['"']

/-- The form on one line without escapes. -/
def literalForm (cs : List Char) : List Char := '\'' :: cs ++ ['\'']

/-- A form of several lines: text with line feeds begins on a line of its own. -/
def multilineForm (quote : Char) (newline : Bool) (body : List Char) : List Char :=
  let marks := [quote, quote, quote]
  marks ++ (if newline then ['\n'] else []) ++ body ++ marks

/-- The written form of a text: the first that needs no escape but those of tabs, else the one
with escapes. -/
def stringForm (cs : List Char) : List Char :=
  let t := traits cs
  if !t.control && !t.backslash && !t.newline && t.doubleQuotes = 0 then basicForm cs
  else if !t.control && !t.newline && t.singleQuotes = 0 then literalForm cs
  else if !t.control && !t.backslash && t.doubleQuotes ≤ 2 then
    multilineForm '"' t.newline (escapeText 2 true 0 cs)
  else if !t.control && t.singleQuotes ≤ 2 then multilineForm '\'' t.newline cs
  else if t.newline then multilineForm '"' t.newline (escapeText 2 true 0 cs)
  else basicForm cs

/-- The written form of a key: bare if it can be, else the first form that needs no escape but
those of tabs, else the one with escapes. -/
def keyForm (key : String) : List Char :=
  let cs := key.toList
  let t := traits cs
  let control := t.control || t.newline
  if !cs.isEmpty && cs.all isBare then cs
  else if !control && !t.backslash && t.doubleQuotes = 0 then basicForm cs
  else if !control && t.singleQuotes = 0 then literalForm cs
  else basicForm cs

end Strings

section Values

/-- The text of a number. -/
def numberText : Number → Except WriteError (List Char)
  | .int i => if i < (Nat.pow 2 63 : Int) then .ok (toString i).toList else .error .outOfRange
  | .double d => .ok d.plainText

mutual

/-- The text of a value on one line. -/
def inlineText : Json → Except WriteError (List Char)
  | .null => .error .null
  | .bool b => .ok (if b then "true" else "false").toList
  | .num n => numberText n
  | .str s => .ok (stringForm s.toList)
  | .arr items => do
      let texts ← inlineItems items
      return '[' :: (", ".toList).intercalate texts ++ [']']
  | .obj members => do
      let texts ← inlineMembers members
      if texts.isEmpty then return ['\x7b', '\x7d']
      else return '\x7b' :: ' ' :: (", ".toList).intercalate texts ++ [' ', '\x7d']

/-- The texts of the items. -/
def inlineItems : List Json → Except WriteError (List (List Char))
  | [] => .ok []
  | v :: vs => do
      let text ← inlineText v
      let texts ← inlineItems vs
      return text :: texts

/-- The texts of the members. -/
def inlineMembers : List (String × Json) → Except WriteError (List (List Char))
  | [] => .ok []
  | (k, v) :: ms => do
      let text ← inlineText v
      let texts ← inlineMembers ms
      return (keyForm k ++ " = ".toList ++ text) :: texts

end

end Values

section Tables

def isTable : Json → Bool
  | .obj _ => true
  | _ => false

/-- Whether a value stands behind its key, rather than under a header. -/
def isInline : Json → Bool
  | .obj _ => false
  | .arr [] => true
  | .arr items => !items.all isTable
  | _ => true

/-- The kinds of headers. -/
inductive Heading
  /-- The whole text has none. -/
  | none
  | table
  | tableItem
  deriving DecidableEq, Inhabited

/-- A table: its place, and the lines of its plain values. -/
structure Block where
  heading : Heading
  path : List String
  lines : List (List Char)
  /-- Whether it holds nothing at all. -/
  void : Bool
  deriving Inhabited

mutual

/-- The blocks of a value under a header. -/
def blocks (path : List String) (heading : Heading) : Json → List Block
  | .obj members =>
      ⟨heading, path, plainLines members, members.isEmpty⟩ :: memberBlocks path members
  | .arr items => itemBlocks path items
  | _ => []

/-- The blocks of the members that stand under headers. -/
def memberBlocks (path : List String) : List (String × Json) → List Block
  | [] => []
  | (k, v) :: ms =>
      (if isInline v then [] else blocks (path ++ [k]) .table v) ++ memberBlocks path ms

/-- The blocks of the items of an array of tables. -/
def itemBlocks (path : List String) : List Json → List Block
  | [] => []
  | v :: vs => blocks path .tableItem v ++ itemBlocks path vs

/-- The lines of the plain values. -/
def plainLines : List (String × Json) → List (List Char)
  | [] => []
  | (k, v) :: ms =>
      match isInline v, inlineText v with
      | true, .ok text => (keyForm k ++ " = ".toList ++ text) :: plainLines ms
      | _, _ => plainLines ms

end

namespace Block

/-- The keys of a path, joined. -/
def pathText (path : List String) : List Char := ['.'].intercalate (path.map keyForm)

/-- The header line of a block, if it needs one. -/
def header? (b : Block) : Option (List Char) :=
  match b.heading with
  | .none => none
  | .table =>
      if b.void || !b.lines.isEmpty then some ('[' :: pathText b.path ++ [']']) else none
  | .tableItem => some ('[' :: '[' :: pathText b.path ++ [']', ']'])

end Block

/-- The lines of blocks, an empty one before every header but that of the first line. -/
def blockLines (started : Bool) : List Block → List (List Char)
  | [] => []
  | b :: bs =>
      match b.header? with
      | none => b.lines ++ blockLines (started || !b.lines.isEmpty) bs
      | some header =>
          (if started then [[]] else []) ++ header :: b.lines ++ blockLines true bs

/-- The text of the members of an object. -/
def write (members : List (String × Json)) : Except WriteError String :=
  match inlineMembers members with
  | .error e => .error e
  | .ok _ =>
      .ok (String.ofList ((blockLines false (blocks [] .none (.obj members))).flatMap
        fun line => line ++ ['\n']))

end Tables

end SchemaGrammar.Toml
