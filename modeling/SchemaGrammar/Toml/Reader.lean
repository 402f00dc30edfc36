import SchemaGrammar.Toml.Number
import SchemaGrammar.Toml.Tree

/-!
# Reading TOML

A text is a list of lines: pairs, headers and comments.  Pairs belong to the table of the
last header.  Arrays may run over several lines; inline tables stand on one.

**Results.**
* `Toml.read` gives the value of a text, its members in the order of the text, or nothing if
  the text is no TOML.
-/

namespace SchemaGrammar.Toml

/-- How deep arrays and inline tables may be nested, and how many keys may be joined. -/
def nestingLimit : Nat := 79

section Values

/-- The path and the last key of joined keys. -/
def splitKey : List String → Option (List String × String)
  | [] => none
  | [key] => some ([], key)
  | part :: rest => (splitKey rest).map fun (path, key) => (part :: path, key)

/-- Reads joined keys of a bounded number. -/
def readPath (cs : List Char) : Option ((List String × String) × List Char) := do
  let (keys, rest) ← readKey nestingLimit cs
  let path ← splitKey keys
  return (path, rest)

/-- Reads a value that holds no other. -/
def readScalar (cs : List Char) : Option (Json × List Char) :=
  match cs with
  | '"' :: _ | '\'' :: _ => (readString cs).map fun (text, rest) => (.str text, rest)
  | 't' :: _ => (word? "true" cs).map fun rest => (.bool true, rest)
  | 'f' :: _ => (word? "false" cs).map fun rest => (.bool false, rest)
  | cs => if startsDateTime cs then readDateTime cs else readNumber cs

mutual

/-- Reads a value; `levels` containers may still be opened. -/
def readValue : (steps levels : Nat) → List Char → Option (Json × List Char)
  | 0, _, _ => none
  | steps + 1, levels, cs =>
      match cs, levels with
      | '[' :: _, 0 => none
      | '\x7b' :: _, 0 => none
      | '[' :: rest, levels + 1 =>
          (readItems steps levels (skipBetween rest)).map fun (vs, rest) => (.arr vs, rest)
      | '\x7b' :: rest, levels + 1 =>
          match skipSpaces rest with
          | '\x7d' :: rest => some (.obj [], rest)
          | rest =>
              (readPairs steps levels [] rest).map fun (ms, rest) =>
                (.obj (membersToJson ms), rest)
      | cs, _ => readScalar cs

/-- Reads the items of an array up to its end; a comma may follow the last one. -/
def readItems : (steps levels : Nat) → List Char → Option (List Json × List Char)
  | 0, _, _ => none
  | _ + 1, _, ']' :: rest => some ([], rest)
  | steps + 1, levels, cs => do
      let (v, rest) ← readValue steps levels cs
      match skipBetween rest with
      | ',' :: rest =>
          let (vs, rest) ← readItems steps levels (skipBetween rest)
          return (v :: vs, rest)
      | ']' :: rest => return ([v], rest)
      | _ => none

/-- Reads the pairs of an inline table up to its end and adds them to `ms`. -/
def readPairs : (steps levels : Nat) → Members → List Char → Option (Members × List Char)
  | 0, _, _, _ => none
  | steps + 1, levels, ms, cs => do
      let ((path, key), rest) ← readPath cs
      let rest ← expect '=' rest
      let (v, rest) ← readValue steps levels (skipSpaces rest)
      let ms ← addPair path key v ms
      match skipSpaces rest with
      | ',' :: rest => readPairs steps levels ms rest
      | '\x7d' :: rest => return (ms, rest)
      | _ => none

end

end Values

section Lines

/-- What has been read: all tables, and the path of the one that pairs belong to. -/
structure Progress where
  root : Members
  current : List String

/-- Takes spaces and a comment up to the end of the line or of the text. -/
def endLine (cs : List Char) : Option (List Char) :=
  match skipComment (skipSpaces cs) with
  | [] => some []
  | rest => newline? rest

/-- Whether a line holds nothing but a comment. -/
def isVoid : List Char → Bool
  | c :: _ => c == '#' || c == '\n' || c == '\r'
  | [] => true

/-- Reads one line from its first character that is no space. -/
def readLine (p : Progress) (cs : List Char) : Option (Progress × List Char) :=
  if isVoid cs then (endLine cs).map fun rest => (p, rest)
  else match cs with
    | '[' :: '[' :: rest => do
        let ((path, key), rest) ← readPath rest
        let rest ← expect ']' rest
        let rest ← expect ']' rest
        let root ← addTableItem path key p.root
        let rest ← endLine rest
        return (⟨root, path ++ [key]⟩, rest)
    | '[' :: rest => do
        let ((path, key), rest) ← readPath rest
        let rest ← expect ']' rest
        let root ← addTable path key p.root
        let rest ← endLine rest
        return (⟨root, path ++ [key]⟩, rest)
    | cs => do
        let ((path, key), rest) ← readPath cs
        let rest ← expect '=' rest
        let (v, rest) ← readValue (rest.length + 1) nestingLimit (skipSpaces rest)
        let root ← addPairUnder p.current path key v p.root
        let rest ← endLine rest
        return (⟨root, p.current⟩, rest)

/-- Reads line after line. -/
def readText : (steps : Nat) → Progress → List Char → Option Members
  | 0, _, _ => none
  | steps + 1, p, cs =>
      match skipSpaces cs with
      | [] => some p.root
      | cs => do
          let (next, rest) ← readLine p cs
          readText steps next rest

/-- The text without the mark that may stand at the beginning of a file. -/
def withoutMark : List Char → List Char
  | '\uFEFF' :: cs => cs
  | cs => cs

/-- The value of a text. -/
def read (text : String) : Option Json :=
  let cs := withoutMark text.toList
  (readText (cs.length + 1) ⟨[], []⟩ cs).map fun root => .obj (membersToJson root)

end Lines

end SchemaGrammar.Toml
