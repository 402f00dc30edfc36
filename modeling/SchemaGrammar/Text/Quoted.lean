import SchemaGrammar.Text.Class.GraphemeExtender
import SchemaGrammar.Text.Class.Unprintable

/-!
# Quoted text

A text between double quotes in which every character shows: quotes and backslashes are
escaped, the common controls have a letter, and a character that would not print or would
join its neighbour is written by its code point.

**Results.**
* `Text.quote` is the quoted form, one character after the other by `Text.quoteChar`.
-/

namespace SchemaGrammar.Text

/-- One character as it stands between quotes. -/
def quoteChar (c : Char) : List Char :=
  if c = '\x00' then ['\\', '0']
  else if c = '\t' then ['\\', 't']
  else if c = '\r' then ['\\', 'r']
  else if c = '\n' then ['\\', 'n']
  else if c = '\\' then ['\\', '\\']
  else if c = '"' then ['\\', '"']
  else if extendsGrapheme c || isUnprintable c then
    ['\\', 'u', '\x7b'] ++ Nat.toDigits 16 c.toNat ++ ['\x7d']
  else [c]

/-- The text between double quotes. -/
def quote (s : String) : String :=
  String.ofList ('"' :: s.toList.flatMap quoteChar ++ ['"'])

example : quote "a\"b\\c\n" = "\"a\\\"b\\\\c\\n\"" := by decide +kernel

end SchemaGrammar.Text
