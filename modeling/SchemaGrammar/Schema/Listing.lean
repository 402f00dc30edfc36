import SchemaGrammar.Grammar.Basic

/-!
# A listing of types

For every rule of a grammar a placeholder type is declared, in the Rust language, with the
rule itself as its documentation.  The name of the type is the name of the rule with its
words run together, each with a capital at the front.

**Results.**
* `Grammar.typeListing` is the text, `Listing.identifier` the name of a rule's type.
-/

namespace SchemaGrammar

namespace Listing

/-- The runs of letters and digits of the ASCII set, some of them empty. -/
def words : List Char → List (List Char)
  | [] => [[]]
  | c :: cs =>
      if c.isAlphanum then
        match words cs with
        | [] => [[c]]
        | word :: rest => (c :: word) :: rest
      else [] :: words cs

/-- A word with a capital at the front. -/
def capitalized : List Char → List Char
  | [] => []
  | c :: cs => c.toUpper :: cs

/-- The words of a name run together. -/
def camelCase (name : String) : List Char := (words name.toList).flatMap capitalized

/-- The name of the type of a rule: a letter is put in front where none is. -/
def identifier (name : String) : String :=
  let body := camelCase name
  String.ofList (if body.head?.all Char.isDigit then 'R' :: body else body)

/-- A rule in its notation, fit to stand between backquotes. -/
def documentation (rule : Rule) : String := rule.display.map fun c => if c = '\x60' then '\'' else c

/-- The declaration of the type of a rule. -/
def declaration (rule : Rule) : String :=
  "\n/// `" ++ documentation rule ++ "`\n" ++
    "#[derive(Debug, Clone, Default, PartialEq, Eq)]\n" ++
    "pub struct " ++ identifier rule.name ++ ";\n"

end Listing

/-- The declarations of the types of all rules, in the order of the rules. -/
def Grammar.typeListing (g : Grammar) : String :=
  "//! Placeholder types for the grammar rooted at `" ++ g.root ++ "`.\n" ++
    String.join (g.rules.values.map Listing.declaration)

end SchemaGrammar
