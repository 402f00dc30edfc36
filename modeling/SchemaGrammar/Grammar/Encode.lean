import SchemaGrammar.Grammar.Basic
import SchemaGrammar.Json.Printer

/-!
# The structured form of a grammar

Grammars are exchanged as JSON.  An element is an object whose `kind` names its constructor;
a literal pattern is a string and a regular expression an object; what is absent is left
out.  The members stand in a fixed order, those of free data in the order of their keys.

**Results.**
* `Grammar.toJson` is the structured form, `Grammar.toValue` the same with all members sorted.
* `Grammar.compactText` and `Grammar.indentedText` are its two texts.
-/

namespace SchemaGrammar

def Pattern.toJson : Pattern → Json
  | .literal text => .str text
  | .regex source flags =>
      .obj (("source", .str source) :: if flags.isEmpty then [] else [("flags", .str flags)])

namespace Element

/-- The members of an element of a kind. -/
def tagged (kind : Kind) (members : List (String × Json)) : Json :=
  .obj (("kind", .str kind.name) :: members)

mutual

/-- The structured form of an element. -/
def toJson : Element → Json
  | .terminal name pattern =>
      tagged .terminal (("name", .str name) ::
        match pattern with
        | none => []
        | some p => [("pattern", p.toJson)])
  | .nonTerminal name => tagged .nonTerminal [("name", .str name)]
  | .sequence es => tagged .sequence [("elements", .arr (listToJson es))]
  | .oneOf es => tagged .oneOf [("options", .arr (listToJson es))]
  | .optional e => tagged .optional [("element", toJson e)]
  | .list e => tagged .list [("element", toJson e)]

/-- The structured forms of several elements. -/
def listToJson : List Element → List Json
  | [] => []
  | e :: es => toJson e :: listToJson es

end

end Element

def Rule.toJson (r : Rule) : Json :=
  .obj [("name", .str r.name), ("definition", r.definition.toJson)]

/-- A member with a text, if there is one. -/
def textMember (key : String) : Option String → List (String × Json)
  | none => []
  | some text => [(key, .str text)]

def Metadata.toJson (m : Metadata) : Json :=
  .obj (textMember "name" m.name ++ textMember "version" m.version ++
    textMember "description" m.description ++ m.extra.entries)

namespace Grammar

/-- The structured form, rules in their order. -/
def toJson (g : Grammar) : Json :=
  .obj ([("root", .str g.root),
      ("rules", .obj (g.rules.entries.map fun e => (e.1, e.2.toJson)))] ++
    match g.metadata with
    | none => []
    | some m => [("metadata", m.toJson)])

/-- The structured form as a value, every object sorted by key. -/
def toValue (g : Grammar) : Json := g.toJson.sorted

def compactText (g : Grammar) : String := g.toJson.compact

def indentedText (g : Grammar) : String := g.toJson.indented

end Grammar

end SchemaGrammar
