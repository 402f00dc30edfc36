import SchemaGrammar.Grammar.Basic
import SchemaGrammar.Plugin.OptionMap

/-!
# Rules with descriptions

A rule is given an optional description in front of its definition.  A definition that starts
with one already is left alone, and so is the rule of descriptions itself.

**Results.**
* `Grammar.addDescriptions` wraps the selected rules and adds the description rule if it is
  missing and needed.
-/

namespace SchemaGrammar

/-- Which rules get a description, and by which rule. -/
structure DescribeOptions where
  /-- The rules to wrap, or every rule. -/
  ruleNames : Option (List String) := none
  descriptionRule : String := "Description"
  deriving DecidableEq, Inhabited

namespace DescribeOptions

def shape : Shape DescribeOptions where
  title := "struct AddDescriptionOptions"
  fields :=
    [.withDefault "ruleNames" (.optional (.list .string)) fun names o =>
        { o with ruleNames := names },
      .withDefault "descriptionRule" .string fun name o => { o with descriptionRule := name }]
  start := {}
  closed := true

def toJson (o : DescribeOptions) : Json :=
  .obj
    [("ruleNames", match o.ruleNames with
      | none => .null
      | some names => .strings names),
      ("descriptionRule", .str o.descriptionRule)]

/-- Whether a rule is to be wrapped. -/
def selects (o : DescribeOptions) (rule : Rule) : Bool :=
  rule.name != o.descriptionRule &&
    match o.ruleNames with
    | none => true
    | some names => names.contains rule.name

end DescribeOptions

/-- The names that were to be wrapped and are no rules. -/
structure UnknownRules where
  names : List String
  deriving DecidableEq, Inhabited

def UnknownRules.message (e : UnknownRules) : String :=
  "cannot add descriptions to undefined rules: " ++ ", ".intercalate e.names

namespace Element

/-- Whether a definition starts with an optional reference to the description rule. -/
def isDescribed (description : String) : Element → Bool
  | .sequence (.optional e :: _) => e.refersTo description
  | _ => false

/-- The definition behind an optional description. -/
def described (description : String) (e : Element) : Element :=
  .sequence [.optional (.nonTerminal description), e]

end Element

namespace Grammar

variable (o : DescribeOptions)

/-- Whether a rule is selected and has no description yet. -/
def needsDescription (rule : Rule) : Bool :=
  o.selects rule && !rule.definition.isDescribed o.descriptionRule

/-- The rule of descriptions that is added where none is. -/
def descriptionRule : Rule := ⟨o.descriptionRule, .terminal "StringValue" none⟩

/-- The names that were asked for and are no keys. -/
def unknownNames (g : Grammar) : List String :=
  (o.ruleNames.getD []).filter fun name => !g.contains name

/-- The grammar with descriptions on the selected rules. -/
def addDescriptions (g : Grammar) : Except UnknownRules Grammar :=
  let unknown := g.unknownNames o
  if unknown.isEmpty then
    let wrapped := g.mapRules fun rule =>
      if needsDescription o rule then rule.definition.described o.descriptionRule
      else rule.definition
    if g.rules.values.any (needsDescription o) && !wrapped.contains o.descriptionRule then
      .ok (wrapped.withRule (descriptionRule o))
    else .ok wrapped
  else .error ⟨unknown⟩

end Grammar

end SchemaGrammar
