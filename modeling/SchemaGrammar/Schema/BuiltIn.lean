import SchemaGrammar.Grammar.Basic
import SchemaGrammar.Schema.RuleName

/-!
# The grammar of schema documents

The grammar of type-system documents: schema, type and directive definitions with all their
parts.  Its root is the document, every reference resolves, and every rule is reachable.

**Results.**
* `Grammar.schema` is the grammar.
-/

namespace SchemaGrammar

namespace Schema

/-- The places of a type system where a directive may stand. -/
def typeSystemLocations : List String :=
  ["SCHEMA", "SCALAR", "OBJECT", "FIELD_DEFINITION", "ARGUMENT_DEFINITION", "INTERFACE",
    "UNION", "ENUM", "ENUM_VALUE", "INPUT_OBJECT", "INPUT_FIELD_DEFINITION"]

/-- The places of an executable document where a directive may stand. -/
def executableLocations : List String :=
  ["QUERY", "MUTATION", "SUBSCRIPTION", "FIELD", "FRAGMENT_DEFINITION", "FRAGMENT_SPREAD",
    "INLINE_FRAGMENT", "VARIABLE_DEFINITION"]

section Terminals

/-- A terminal that matches a regular expression. -/
def lexical (name source : String) : Element := .terminal name (some (.regex source ""))

def name : Element := lexical "Name" "[_A-Za-z][_0-9A-Za-z]*"

def stringValue : Element := lexical "StringValue" "\"([^\"\\\\\\n]|\\\\.)*\""

def intValue : Element := lexical "IntValue" "-?(0|[1-9][0-9]*)"

def floatValue : Element :=
  lexical "FloatValue" "-?(0|[1-9][0-9]*)(\\.[0-9]+)?([eE][+-]?[0-9]+)?"

def booleanValue : Element := lexical "BooleanValue" "true|false"

def nullValue : Element := .terminal "NullValue" (some (.literal "null"))

end Terminals

section Rules

open RuleName

/-- A reference that may be left out. -/
def maybe (rule : String) : Element := .optional (.nonTerminal rule)

/-- One or more occurrences of a rule between two tokens. -/
def enclosed (opening rule closing : String) : Element :=
  .sequence [.token opening, .list (.nonTerminal rule), .token closing]

/-- The definition of a named type behind its keyword. -/
def typeDefinitionOf (keyword : String) (parts : List String) : Element :=
  .sequence ([maybe description, .token keyword, name] ++ parts.map maybe)

/-- A rule that starts with an item and goes on with itself, a token and an item. -/
def leftRecursive (rule token item : String) (first : List Element) : Element :=
  .oneOf
    [.sequence (first ++ [.nonTerminal item]),
      .sequence [.nonTerminal rule, .token token, .nonTerminal item]]

/-- The rules of the grammar of schema documents, in the order of presentation. -/
def rules : List Rule :=
  [⟨document, .list (.nonTerminal definition)⟩,
    ⟨definition,
      .oneOf
        [.nonTerminal schemaDefinition, .nonTerminal typeDefinition,
          .nonTerminal directiveDefinition]⟩,
    ⟨schemaDefinition,
      .sequence
        [maybe description, .token "schema", maybe directives, .token "\x7b",
          .list (.nonTerminal rootOperationTypeDefinition), .token "\x7d"]⟩,
    ⟨rootOperationTypeDefinition,
      .sequence [.nonTerminal operationType, .token ":", .nonTerminal namedType]⟩,
    ⟨operationType, .oneOf [.token "query", .token "mutation", .token "subscription"]⟩,
    ⟨typeDefinition,
      .oneOf
        [.nonTerminal objectTypeDefinition, .nonTerminal interfaceTypeDefinition,
          .nonTerminal unionTypeDefinition, .nonTerminal enumTypeDefinition,
          .nonTerminal inputObjectTypeDefinition, .nonTerminal scalarTypeDefinition]⟩,
    ⟨objectTypeDefinition,
      typeDefinitionOf "type" [implementsInterfaces, directives, fieldsDefinition]⟩,
    ⟨interfaceTypeDefinition,
      typeDefinitionOf "interface" [implementsInterfaces, directives, fieldsDefinition]⟩,
    ⟨unionTypeDefinition, typeDefinitionOf "union" [directives, unionMemberTypes]⟩,
    ⟨enumTypeDefinition, typeDefinitionOf "enum" [directives, enumValuesDefinition]⟩,
    ⟨inputObjectTypeDefinition, typeDefinitionOf "input" [directives, inputFieldsDefinition]⟩,
    ⟨scalarTypeDefinition, typeDefinitionOf "scalar" [directives]⟩,
    ⟨implementsInterfaces,
      leftRecursive implementsInterfaces "&" namedType [.token "implements"]⟩,
    ⟨fieldsDefinition, enclosed "\x7b" fieldDefinition "\x7d"⟩,
    ⟨fieldDefinition,
      .sequence
        [maybe description, name, maybe argumentsDefinition, .token ":", .nonTerminal type,
          maybe directives]⟩,
    ⟨argumentsDefinition, enclosed "(" inputValueDefinition ")"⟩,
    ⟨inputValueDefinition,
      .sequence
        [maybe description, name, .token ":", .nonTerminal type, maybe defaultValue,
          maybe directives]⟩,
    ⟨inputFieldsDefinition, enclosed "\x7b" inputValueDefinition "\x7d"⟩,
    ⟨unionMemberTypes, leftRecursive unionMemberTypes "|" namedType [.token "="]⟩,
    ⟨enumValuesDefinition, enclosed "\x7b" enumValueDefinition "\x7d"⟩,
    ⟨enumValueDefinition,
      .sequence [maybe description, .nonTerminal enumValue, maybe directives]⟩,
    ⟨enumValue, name⟩,
    ⟨defaultValue, .sequence [.token "=", .nonTerminal value]⟩,
    ⟨value,
      .oneOf
        [stringValue, intValue, floatValue, booleanValue, nullValue, .nonTerminal enumValue,
          .nonTerminal listValue, .nonTerminal objectValue]⟩,
    ⟨listValue,
      .sequence [.token "[", .optional (.list (.nonTerminal value)), .token "]"]⟩,
    ⟨objectValue,
      .sequence [.token "\x7b", .optional (.list (.nonTerminal objectField)), .token "\x7d"]⟩,
    ⟨objectField, .sequence [name, .token ":", .nonTerminal value]⟩,
    ⟨type, .oneOf [.nonTerminal nonNullType, .nonTerminal listType, .nonTerminal namedType]⟩,
    ⟨namedType, name⟩,
    ⟨listType, .sequence [.token "[", .nonTerminal type, .token "]"]⟩,
    ⟨nonNullType,
      .oneOf
        [.sequence [.nonTerminal namedType, .token "!"],
          .sequence [.nonTerminal listType, .token "!"]]⟩,
    ⟨directives, .list (.nonTerminal directive)⟩,
    ⟨directive, .sequence [.token "@", name, maybe arguments]⟩,
    ⟨arguments, enclosed "(" argument ")"⟩,
    ⟨argument, .sequence [name, .token ":", .nonTerminal value]⟩,
    ⟨directiveDefinition,
      .sequence
        [maybe description, .token "directive", .token "@", name, maybe argumentsDefinition,
          .optional (.token "repeatable"), .token "on", .nonTerminal directiveLocations]⟩,
    ⟨directiveLocations,
      .oneOf
        [.nonTerminal directiveLocation,
          .sequence
            [.nonTerminal directiveLocations, .token "|", .nonTerminal directiveLocation]]⟩,
    ⟨directiveLocation, .oneOf ((typeSystemLocations ++ executableLocations).map .token)⟩,
    ⟨description, stringValue⟩]

end Rules

/-- What is told about the grammar of schema documents. -/
def metadata : Metadata :=
  { name := some "graphql-sdl"
    version := none
    description := some "GraphQL type-system definition language"
    extra := .empty }

end Schema

/-- The grammar of schema documents. -/
def Grammar.schema : Grammar :=
  (Grammar.ofRules RuleName.document Schema.rules).withMetadata (some Schema.metadata)

end SchemaGrammar
