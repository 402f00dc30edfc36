import SchemaGrammar.Render.Context
import SchemaGrammar.Schema.BuiltIn
import SchemaGrammar.Text.Class.Alphanumeric

/-!
# What a terminal stands for

The name of a terminal decides what text it renders as.  Keywords and punctuators stand for
themselves, values get a sample of their kind, and a bare name takes its meaning from the
place where it stands.

**Results.**
* `Role.resolve` finds the meaning of a name; the enclosing rule is asked first where it pins
  the meaning down, then the flags of the context, then the rules that define types.
-/

namespace SchemaGrammar

/-- The kinds of named types. -/
inductive TypeKind
  | object
  | interface
  | union
  | enum
  | input
  | scalar
  deriving DecidableEq, Inhabited

namespace TypeKind

def keyword : TypeKind → String
  | object => "type"
  | interface => "interface"
  | union => "union"
  | enum => "enum"
  | input => "input"
  | scalar => "scalar"

/-- The sample name of a type of the kind. -/
def sample : TypeKind → String
  | object => "ExampleType"
  | interface => "ExampleInterface"
  | union => "ExampleUnion"
  | enum => "ExampleEnum"
  | input => "ExampleInput"
  | scalar => "ExampleScalar"

/-- The rules that define types, and the kinds they define. -/
def definingRules : List (String × TypeKind) :=
  [(RuleName.objectTypeDefinition, object),
    (RuleName.interfaceTypeDefinition, interface),
    (RuleName.unionTypeDefinition, union),
    (RuleName.enumTypeDefinition, enum),
    (RuleName.inputObjectTypeDefinition, input),
    (RuleName.scalarTypeDefinition, scalar)]

/-- The kind of type that a rule defines. -/
def definedBy? (rule : String) : Option TypeKind := definingRules.lookup rule

end TypeKind

namespace Render

section Words

/-- The words that are keywords wherever they stand. -/
def plainKeywords : List String :=
  ["type", "interface", "union", "enum", "input", "scalar", "schema", "extend", "directive",
    "implements", "on", "repeatable", "query", "mutation", "subscription", "fragment", "true",
    "false", "null"]

/-- The keywords: words of the language and the locations of directives. -/
def keywords : List String :=
  plainKeywords ++ Schema.typeSystemLocations ++ Schema.executableLocations

def isKeyword (text : String) : Bool := keywords.contains text

/-- Whether a text is a punctuator: one character that is neither a letter nor a digit nor an
underscore nor a quote, or the spread of three points. -/
def isPunctuator (text : String) : Bool :=
  text == "..." || match text.toList with
    | [c] => !Text.isAlphanumeric c && c != '_' && c != '"'
    | _ => false

/-- The types that need no definition. -/
def builtInScalars : List String := ["String", "Int", "Float", "Boolean", "ID"]

/-- The directives that need no definition. -/
def builtInDirectives : List String := ["deprecated", "skip", "include", "specifiedBy", "oneOf"]

end Words

/-- What the name of a terminal says about the name it stands for. -/
inductive Hint
  | any
  | type
  | directive
  | argument
  deriving DecidableEq, Inhabited

/-- The classes of terminals. -/
inductive TerminalClass
  | name (hint : Hint)
  | string
  | int
  | float
  | boolean
  | null
  | enum
  | other
  deriving DecidableEq, Inhabited

/-- The terminal names that have a class. -/
def terminalClasses : List (String × TerminalClass) :=
  [("Name", .name .any), ("name", .name .any), ("Identifier", .name .any),
    ("Ident", .name .any),
    ("NamedType", .name .type), ("TypeName", .name .type),
    ("DirectiveName", .name .directive),
    ("ArgumentName", .name .argument),
    ("StringValue", .string), ("String", .string), ("StringLiteral", .string),
    ("BlockString", .string), ("BlockStringValue", .string), ("Description", .string),
    ("IntValue", .int), ("Int", .int), ("IntLiteral", .int), ("Integer", .int),
    ("FloatValue", .float), ("Float", .float), ("FloatLiteral", .float),
    ("BooleanValue", .boolean), ("Boolean", .boolean), ("BooleanLiteral", .boolean),
    ("NullValue", .null), ("Null", .null),
    ("EnumValue", .enum)]

/-- The class of a terminal with a name. -/
def TerminalClass.ofName (name : String) : TerminalClass :=
  (terminalClasses.lookup name).getD .other

/-- The sample text of a terminal that stands for no name. -/
def TerminalClass.sample (cls : TerminalClass) (name : String) (c : Context) : String :=
  match cls with
  | .string => if c.inDescription then "\"Example description\"" else "\"example\""
  | .int => "42"
  | .float => "3.14"
  | .boolean => "true"
  | .null => "null"
  | .enum => "EXAMPLE_VALUE"
  | .other => if c.inDescription then "\"Example description\"" else name
  | .name _ => name

/-- The meaning of a name at a place. -/
inductive Role
  | typeReference (kind : TypeKind)
  | typeDefinition (kind : TypeKind)
  | directiveReference
  | directiveDefinition
  | argument
  | field
  | enumValue
  | generic
  deriving DecidableEq, Inhabited

namespace Role

/-- The kind of type that is meant where a type is referred to. -/
def referenceKind (c : Context) : TypeKind :=
  if c.operation.isSome || c.inUnionMembers then .object
  else if c.inImplements then .interface
  else if c.inArguments || c.inInputFields then .input
  else .object

/-- The meaning of a name about which the terminal says nothing. -/
def resolveBare (c : Context) : Role :=
  let rule := c.rule.getD ""
  if rule = RuleName.namedType then .typeReference (referenceKind c)
  else if rule = RuleName.argument then .argument
  else if c.inEnumValue then .enumValue
  else if c.inArguments ∧ rule = RuleName.inputValueDefinition then .argument
  else if rule = RuleName.directiveDefinition then .directiveDefinition
  else if c.inDirective then .directiveReference
  else if c.inFieldList then .field
  else match TypeKind.definedBy? rule with
    | some kind => .typeDefinition kind
    | none => .generic

/-- The meaning of a name. -/
def resolve (hint : Hint) (c : Context) : Role :=
  match hint with
  | .type => .typeReference (referenceKind c)
  | .directive =>
      if c.rule = some RuleName.directiveDefinition then .directiveDefinition
      else .directiveReference
  | .argument => .argument
  | .any => resolveBare c

/-- The sample text of a name. -/
def sample (role : Role) (c : Context) : String :=
  match role with
  | .typeReference kind => match c.operation with
      | some operation => operation.rootType
      | none => kind.sample
  | .typeDefinition kind => kind.sample
  | .directiveReference | .directiveDefinition | .generic => "example"
  | .argument => "arg"
  | .field => if 1 < c.fieldIndex then "exampleField" ++ toString c.fieldIndex else "exampleField"
  | .enumValue => "EXAMPLE_VALUE"

end Role

end Render

end SchemaGrammar
