import SchemaGrammar.Schema.RuleName

/-!
# Where in a document the renderer is

A context tells the rule whose body is being rendered, how many rules lead to it, and what
the surroundings make of a bare name.  Every structural step derives the context of a part
from the context of the whole, so that siblings do not see each other.

**Results.**
* `Scope.ofRule` tells what entering a rule does; every rule that is not listed changes no
  more than the current rule and the depth.
-/

namespace SchemaGrammar

/-- A root operation of a schema. -/
inductive Operation
  | query
  | mutation
  | subscription
  deriving DecidableEq, Inhabited

namespace Operation

/-- All root operations in order. -/
def all : List Operation := [query, mutation, subscription]

def keyword : Operation → String
  | query => "query"
  | mutation => "mutation"
  | subscription => "subscription"

/-- The customary name of the type that an operation starts from. -/
def rootType : Operation → String
  | query => "Query"
  | mutation => "Mutation"
  | subscription => "Subscription"

end Operation

namespace Render

/-- What the body of a rule is to the names in it. -/
inductive Scope
  | description
  | outputFields
  | inputFields
  | arguments
  | directive
  | enumValue
  | implements
  | unionMembers
  /-- A definition, which starts afresh. -/
  | definition
  | plain
  deriving DecidableEq, Inhabited

section Scopes

open RuleName

/-- The scope of each rule that has one. -/
def scopes : List (String × Scope) :=
  [(description, .description),
    (fieldsDefinition, .outputFields),
    (inputFieldsDefinition, .inputFields),
    (argumentsDefinition, .arguments),
    (directives, .directive),
    (directive, .directive),
    (enumValuesDefinition, .enumValue),
    (enumValueDefinition, .enumValue),
    (enumValue, .enumValue),
    (implementsInterfaces, .implements),
    (unionMemberTypes, .unionMembers),
    (objectTypeDefinition, .definition),
    (interfaceTypeDefinition, .definition),
    (unionTypeDefinition, .definition),
    (enumTypeDefinition, .definition),
    (inputObjectTypeDefinition, .definition),
    (scalarTypeDefinition, .definition),
    (directiveDefinition, .definition),
    (schemaDefinition, .definition)]

/-- The scope of a rule. -/
def Scope.ofRule (rule : String) : Scope := (scopes.lookup rule).getD .plain

end Scopes

/-- A place in a document. -/
structure Context where
  /-- The rule whose body is being rendered. -/
  rule : Option String := none
  /-- The number of rules entered on the way here. -/
  depth : Nat := 0
  inDescription : Bool := false
  inFieldList : Bool := false
  inInputFields : Bool := false
  inArguments : Bool := false
  inDirective : Bool := false
  inEnumValue : Bool := false
  inImplements : Bool := false
  inUnionMembers : Bool := false
  /-- The root operation whose entry is being rendered. -/
  operation : Option Operation := none
  /-- The position of the field in its field list, counted from one. -/
  fieldIndex : Nat := 0
  deriving DecidableEq, Inhabited

namespace Context

/-- Outside of every rule. -/
def start : Context := {}

/-- The members of a field list.  Those of an input object are input fields. -/
def enteringFieldList (c : Context) : Context :=
  { c with
    inFieldList := true
    inInputFields := c.inInputFields || c.rule == some RuleName.inputObjectTypeDefinition
    inDescription := false
    fieldIndex := 0 }

/-- The parenthesised arguments of a field. -/
def enteringArguments (c : Context) : Context := { c with inArguments := true }

/-- A directive with its arguments. -/
def enteringDirective (c : Context) : Context :=
  { c with inDirective := true, inEnumValue := false, inDescription := false }

/-- The entry of a root operation. -/
def withOperation (c : Context) (operation : Operation) : Context :=
  { c with operation := some operation }

/-- The next field of the field list. -/
def nextField (c : Context) : Context := { c with fieldIndex := c.fieldIndex + 1 }

/-- The body of a rule. -/
def enteringRule (c : Context) (rule : String) : Context :=
  let next : Context := { c with rule := some rule, depth := c.depth + 1 }
  match Scope.ofRule rule with
  | .description => { next with inDescription := true }
  | .outputFields => { next.enteringFieldList with inInputFields := false }
  | .inputFields => { next.enteringFieldList with inInputFields := true }
  | .arguments => { next with inArguments := true }
  | .directive => next.enteringDirective
  | .enumValue => { next with inEnumValue := true }
  | .implements => { next with inImplements := true }
  | .unionMembers => { next with inUnionMembers := true }
  | .definition => { rule := next.rule, depth := next.depth }
  | .plain => next

end Context

end Render

end SchemaGrammar
