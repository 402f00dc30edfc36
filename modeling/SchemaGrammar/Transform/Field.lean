import SchemaGrammar.Grammar.Basic
import SchemaGrammar.Plugin.OptionMap
import SchemaGrammar.Schema.RuleName
import SchemaGrammar.TypeRef.Basic

/-!
# Adding a field to a rule

A field of a type is made from its name, type, description, arguments and directives, and put
between braces.  The braces take the place of the first field list of a rule, so that the
rule describes exactly the new field; a rule without a field list gets them at its end.

**Results.**
* `FieldOptions.element` makes the field, `FieldOptions.problems` tells what would stop it.
* `Element.replaceContainer?` puts the braces in place.
* `Grammar.addField` does both.
-/

namespace SchemaGrammar

/-- An argument that the field takes. -/
structure FieldArgument where
  name : String
  type : String
  /-- A string is taken as it is, any other value as JSON. -/
  default : Option Json
  deriving DecidableEq, Inhabited

/-- An argument given to a directive. -/
structure DirectiveArgument where
  name : String
  /-- A string is taken as it is, any other value as JSON. -/
  value : Json
  deriving DecidableEq, Inhabited

/-- A directive on the field. -/
structure FieldDirective where
  name : String
  arguments : List DirectiveArgument
  deriving DecidableEq, Inhabited

/-- A field and the rule that gets it. -/
structure FieldOptions where
  ruleName : String
  fieldName : String
  fieldType : String
  description : Option String
  arguments : List FieldArgument
  directives : List FieldDirective
  deriving DecidableEq, Inhabited

/-- The ways in which adding a field fails. -/
inductive FieldError
  | unknownRule (name : String)
  | invalidType (source : String) (cause : TypeRef.Error)
  | invalidName (name : String)
  deriving DecidableEq, Inhabited

def FieldError.message : FieldError → String
  | .unknownRule name => "rule '" ++ name ++ "' is not defined"
  | .invalidType source cause => "invalid type '" ++ source ++ "': " ++ cause.message
  | .invalidName name => "'" ++ name ++ "' is not a valid name"

section Forms

namespace FieldArgument

def shape : Shape FieldArgument where
  title := "struct FieldArgument"
  fields :=
    [.mandatory "name" .string fun name a => { a with name },
      .mandatory "type" .string fun type a => { a with type },
      .withDefault "defaultValue" (.optional .json) fun default a => { a with default }]
  start := ⟨"", "", none⟩
  closed := true

def toJson (a : FieldArgument) : Json :=
  .obj [("name", .str a.name), ("type", .str a.type), ("defaultValue", a.default.getD .null)]

end FieldArgument

namespace DirectiveArgument

def shape : Shape DirectiveArgument where
  title := "struct DirectiveArgument"
  fields :=
    [.mandatory "name" .string fun name a => { a with name },
      .mandatory "value" .json fun value a => { a with value }]
  start := ⟨"", .null⟩
  closed := true

def toJson (a : DirectiveArgument) : Json := .obj [("name", .str a.name), ("value", a.value)]

end DirectiveArgument

namespace FieldDirective

def shape : Shape FieldDirective where
  title := "struct FieldDirective"
  fields :=
    [.mandatory "name" .string fun name d => { d with name },
      .withDefault "arguments" (.list DirectiveArgument.shape.decode) fun arguments d =>
        { d with arguments }]
  start := ⟨"", []⟩
  closed := true

def toJson (d : FieldDirective) : Json :=
  .obj [("name", .str d.name), ("arguments", .arr (d.arguments.map DirectiveArgument.toJson))]

end FieldDirective

namespace FieldOptions

def shape : Shape FieldOptions where
  title := "struct AddFieldOptions"
  fields :=
    [.mandatory "ruleName" .string fun ruleName o => { o with ruleName },
      .mandatory "fieldName" .string fun fieldName o => { o with fieldName },
      .mandatory "fieldType" .string fun fieldType o => { o with fieldType },
      .withDefault "description" (.optional .string) fun description o => { o with description },
      .withDefault "arguments" (.list FieldArgument.shape.decode) fun arguments o =>
        { o with arguments },
      .withDefault "directives" (.list FieldDirective.shape.decode) fun directives o =>
        { o with directives }]
  start := ⟨"", "", "", none, [], []⟩
  closed := true

def toJson (o : FieldOptions) : Json :=
  .obj
    [("ruleName", .str o.ruleName), ("fieldName", .str o.fieldName),
      ("fieldType", .str o.fieldType),
      ("description", match o.description with
        | none => .null
        | some text => .str text),
      ("arguments", .arr (o.arguments.map FieldArgument.toJson)),
      ("directives", .arr (o.directives.map FieldDirective.toJson))]

end FieldOptions

end Forms

namespace FieldOptions

section Problems

/-- The problem with a name, if it is none. -/
def nameProblem (what name : String) : List String :=
  if Text.isName name then [] else [what ++ " '" ++ name ++ "' is not a valid name"]

/-- The problem with a type, if it is none. -/
def typeProblem (source : String) : List String :=
  match TypeRef.parse source with
  | .ok _ => []
  | .error e => ["invalid type '" ++ source ++ "': " ++ e.message]

/-- The problems with the names of a directive and its arguments. -/
def directiveProblems (d : FieldDirective) : List String :=
  nameProblem "directive name" d.name ++
    d.arguments.flatMap fun a => nameProblem "directive argument name" a.name

/-- Everything that is wrong with the options, whatever the grammar. -/
def problems (o : FieldOptions) : List String :=
  (if o.ruleName.isEmpty then ["ruleName must not be empty"] else []) ++
    nameProblem "fieldName" o.fieldName ++
    (o.arguments.flatMap fun a => nameProblem "argument name" a.name) ++
    o.directives.flatMap directiveProblems ++
    (o.fieldType :: o.arguments.map (·.type)).flatMap typeProblem

end Problems

section Construction

/-- A terminal with a literal text. -/
def literal (name text : String) : Element := .terminal name (some (.literal text))

/-- A terminal with a name, if it is one. -/
def nameElement (terminal name : String) : Except FieldError Element :=
  if Text.isName name then .ok (literal terminal name) else .error (.invalidName name)

/-- The element of a type. -/
def typeElement (source : String) : Except FieldError Element :=
  match TypeRef.parse source with
  | .ok t => .ok t.toElement
  | .error e => .error (.invalidType source e)

/-- The element of a value. -/
def valueElement (v : Json) : Element :=
  literal "Value" (match v with
    | .str text => text
    | v => v.compact)

/-- Items between parentheses, with commas between them. -/
def parenthesized (items : List Element) : Element :=
  .sequence (.token "(" :: items.intersperse (.token ",") ++ [.token ")"])

/-- An argument with its type and perhaps a default. -/
def argumentElement (a : FieldArgument) : Except FieldError Element := do
  let name ← nameElement "ArgumentName" a.name
  let type ← typeElement a.type
  return .sequence ([name, .token ":", type] ++
    match a.default with
    | none => []
    | some v => [.sequence [.token "=", valueElement v]])

/-- An argument of a directive with its value. -/
def directiveArgumentElement (a : DirectiveArgument) : Except FieldError Element := do
  let name ← nameElement "ArgumentName" a.name
  return .sequence [name, .token ":", valueElement a.value]

/-- A directive with its arguments. -/
def directiveElement (d : FieldDirective) : Except FieldError Element := do
  let name ← nameElement "DirectiveName" d.name
  if d.arguments.isEmpty then return .sequence [.token "@", name]
  else
    let arguments ← d.arguments.mapM directiveArgumentElement
    return .sequence [.token "@", name, parenthesized arguments]

/-- The arguments of the field, if it has any. -/
def argumentsElements (arguments : List FieldArgument) : Except FieldError (List Element) :=
  if arguments.isEmpty then .ok []
  else do
    let items ← arguments.mapM argumentElement
    return [parenthesized items]

/-- The description of the field, if it has one: a string in quotes. -/
def descriptionElements (description : Option String) : List Element :=
  description.toList.map fun text => literal RuleName.description (Json.str text).compact

/-- The element of the field. -/
def element (o : FieldOptions) : Except FieldError Element := do
  let name ← nameElement "Name" o.fieldName
  let arguments ← argumentsElements o.arguments
  let type ← typeElement o.fieldType
  let directives ← o.directives.mapM directiveElement
  return .sequence
    (descriptionElements o.description ++ [name] ++ arguments ++ [.token ":", type] ++ directives)

end Construction

end FieldOptions

namespace Element

section Containers

/-- A field list with one field. -/
def container (field : Element) : Element :=
  .sequence [.token "\x7b", .list field, .token "\x7d"]

/-- Whether elements begin with a repetition between braces. -/
def startsContainer : List Element → Bool
  | opening :: .list _ :: closing :: _ => opening.isToken "\x7b" && closing.isToken "\x7d"
  | _ => false

/-- Whether an element is a field list: a reference to one, or a repetition between braces. -/
def isContainer : Element → Bool
  | .nonTerminal name =>
      name == RuleName.fieldsDefinition || name == RuleName.inputFieldsDefinition
  | .sequence es => decide (es.length = 3) && startsContainer es
  | _ => false

mutual

/-- The element with its first field list, in pre-order, replaced; nothing if there is none. -/
def replaceContainer? (replacement : Element) : Element → Option Element
  | .terminal _ _ => none
  | .nonTerminal name => if isContainer (.nonTerminal name) then some replacement else none
  | .sequence es =>
      if isContainer (.sequence es) then some replacement
      else (replaceInSequence? replacement es).map .sequence
  | .oneOf es => (replaceInOptions? replacement es).map .oneOf
  | .optional e => (replaceContainer? replacement e).map .optional
  | .list e => (replaceContainer? replacement e).map .list

/-- The same in the elements of a sequence, where a field list may also stand without a sequence
of its own. -/
def replaceInSequence? (replacement : Element) : List Element → Option (List Element)
  | [] => none
  | e :: es =>
      if startsContainer (e :: es) then some (replacement :: es.drop 2)
      else match replaceContainer? replacement e with
        | some replaced => some (replaced :: es)
        | none => (replaceInSequence? replacement es).map (e :: ·)

/-- The same in the alternatives of a choice. -/
def replaceInOptions? (replacement : Element) : List Element → Option (List Element)
  | [] => none
  | e :: es =>
      match replaceContainer? replacement e with
      | some replaced => some (replaced :: es)
      | none => (replaceInOptions? replacement es).map (e :: ·)

end

/-- The definition with an element behind it. -/
def appended (definition last : Element) : Element :=
  match definition with
  | .sequence es => .sequence (es ++ [last])
  | e => .sequence [e, last]

/-- The definition with a field list in place of its first one, or at its end. -/
def withContainer (definition replacement : Element) : Element :=
  (replaceContainer? replacement definition).getD (definition.appended replacement)

end Containers

end Element

/-- The grammar in which the named rule holds the new field; a rule is stored under its own
name. -/
def Grammar.addField (o : FieldOptions) (g : Grammar) : Except FieldError Grammar :=
  match g.rule? o.ruleName with
  | none => .error (.unknownRule o.ruleName)
  | some rule =>
      match o.element with
      | .error e => .error e
      | .ok field =>
          .ok (g.withRule (rule.withDefinition (rule.definition.withContainer (.container field))))

end SchemaGrammar
