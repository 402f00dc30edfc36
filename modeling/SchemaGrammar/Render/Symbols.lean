import SchemaGrammar.Collection.Table
import SchemaGrammar.Render.Layout
import SchemaGrammar.Render.Name

/-!
# The names of a rendered document

While a document is rendered, the rules entered and the names written are noted down as
events.  The symbols of a document are what the events say: the types and directives that it
defines, those that it refers to, and the arguments given to each directive.  For every name
that is referred to and not defined a stub is added.

**Results.**
* `Symbols.ofTrace` reads a trace from its first event to its last.
* `Symbols.stubs` lists the missing definitions: types in the order of their first
  references, a query type unless there is nothing at all, then directives.
-/

namespace SchemaGrammar.Render

/-- What happens while a document is rendered. -/
inductive Event
  /-- The body of a rule begins. -/
  | entered (rule : String)
  /-- A rule that is rendered once only is met again. -/
  | repeated (rule : String)
  | typeDefined (name : String) (kind : TypeKind)
  | typeReferenced (name : String) (kind : TypeKind)
  | directiveDefined (name : String)
  | directiveReferenced (name : String)
  /-- An argument is given to a directive. -/
  | directiveArgument (name : String)
  deriving DecidableEq, Inhabited

/-- The events so far, the latest first. -/
abbrev Trace := List Event

/-- The names that a document defines and refers to, each list in the order of first mention. -/
structure Symbols where
  definedTypes : Table TypeKind := .empty
  referencedTypes : Table TypeKind := .empty
  definedDirectives : List String := []
  /-- Directives referred to, with the arguments seen on them. -/
  referencedDirectives : Table (List String) := .empty
  /-- The directive to which the next argument belongs. -/
  lastDirective : Option String := none
  deriving Inhabited

/-- Appends an element that is not in the list yet. -/
def appendNew (xs : List String) (x : String) : List String :=
  if xs.contains x then xs else xs ++ [x]

/-- The kind of a name that is referred to as two kinds.  Only an interface can be
implemented, so an interface stays one; a name used both for output and for input is a scalar,
which may stand in either place. -/
def mergeKinds (seen next : TypeKind) : TypeKind :=
  if seen = next then seen
  else if seen = .interface ∨ next = .interface then .interface
  else if seen = .input ∨ next = .input then .scalar
  else seen

namespace Symbols

section Recording

def defineType (s : Symbols) (name : String) (kind : TypeKind) : Symbols :=
  if s.definedTypes.contains name then s
  else { s with definedTypes := s.definedTypes.insert name kind }

def referenceType (s : Symbols) (name : String) (kind : TypeKind) : Symbols :=
  if builtInScalars.contains name then s
  else
    let merged := match s.referencedTypes.get? name with
      | some seen => mergeKinds seen kind
      | none => kind
    { s with referencedTypes := s.referencedTypes.insert name merged }

def defineDirective (s : Symbols) (name : String) : Symbols :=
  { s with
    definedDirectives := appendNew s.definedDirectives name
    lastDirective := none }

def referenceDirective (s : Symbols) (name : String) : Symbols :=
  if builtInDirectives.contains name then { s with lastDirective := none }
  else
    { s with
      referencedDirectives :=
        if s.referencedDirectives.contains name then s.referencedDirectives
        else s.referencedDirectives.insert name []
      lastDirective := some name }

def addArgument (s : Symbols) (name : String) : Symbols :=
  match s.lastDirective with
  | none => s
  | some directive =>
      match s.referencedDirectives.get? directive with
      | none => s
      | some arguments =>
          { s with
            referencedDirectives := s.referencedDirectives.insert directive
              (appendNew arguments name) }

/-- The symbols after one more event. -/
def record (s : Symbols) : Event → Symbols
  | .entered _ => s
  | .repeated _ => s
  | .typeDefined name kind => s.defineType name kind
  | .typeReferenced name kind => s.referenceType name kind
  | .directiveDefined name => s.defineDirective name
  | .directiveReferenced name => s.referenceDirective name
  | .directiveArgument name => s.addArgument name

/-- The symbols of a trace. -/
def ofTrace (trace : Trace) : Symbols := trace.foldr (fun event s => s.record event) {}

end Recording

end Symbols

/-- A definition added for a name that has none. -/
inductive Stub
  | type (name : String) (kind : TypeKind)
  | directive (name : String) (arguments : List String)
  deriving DecidableEq, Inhabited

namespace Stub

/-- The type from which queries start. -/
def queryType : String := "Query"

/-- The text of the stub of a type. -/
def typeText (l : Layout) (name : String) (kind : TypeKind) : String :=
  let head := kind.keyword ++ " " ++ name
  match kind with
  | .object | .interface | .input => l.block head ["placeholder: String"]
  | .enum => l.block head ["EXAMPLE_VALUE"]
  | .union => head ++ " = " ++ queryType
  | .scalar => head

/-- The text of the stub of a directive, allowed everywhere in a type system. -/
def directiveText (name : String) (arguments : List String) : String :=
  "directive @" ++ name ++
    (if arguments.isEmpty then ""
      else "(" ++ ", ".intercalate (arguments.map fun a => a ++ ": String") ++ ")") ++
    " on " ++ " | ".intercalate Schema.typeSystemLocations

def text (l : Layout) : Stub → String
  | .type name kind => typeText l name kind
  | .directive name arguments => directiveText name arguments

end Stub

namespace Symbols

section Stubs

variable (s : Symbols)

/-- The stubs of the types that are referred to and not defined. -/
def missingTypes : List Stub :=
  (s.referencedTypes.entries.filter fun e => !s.definedTypes.contains e.1).map
    fun e => .type e.1 e.2

/-- The stub of the query type, if there are types and none of them is it. -/
def missingQuery : List Stub :=
  if s.definedTypes.contains Stub.queryType || s.referencedTypes.contains Stub.queryType then []
  else if s.definedTypes.isEmpty && s.referencedTypes.isEmpty then []
  else [.type Stub.queryType .object]

/-- The stubs of the directives that are referred to and not defined. -/
def missingDirectives : List Stub :=
  (s.referencedDirectives.entries.filter fun e => !s.definedDirectives.contains e.1).map
    fun e => .directive e.1 e.2

/-- The stubs that close a document over its names. -/
def stubs : List Stub := s.missingTypes ++ s.missingQuery ++ s.missingDirectives

end Stubs

end Symbols

end SchemaGrammar.Render
