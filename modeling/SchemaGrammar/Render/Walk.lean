import SchemaGrammar.Render.Symbols

/-!
# One instance of a grammar

A grammar is rendered as one instance of its language: of every choice the first alternative,
every optional part, one occurrence of every repetition.  Inside the schema definition the
entries are repeated once for each root operation, and a choice takes the alternative that is
the operation's keyword.

**Recursion.**  The elements of a definition are walked by recursion on the definition.  A
reference enters another rule, which uses up one unit of an allowance; the walk fails once
the allowance is spent.

**Results.**
* `Walk.element` renders an element, given the way to enter a rule.
* `Walk.rule` renders a rule.
-/

namespace SchemaGrammar

/-- The ways in which rendering fails. -/
inductive RenderError
  | missingRoot (root : String)
  | undefinedRule (name referencedFrom : String)
  | depthExceeded (rule : String) (limit : Nat)
  deriving DecidableEq, Inhabited

def RenderError.message : RenderError → String
  | .missingRoot root => "root rule '" ++ root ++ "' is not defined"
  | .undefinedRule name referencedFrom =>
      "cannot render undefined rule '" ++ name ++ "' referenced from '" ++ referencedFrom ++ "'"
  | .depthExceeded rule limit =>
      "render depth limit " ++ toString limit ++ " exceeded while entering rule '" ++ rule ++ "'"

namespace Render

/-- How a grammar is rendered. -/
structure Options where
  /-- Whether descriptions are written. -/
  includeDescriptions : Bool := true
  pretty : Bool := true
  indent : Nat := 2
  /-- How many rules may be entered inside one another. -/
  maxDepth : Nat := 64
  deriving DecidableEq, Inhabited

namespace Options

/-- Everything on one line. -/
def compact : Options := { pretty := false }

def layout (o : Options) : Layout := ⟨o.pretty, o.indent⟩

end Options

/-- A step of rendering: it notes down events and may fail. -/
abbrev Walk := StateT Trace (Except RenderError)

/-- Whether an element is a description, perhaps an optional one. -/
def isDescription : Element → Bool
  | .nonTerminal name => name == RuleName.description
  | .terminal name _ => name == RuleName.description
  | .optional e => isDescription e
  | _ => false

/-- Whether an element is left out because descriptions are. -/
def Options.hides (o : Options) (e : Element) : Bool := !o.includeDescriptions && isDescription e

/-- A repetition between braces holds the members of a field list, unless it repeats the root
operations of a schema. -/
def opensFieldList (previous : Option Element) (e : Element) (next : Option Element) : Bool :=
  match e with
  | .list inner =>
      previous.any (·.isToken "\x7b") && next.any (·.isToken "\x7d") &&
        !inner.refersTo RuleName.rootOperationTypeDefinition
  | _ => false

namespace Context

/-- The context of the parts of a sequence: one that begins with the sign of a directive or, in
a field list, with a parenthesis is marked as such. -/
def forSequence (c : Context) (es : List Element) : Context :=
  match es.head? with
  | none => c
  | some e =>
      if e.isToken "@" then c.enteringDirective
      else if e.isToken "(" && c.inFieldList && !c.inDirective then c.enteringArguments
      else c

/-- Which alternatives may be chosen: the keyword of the root operation if it is one of them,
else any. -/
def admits (c : Context) (options : List Element) (e : Element) : Bool :=
  match c.operation with
  | none => true
  | some operation =>
      if options.any (·.isToken operation.keyword) then e.isToken operation.keyword else true

/-- Whether a repetition of `e` stands for the entries of the root operations. -/
def repeatsOperations (c : Context) (e : Element) : Bool :=
  e.refersTo RuleName.rootOperationTypeDefinition || c.rule == some RuleName.schemaDefinition

/-- The context of the single occurrence of a repetition. -/
def forOccurrence (c : Context) : Context := if c.inFieldList then c.nextField else c

end Context

namespace Walk

/-- Notes down an event. -/
def note (event : Event) : Walk Unit := modify (event :: ·)

/-- The event of writing a name in a role, if it is one. -/
def event? (role : Role) (text : String) (c : Context) : Option Event :=
  match role with
  | .typeReference kind => some (.typeReferenced text kind)
  | .typeDefinition kind => some (.typeDefined text kind)
  | .directiveReference => some (.directiveReferenced text)
  | .directiveDefinition => some (.directiveDefined text)
  | .argument => if c.inDirective then some (.directiveArgument text) else none
  | .field | .enumValue | .generic => none

/-- The text of a terminal, and the event of writing it. -/
def terminalText (name : String) (pattern : Option Pattern) (c : Context) :
    String × Option Event :=
  if isKeyword name || isPunctuator name then (name, none)
  else
    let literal := pattern.bind Pattern.literal?
    match TerminalClass.ofName name with
    | .name hint =>
        let role := Role.resolve hint c
        let text := literal.getD (role.sample c)
        (text, event? role text c)
    | cls => (literal.getD (cls.sample name c), none)

/-- Renders a terminal. -/
def terminal (name : String) (pattern : Option Pattern) (c : Context) : Walk String := do
  let (text, event) := terminalText name pattern c
  match event with
  | some e => note e
  | none => pure ()
  return text

section Elements

variable (o : Options) (enter : String → Context → Walk String)

mutual

/-- Renders an element; `enter` renders the rule that a reference names. -/
def element : Element → Context → Walk String
  | .terminal name pattern, c =>
      if o.hides (.terminal name pattern) then pure "" else terminal name pattern c
  | .nonTerminal name, c => if o.hides (.nonTerminal name) then pure "" else enter name c
  | .sequence es, c => do
      let parts ← sequenceParts none es (c.forSequence es)
      return o.layout.sequence parts
  | .oneOf es, c => firstAdmitted (c.admits es) es c
  | .optional e, c => if o.hides (.optional e) then pure "" else element e c
  | .list e, c =>
      if c.repeatsOperations e then do
        let query ← element e (c.withOperation .query)
        let mutation ← element e (c.withOperation .mutation)
        let subscription ← element e (c.withOperation .subscription)
        return o.layout.lines [query, mutation, subscription]
      else element e c.forOccurrence

/-- Renders the parts of a sequence behind the part `previous`, those without text left out. -/
def sequenceParts (previous : Option Element) : List Element → Context → Walk (List Part)
  | [], _ => return []
  | e :: es, c => do
      let text ← element e
        (if opensFieldList previous e es.head? then c.enteringFieldList else c)
      let parts ← sequenceParts (some e) es c
      return if text.isEmpty then parts else ⟨text, isDescription e⟩ :: parts

/-- Renders the first alternative that is admitted. -/
def firstAdmitted (admitted : Element → Bool) : List Element → Context → Walk String
  | [], _ => return ""
  | e :: es, c => if admitted e then element e c else firstAdmitted admitted es c

end

end Elements

/-- Renders a rule, with an allowance for the rules that may be entered inside one another, this
one included.  The schema definition is rendered once only, and descriptions may be left out. -/
def rule (g : Grammar) (o : Options) : (allowance : Nat) → String → Context → Walk String
  | allowance, key, c =>
      match g.rule? key with
      | none => throw (.undefinedRule key (c.rule.getD g.root))
      | some r =>
          match allowance with
          | 0 => throw (.depthExceeded r.name o.maxDepth)
          | allowance + 1 =>
              if !o.includeDescriptions && r.name == RuleName.description then pure ""
              else do
                let trace ← get
                if r.name == RuleName.schemaDefinition && trace.contains (.entered r.name) then
                  note (.repeated r.name)
                  return ""
                else
                  note (.entered r.name)
                  element o (rule g o allowance) r.definition (c.enteringRule r.name)

end Walk

end Render

end SchemaGrammar
