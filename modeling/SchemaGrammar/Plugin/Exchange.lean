import SchemaGrammar.Grammar.Decode
import SchemaGrammar.Grammar.Validation
import SchemaGrammar.Plugin.Kind
import SchemaGrammar.Plugin.OptionMap

/-!
# Grammars read and written as JSON

**Results.**
* `ReadOptions.read` reads a grammar from its JSON text and validates it if told so.
* `WriteOptions.write` writes it as data, on several lines or on one.
-/

namespace SchemaGrammar

/-- How a grammar is read. -/
structure ReadOptions where
  /-- A grammar with errors is refused. -/
  validate : Bool := false
  deriving DecidableEq, Inhabited

namespace ReadOptions

def shape : Shape ReadOptions where
  title := "struct JsonParserOptions"
  fields := [.withDefault "validate" .boolean fun b o => { o with validate := b }]
  start := {}
  closed := true

def toJson (o : ReadOptions) : Json := .obj [("validate", .bool o.validate)]

/-- The grammar that a text holds. -/
def read (text : String) (o : ReadOptions) : Except GrammarError Grammar :=
  match Grammar.ofText text with
  | .error e => .error (.unreadable e)
  | .ok g => if o.validate then (g.validate.result false).map fun _ => g else .ok g

end ReadOptions

/-- How a grammar is written. -/
structure WriteOptions where
  /-- Several lines are used. -/
  pretty : Bool := true
  /-- The output is data rather than text. -/
  asData : Bool := false
  deriving DecidableEq, Inhabited

namespace WriteOptions

def shape : Shape WriteOptions where
  title := "struct JsonGeneratorOptions"
  fields :=
    [.withDefault "pretty" .boolean fun b o => { o with pretty := b },
      .withDefault "asData" .boolean fun b o => { o with asData := b }]
  start := {}
  closed := true

def toJson (o : WriteOptions) : Json :=
  .obj [("pretty", .bool o.pretty), ("asData", .bool o.asData)]

/-- The output that holds a grammar. -/
def write (g : Grammar) (o : WriteOptions) : Output :=
  if o.asData then .data g.toValue
  else if o.pretty then .text g.indentedText
  else .text g.compactText

end WriteOptions

end SchemaGrammar
