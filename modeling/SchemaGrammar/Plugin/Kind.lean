import SchemaGrammar.Grammar.Basic
import SchemaGrammar.Json.Decode
import SchemaGrammar.Json.Printer

/-!
# The kinds of plugins

A parser turns a text into a grammar, a transformer a grammar into a grammar, and a generator
a grammar into an output, which is a text or data.

**Results.**
* `PluginKind.Input` and `PluginKind.Result` are the types that a kind joins.
-/

namespace SchemaGrammar

/-- The kinds of plugins. -/
inductive PluginKind
  | parser
  | transformer
  | generator
  deriving DecidableEq, Inhabited

/-- What a generator makes. -/
inductive Output
  | text (content : String)
  | data (value : Json)
  deriving DecidableEq, Inhabited

namespace Output

/-- The output that a value stands for: a string is text, everything else data. -/
def ofJson : Json → Output
  | .str content => .text content
  | v => .data v.sorted

/-- The output as a value. -/
def toJson : Output → Json
  | .text content => .str content
  | .data v => v

def isText : Output → Bool
  | .text _ => true
  | .data _ => false

/-- The output as a text: data is written on several lines. -/
def display : Output → String
  | .text content => content
  | .data v => v.indented

end Output

namespace PluginKind

/-- What a plugin of a kind starts from. -/
def Input : PluginKind → Type
  | parser => String
  | transformer => Grammar
  | generator => Grammar

/-- What a plugin of a kind makes. -/
def Result : PluginKind → Type
  | parser => Grammar
  | transformer => Grammar
  | generator => Output

/-- All kinds in order. -/
def all : List PluginKind := [parser, transformer, generator]

def name : PluginKind → String
  | parser => "parser"
  | transformer => "transformer"
  | generator => "generator"

/-- The kind with a name. -/
def ofName? (name : String) : Option PluginKind := all.find? (·.name == name)

/-- The kind with a name, or the error that tells all names. -/
def ofName (name : String) : Decoded PluginKind :=
  match ofName? name with
  | some kind => .ok kind
  | none => .error (.unknownVariant name (all.map PluginKind.name))

/-- Reads a kind: its name, or an object with its name as the only key and null behind it. -/
def decoder : Decoder PluginKind := fun _ d =>
  match d with
  | .str lit => do
      let name ← Decoded.ofSyntax lit.read
      ofName name
  | .obj [(key, d)] _ => do
      let name ← Decoded.ofSyntax key.read
      let kind ← ofName name
      match d with
      | .null => return kind
      | d => throw (d.mismatch "unit")
  | .obj _ _ => .error (.invalidValue .map "map with a single key")
  | d => .error (d.mismatch "string or map")

end PluginKind

end SchemaGrammar
