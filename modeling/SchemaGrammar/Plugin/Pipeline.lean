import SchemaGrammar.Plugin.Registry
import SchemaGrammar.Toml.Reader

/-!
# Pipelines

A pipeline names a parser, some transformers and a generator, with options for each.  It is
written down as TOML, or as JSON.

**Results.**
* `Pipeline.ofToml`, `Pipeline.toToml` and `Pipeline.ofValue` are its written forms.
* `Registry.run` sends a text through a pipeline.
-/

namespace SchemaGrammar

/-- A way from a text to an output. -/
structure Pipeline where
  parser : String := "json"
  transformers : List String := []
  generator : String := "graphql-sdl"
  /-- The options of the transformers by name. -/
  options : KeyMap OptionMap := .empty
  parserOptions : OptionMap := .empty
  generatorOptions : OptionMap := .empty
  deriving DecidableEq, Inhabited

namespace Pipeline

section Forms

/-- Reads the options of several plugins by name. -/
def optionsDecoder : Decoder (KeyMap OptionMap) := fun r d =>
  (Decoder.map OptionMap.decoder r d).map KeyMap.ofList

def shape : Shape Pipeline where
  title := "struct PipelineConfig"
  fields :=
    [.withDefault "parser" .string fun parser p => { p with parser },
      .withDefault "transformers" (.list .string) fun transformers p => { p with transformers },
      .withDefault "generator" .string fun generator p => { p with generator },
      .withDefault "options" optionsDecoder fun options p => { p with options },
      .withDefault "parser_options" OptionMap.decoder fun parserOptions p =>
        { p with parserOptions },
      .withDefault "generator_options" OptionMap.decoder fun generatorOptions p =>
        { p with generatorOptions }]
  start := {}
  closed := true

/-- The members of the written form. -/
def members (p : Pipeline) : List (String × Json) :=
  [("parser", .str p.parser), ("transformers", .strings p.transformers),
    ("generator", .str p.generator),
    ("options", .obj (p.options.entries.map fun (id, o) => (id, o.toJson))),
    ("parser_options", p.parserOptions.toJson),
    ("generator_options", p.generatorOptions.toJson)]

def toJson (p : Pipeline) : Json := .obj p.members

/-- The pipeline that a value stands for. -/
def ofValue (v : Json) : Decoded Pipeline := Decoder.ofValue shape.decode v

/-- The pipeline that a TOML text holds. -/
def ofToml (text : String) : Except ConfigError Pipeline :=
  match Toml.read text with
  | none => .error .undecodable
  | some v => match ofValue v with
      | .ok p => .ok p
      | .error _ => .error .undecodable

/-- The pipeline as TOML. -/
def toToml (p : Pipeline) : Except ConfigError String :=
  (Toml.write p.members).mapError .unencodable

/-- The pipeline in a file, given what the file holds if there is one. -/
def ofFile (path : String) (content : Option String) : Except ConfigError Pipeline :=
  match content with
  | none => .error (.absent path)
  | some text => ofToml text

/-- Whether two pipelines are equal when zero has one sign only. -/
def sameValue (p q : Pipeline) : Bool := p.toJson.sameValue q.toJson

end Forms

end Pipeline

namespace Registry

/-- What comes out of a pipeline: the grammar behind the transformers, and the output. -/
structure Run where
  transformed : Transformed
  output : Output
  deriving DecidableEq, Inhabited

/-- Sends a text through a pipeline. -/
def run (r : Registry) (p : Pipeline) (text : String) : Except PluginError Run :=
  match r.parse text p.parser p.parserOptions with
  | .error e => .error e
  | .ok g =>
      match r.transform g p.transformers p.options with
      | .error e => .error e
      | .ok transformed =>
          match r.generate transformed.grammar p.generator p.generatorOptions with
          | .error e => .error e
          | .ok output => .ok ⟨transformed, output⟩

end Registry

end SchemaGrammar
