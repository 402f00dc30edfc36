import SchemaGrammar.Plugin.Basic
import SchemaGrammar.Plugin.Checkpoint
import SchemaGrammar.Plugin.Exchange
import SchemaGrammar.Schema.Listing
import SchemaGrammar.Transform.Normalize
import SchemaGrammar.Transform.Simplify

/-!
# The built-in plugins

Every transformation, reader and writer of grammars is a plugin under a fixed name.

**Results.**
* `BuiltIn.all` lists the plugins with their names in the order of registration.
-/

namespace SchemaGrammar

namespace Render.Options

/-- The form of the options of a rendered document. -/
def shape : Shape Render.Options where
  title := "struct SdlGeneratorOptions"
  fields :=
    [.withDefault "includeDescriptions" .boolean fun b o => { o with includeDescriptions := b },
      .withDefault "pretty" .boolean fun b o => { o with pretty := b },
      .withDefault "indent" .natural fun n o => { o with indent := n },
      .withDefault "maxDepth" .natural fun n o => { o with maxDepth := n }]
  start := {}
  closed := true

def toJson (o : Render.Options) : Json :=
  .obj
    [("includeDescriptions", .bool o.includeDescriptions), ("pretty", .bool o.pretty),
      ("indent", .nat o.indent), ("maxDepth", .nat o.maxDepth)]

end Render.Options

/-- A plugin and the name it is registered under. -/
structure NamedPlugin where
  kind : PluginKind
  id : String
  plugin : Plugin kind

namespace BuiltIn

/-- The description of a built-in plugin. -/
def metadata (name description : String) : PluginMetadata := ⟨name, "0.1.0", description⟩

section Parsers

/-- Reads the JSON form of a grammar. -/
def jsonReader : Plugin .parser :=
  .ofShape (metadata "JSON" "Reads grammars in their JSON form") (some "json")
    ReadOptions.shape (fun _ => [])
    fun text o => (o.read text).mapError .grammar

/-- Stands in for a reader of schemas, and refuses them all. -/
def schemaReader : Plugin .parser where
  metadata := metadata "GraphQL SDL" "Reads GraphQL schema text (not supported yet)"
  format := some "graphql"
  problems _ := []
  run _ _ := .failed (.unsupportedInput "GraphQL SDL")

end Parsers

section Transformers

def normalizer : Plugin .transformer :=
  .ofShape (metadata "Normalize" "Removes duplicate alternatives and sorts rules by name") none
    NormalizeOptions.shape (fun _ => [])
    fun g o => .ok (Grammar.normalize o g)

def simplifier : Plugin .transformer :=
  .ofShape (metadata "Simplify" "Flattens nested sequences and collapses single-element groups")
    none SimplifyOptions.shape (fun _ => [])
    fun g o => .ok (Grammar.simplify o g)

def fieldAdder : Plugin .transformer :=
  .ofShape (metadata "Add field" "Adds a field definition to the field list of a rule") none
    FieldOptions.shape FieldOptions.problems
    fun g o => (Grammar.addField o g).mapError .field

def describer : Plugin .transformer :=
  .ofShape
    (metadata "Add description" "Prefixes rule definitions with an optional description") none
    DescribeOptions.shape
    (fun o => if o.descriptionRule.isEmpty then ["descriptionRule must not be empty"] else [])
    fun g o => (Grammar.addDescriptions o g).mapError .unknownRules

def validator : Plugin .transformer :=
  .ofShape
    (metadata "Validate" "Checks the grammar's root and references without changing it") none
    CheckpointOptions.shape (fun _ => [])
    fun g o => (Grammar.checkpoint o g).mapError .grammar

end Transformers

section Generators

def renderer : Plugin .generator :=
  .ofShape (metadata "GraphQL SDL" "Renders a representative GraphQL schema document")
    (some "graphql") Render.Options.shape
    (fun o => if o.maxDepth = 0 then ["maxDepth must be at least 1"] else [])
    fun g o => ((Grammar.render g o).map Output.text).mapError .render

def jsonWriter : Plugin .generator :=
  .ofShape (metadata "JSON" "Writes grammars in their JSON form") (some "json")
    WriteOptions.shape (fun _ => [])
    fun g o => .ok (o.write g)

/-- Lists the types of a grammar, and has no options at all. -/
def typeLister : Plugin .generator where
  metadata := metadata "Rust types" "Writes a placeholder Rust struct for every rule"
  format := some "rust"
  problems o := (o.keys.take 1).map fun key => "unknown option '" ++ key ++ "'"
  run g _ := .done (.text (Grammar.typeListing g))

end Generators

/-- The built-in plugins in the order of registration. -/
def all : List NamedPlugin :=
  [⟨.parser, "json", jsonReader⟩,
    ⟨.parser, "graphql-sdl", schemaReader⟩,
    ⟨.transformer, "normalize", normalizer⟩,
    ⟨.transformer, "simplify", simplifier⟩,
    ⟨.transformer, "add-field", fieldAdder⟩,
    ⟨.transformer, "add-description", describer⟩,
    ⟨.transformer, "validate", validator⟩,
    ⟨.generator, "graphql-sdl", renderer⟩,
    ⟨.generator, "json", jsonWriter⟩,
    ⟨.generator, "rust-types", typeLister⟩]

end BuiltIn

end SchemaGrammar
