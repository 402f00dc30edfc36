import SchemaGrammar.Collection.KeyMap
import SchemaGrammar.Collection.Table
import SchemaGrammar.Decimal.Double
import SchemaGrammar.Decimal.Shortest
import SchemaGrammar.Grammar.Basic
import SchemaGrammar.Grammar.Decode
import SchemaGrammar.Grammar.Element
import SchemaGrammar.Grammar.Encode
import SchemaGrammar.Grammar.Notation
import SchemaGrammar.Grammar.Reachability
import SchemaGrammar.Grammar.Validation
import SchemaGrammar.Json.Basic
import SchemaGrammar.Json.Decode
import SchemaGrammar.Json.Document
import SchemaGrammar.Json.Printer
import SchemaGrammar.Json.Reader
import SchemaGrammar.Plugin.Basic
import SchemaGrammar.Plugin.BuiltIn
import SchemaGrammar.Plugin.Checkpoint
import SchemaGrammar.Plugin.Error
import SchemaGrammar.Plugin.Exchange
import SchemaGrammar.Plugin.Kind
import SchemaGrammar.Plugin.OptionMap
import SchemaGrammar.Plugin.Pipeline
import SchemaGrammar.Plugin.Probe
import SchemaGrammar.Plugin.Registry
import SchemaGrammar.Regex.Basic
import SchemaGrammar.Regex.CharClass
import SchemaGrammar.Regex.Construct
import SchemaGrammar.Regex.Footprint
import SchemaGrammar.Regex.Pattern
import SchemaGrammar.Regex.Program
import SchemaGrammar.Regex.Property
import SchemaGrammar.Regex.Reader
import SchemaGrammar.Regex.Search
import SchemaGrammar.Render.Context
import SchemaGrammar.Render.Document
import SchemaGrammar.Render.Layout
import SchemaGrammar.Render.Name
import SchemaGrammar.Render.Symbols
import SchemaGrammar.Render.Walk
import SchemaGrammar.Schema.BuiltIn
import SchemaGrammar.Schema.Listing
import SchemaGrammar.Schema.RuleName
import SchemaGrammar.Text.Blank
import SchemaGrammar.Text.ByteRange
import SchemaGrammar.Text.Class.Age
import SchemaGrammar.Text.Class.Alphanumeric
import SchemaGrammar.Text.Class.Break
import SchemaGrammar.Text.Class.Category
import SchemaGrammar.Text.Class.Derived
import SchemaGrammar.Text.Class.Emoji
import SchemaGrammar.Text.Class.Folding
import SchemaGrammar.Text.Class.GraphemeExtender
import SchemaGrammar.Text.Class.Listed
import SchemaGrammar.Text.Class.Script
import SchemaGrammar.Text.Class.ScriptExtension
import SchemaGrammar.Text.Class.Unprintable
import SchemaGrammar.Text.Name
import SchemaGrammar.Text.Quoted
import SchemaGrammar.Text.Runs
import SchemaGrammar.Toml.Number
import SchemaGrammar.Toml.Reader
import SchemaGrammar.Toml.Text
import SchemaGrammar.Toml.Tree
import SchemaGrammar.Toml.Writer
import SchemaGrammar.Transform.Describe
import SchemaGrammar.Transform.Field
import SchemaGrammar.Transform.Normalize
import SchemaGrammar.Transform.Simplify
import SchemaGrammar.TypeRef.Basic
import SchemaGrammar.TypeRef.Token
import SchemaGrammar.Proofs.Collection.Distinct
import SchemaGrammar.Proofs.Collection.Front
import SchemaGrammar.Proofs.Collection.Table
import SchemaGrammar.Proofs.Grammar.Element
import SchemaGrammar.Proofs.Grammar.WellFormed
import SchemaGrammar.Proofs.Collection.Except
import SchemaGrammar.Proofs.Transform.References
import SchemaGrammar.Proofs.Plugin.Call
import SchemaGrammar.Proofs.Plugin.Integrity
import SchemaGrammar.Proofs.Grammar.Language
import SchemaGrammar.Proofs.Transform.Language
import SchemaGrammar.Proofs.Grammar.Cycle
import SchemaGrammar.Proofs.Render.Failure
import SchemaGrammar.Proofs.Render.Closure
import SchemaGrammar.Proofs.Grammar.FirstMatch
import SchemaGrammar.Proofs.Transform.FirstMatch
import SchemaGrammar.Proofs.Render.Rewriting
import SchemaGrammar.Proofs.Transform.Rendering
import SchemaGrammar.Proofs.Json.Canonical
import SchemaGrammar.Proofs.Json.Decoding
import SchemaGrammar.Proofs.Json.Meaning
import SchemaGrammar.Proofs.Json.Spelling
import SchemaGrammar.Proofs.Grammar.Form
import SchemaGrammar.Proofs.Grammar.Exchange
import SchemaGrammar.Proofs.Transform.FieldRendering
import SchemaGrammar.Proofs.Render.Joining
import SchemaGrammar.Proofs.Render.Literal
import SchemaGrammar.Proofs.Transform.FieldParts
import SchemaGrammar.Proofs.Grammar.Reachability
import SchemaGrammar.Proofs.Render.Pruning
import SchemaGrammar.Proofs.Json.Agreement
import SchemaGrammar.Proofs.Grammar.Agreement
import SchemaGrammar.Proofs.Render.Sentence
import SchemaGrammar.Proofs.Render.OneLine
import SchemaGrammar.Proofs.Render.Spacing
import SchemaGrammar.Proofs.Render.Relayout
import SchemaGrammar.Proofs.Grammar.Address
import SchemaGrammar.Proofs.Grammar.Findings
import SchemaGrammar.Proofs.Json.Fields
import SchemaGrammar.Proofs.Plugin.Acceptance
import SchemaGrammar.Proofs.Plugin.History
import SchemaGrammar.Proofs.Plugin.Chain
import SchemaGrammar.Proofs.Plugin.Probe
import SchemaGrammar.Proofs.Transform.FirstFieldList
import SchemaGrammar.Proofs.Transform.FieldListAddress
import SchemaGrammar.Proofs.Transform.Simple
import SchemaGrammar.Proofs.Transform.LastField
import SchemaGrammar.Proofs.Render.StubKinds
import SchemaGrammar.Proofs.Render.Definitions
import SchemaGrammar.Proofs.Render.Samples
import SchemaGrammar.Proofs.Transform.FieldStubs
import SchemaGrammar.Proofs.TypeRef.Lexing
import SchemaGrammar.Proofs.TypeRef.Derivation
import SchemaGrammar.Proofs.TypeRef.Reading
import SchemaGrammar.Proofs.TypeRef.Refusal
import SchemaGrammar.Proofs.Transform.FieldCheck
import SchemaGrammar.Proofs.Render.Gluing
import SchemaGrammar.Proofs.Render.ValueText
import SchemaGrammar.Proofs.Transform.FieldText
import SchemaGrammar.Proofs.Transform.FieldDocument
import SchemaGrammar.Proofs.Transform.NormalForm
import SchemaGrammar.Proofs.Transform.Canonical
import SchemaGrammar.Proofs.Transform.Verdict
import SchemaGrammar.Proofs.Transform.Description
import SchemaGrammar.Proofs.Grammar.Rounds
import SchemaGrammar.Proofs.Render.Depth
import SchemaGrammar.Proofs.Render.Hiding
import SchemaGrammar.Proofs.Render.SchemaBlock
import SchemaGrammar.Proofs.Text.Quoted
import SchemaGrammar.Proofs.Grammar.Notation
import SchemaGrammar.Proofs.Schema.Listing
import SchemaGrammar.Proofs.Render.ReferenceOrder
import SchemaGrammar.Proofs.TypeRef.Coverage
