import SchemaGrammar.Render.Walk

/-!
# Rendered documents

A grammar is rendered from its root; the schema definition follows if it has not come up on
the way, and then a stub for every name that is still undefined.

**Results.**
* `Grammar.outline` gives the blocks and the trace of the walk, `Grammar.render` the text.
-/

namespace SchemaGrammar

namespace Render

/-- The outcome of the walk over a grammar. -/
structure Outline where
  /-- The text of the root rule and, if it came up separately, of the schema definition. -/
  blocks : List String
  /-- What happened on the way. -/
  trace : Trace
  deriving DecidableEq, Inhabited

namespace Outline

/-- The definitions added for names without one. -/
def stubs (outline : Outline) : List Stub := (Symbols.ofTrace outline.trace).stubs

/-- The text of the document. -/
def text (l : Layout) (outline : Outline) : String :=
  l.document (outline.blocks ++ outline.stubs.map (Stub.text l))

end Outline

/-- The blocks of a document: the root, and the schema definition unless it has been rendered. -/
def blocks (g : Grammar) (o : Options) : Walk (List String) := do
  let main ← Walk.rule g o o.maxDepth g.root .start
  let trace ← get
  if !trace.contains (.entered RuleName.schemaDefinition) &&
      g.contains RuleName.schemaDefinition then
    let schema ← Walk.rule g o o.maxDepth RuleName.schemaDefinition .start
    return [main, schema]
  else return [main]

end Render

namespace Grammar

/-- The walk over a grammar from its root. -/
def outline (g : Grammar) (o : Render.Options) : Except RenderError Render.Outline :=
  if g.contains g.root then
    match (Render.blocks g o).run [] with
    | .ok (blocks, trace) => .ok ⟨blocks, trace⟩
    | .error e => .error e
  else .error (.missingRoot g.root)

/-- A document of the language of the grammar. -/
def render (g : Grammar) (o : Render.Options) : Except RenderError String :=
  (g.outline o).map (Render.Outline.text o.layout)

end Grammar

end SchemaGrammar
