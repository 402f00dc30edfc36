import SchemaGrammar.Grammar.Basic
import SchemaGrammar.Plugin.OptionMap

/-!
# Simplified definitions

A sequence inside a sequence is spliced into it, and a sequence or choice of one element is
that element.  Both are done from the leaves up, in one pass.

**Results.**
* `Element.simplify` and `Grammar.simplify` are the pass.
-/

namespace SchemaGrammar

/-- What simplification does. -/
structure SimplifyOptions where
  /-- Sequences inside sequences are spliced. -/
  flattenSequences : Bool := true
  /-- Sequences and choices of one element are replaced by it. -/
  collapseSingletons : Bool := true
  deriving DecidableEq, Inhabited

namespace SimplifyOptions

def shape : Shape SimplifyOptions where
  title := "struct SimplifyOptions"
  fields :=
    [.withDefault "flattenSequences" .boolean fun b o => { o with flattenSequences := b },
      .withDefault "collapseSingletons" .boolean fun b o => { o with collapseSingletons := b }]
  start := {}
  closed := true

def toJson (o : SimplifyOptions) : Json :=
  .obj [("flattenSequences", .bool o.flattenSequences),
    ("collapseSingletons", .bool o.collapseSingletons)]

end SimplifyOptions

namespace Element

/-- The elements that a part of a sequence contributes to it. -/
def spliced : Element → List Element
  | .sequence es => es
  | e => [e]

/-- The group of some elements, or the element itself if it is alone and groups of one are
replaced. -/
def collapse (o : SimplifyOptions) (group : List Element → Element) : List Element → Element
  | [e] => if o.collapseSingletons then e else group [e]
  | es => group es

/-- Simplifies a node whose children are simplified. -/
def simplifyNode (o : SimplifyOptions) : Element → Element
  | .sequence es =>
      collapse o .sequence (if o.flattenSequences then es.flatMap spliced else es)
  | .oneOf es => collapse o .oneOf es
  | e => e

/-- The simplified form of an element. -/
def simplify (o : SimplifyOptions) (e : Element) : Element := e.rebuild (simplifyNode o)

end Element

/-- The grammar with every definition simplified. -/
def Grammar.simplify (o : SimplifyOptions) (g : Grammar) : Grammar :=
  g.mapRules fun rule => rule.definition.simplify o

end SchemaGrammar
