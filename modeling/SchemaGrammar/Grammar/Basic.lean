import SchemaGrammar.Collection.Table
import SchemaGrammar.Grammar.Notation
import SchemaGrammar.Json.Basic

/-!
# Grammars

A grammar has a root, a table of rules in the order in which they are presented, and
possibly metadata.  The key of a rule and the name that the rule carries are kept apart:
they differ in a grammar that is not well formed.

**Results.**
* `Grammar.rule?_withRule`: what adding a rule does to every look-up.
* `Grammar.keys_mapRules`, `Grammar.rule?_mapRules`: changing definitions keeps the keys and
  changes each rule in its place.
-/

namespace SchemaGrammar

/-- A named definition. -/
structure Rule where
  name : String
  definition : Element
  deriving DecidableEq, Inhabited

namespace Rule

/-- The rule in the notation of elements. -/
def display (r : Rule) : String := r.name ++ " ::= " ++ r.definition.display

/-- The rule with another definition. -/
def withDefinition (r : Rule) (definition : Element) : Rule := { r with definition }

end Rule

/-- What is told about a grammar beside its rules. -/
structure Metadata where
  name : Option String
  version : Option String
  description : Option String
  /-- Entries under any other key. -/
  extra : KeyMap Json
  deriving DecidableEq, Inhabited

namespace Metadata

def empty : Metadata := ⟨none, none, none, .empty⟩

/-- Whether two descriptions are equal when zero has one sign only. -/
def sameValue (a b : Metadata) : Bool :=
  a.name == b.name && a.version == b.version && a.description == b.description &&
    a.extra.agrees Json.sameValue b.extra

end Metadata

/-- A grammar. -/
structure Grammar where
  root : String
  rules : Table Rule
  metadata : Option Metadata
  deriving DecidableEq, Inhabited

namespace Grammar

section Building

/-- A grammar without rules. -/
def empty (root : String) : Grammar := ⟨root, .empty, none⟩

/-- The grammar with a rule under the rule's own name: in the place of the rule that is there,
or behind all others. -/
def withRule (g : Grammar) (rule : Rule) : Grammar :=
  { g with rules := g.rules.insert rule.name rule }

/-- The grammar of a root and rules, added one after the other. -/
def ofRules (root : String) (rules : List Rule) : Grammar := rules.foldl withRule (empty root)

def withMetadata (g : Grammar) (metadata : Option Metadata) : Grammar := { g with metadata }

/-- The grammar with its rules in the order of their keys. -/
def withSortedRules (g : Grammar) : Grammar := { g with rules := g.rules.sortKeys }

/-- The grammar with new definitions; root, metadata, keys, names and order stay. -/
def mapRules (f : Rule → Element) (g : Grammar) : Grammar :=
  { g with rules := g.rules.mapValues fun _ rule => rule.withDefinition (f rule) }

end Building

section Access

/-- The rule under a key. -/
def rule? (g : Grammar) (key : String) : Option Rule := g.rules.get? key

def contains (g : Grammar) (key : String) : Bool := g.rules.contains key

/-- The keys of the rules in order. -/
def keys (g : Grammar) : List String := g.rules.keys

/-- The root and every rule on a line of its own. -/
def display (g : Grammar) : String :=
  "root: " ++ g.root ++ "\n" ++ String.join (g.rules.values.map fun r => r.display ++ "\n")

/-- Whether two grammars have the same root, rules and metadata; the order of the rules and
the sign of zero do not count. -/
def sameValue (g h : Grammar) : Bool :=
  g.root == h.root && g.rules.agrees (· == ·) h.rules &&
    match g.metadata, h.metadata with
    | none, none => true
    | some a, some b => a.sameValue b
    | _, _ => false

end Access

section Laws

theorem rule?_withRule
    (g : Grammar)
    (rule : Rule)
    (key : String) :
    (g.withRule rule).rule? key = if key = rule.name then some rule else g.rule? key :=
  Table.get?_insert g.rules rule.name key rule

@[simp] theorem keys_mapRules
    (f : Rule → Element)
    (g : Grammar) :
    (g.mapRules f).keys = g.keys :=
  Table.keys_mapValues _ g.rules

theorem rule?_mapRules
    (f : Rule → Element)
    (g : Grammar)
    (key : String) :
    (g.mapRules f).rule? key = (g.rule? key).map fun r => r.withDefinition (f r) :=
  Table.get?_mapValues _ g.rules key

end Laws

end Grammar

end SchemaGrammar
