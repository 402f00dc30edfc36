import SchemaGrammar.Json.Basic

/-!
# The tables of a TOML text under construction

Headers and joined keys create tables on the way to the one they name.  How a table came
about decides who may still add to it: joined keys extend only tables that joined keys
created, and a header may name a table only once.

**Results.**
* `Toml.addPair`, `Toml.addTable` and `Toml.addTableItem` place a pair, a header and an item
  of an array of tables; they give nothing where the text contradicts itself.
-/

namespace SchemaGrammar.Toml

/-- How a table came about. -/
inductive Origin
  /-- It is named by a header, or is the table of the whole text. -/
  | named
  /-- It stands on the way to a header's table. -/
  | passed
  /-- It is made by joined keys. -/
  | joined
  deriving DecidableEq, Inhabited

/-- What stands under a key. -/
inductive Node
  | value (v : Json)
  | table (origin : Origin) (members : List (String × Node))
  /-- An array of tables: all but the last one are complete. -/
  | tables (complete : List Json) (last : List (String × Node))
  deriving Inhabited

/-- The members of a table in the order of the text. -/
abbrev Members := List (String × Node)

section Values

mutual

/-- The value of a node. -/
def Node.toJson : Node → Json
  | .value v => v
  | .table _ members => .obj (membersToJson members)
  | .tables complete last => .arr (complete ++ [.obj (membersToJson last)])

/-- The values of the members. -/
def membersToJson : List (String × Node) → List (String × Json)
  | [] => []
  | (k, n) :: ms => (k, n.toJson) :: membersToJson ms

end

end Values

section Changes

/-- The members with another node under a key that is there. -/
def replaceNode (key : String) (node : Node) : Members → Members
  | [] => []
  | (k, n) :: ms => if k = key then (k, node) :: ms else (k, n) :: replaceNode key node ms

/-- Changes the table at the end of a path.  Missing tables are created; `joined` tells whether
the path is one of joined keys, which lead through no table that a header names. -/
def descend (joined : Bool) (change : Origin → Members → Option Members) :
    (path : List String) → Origin → Members → Option Members
  | [], origin, ms => change origin ms
  | key :: path, _, ms =>
      match ms.lookup key with
      | none => do
          let origin := if joined then .joined else .passed
          let inner ← descend joined change path origin []
          return ms ++ [(key, .table origin inner)]
      | some (.value _) => none
      | some (.table origin inner) => do
          if joined && origin == .named then none
          let inner ← descend joined change path origin inner
          return replaceNode key (.table origin inner) ms
      | some (.tables complete last) => do
          let last ← descend joined change path .named last
          return replaceNode key (.tables complete last) ms

/-- Puts a value under a new key of the table at the end of the joined keys `path`. -/
def addPair (path : List String) (key : String) (v : Json) (ms : Members) : Option Members :=
  descend true
    (fun origin inner =>
      if (!path.isEmpty && origin != .joined) || (inner.lookup key).isSome then none
      else some (inner ++ [(key, .value v)]))
    path .named ms

/-- Opens the table that a header names, new or met on the way to another header. -/
def addTable (path : List String) (key : String) (ms : Members) : Option Members :=
  descend false
    (fun _ inner =>
      match inner.lookup key with
      | none => some (inner ++ [(key, .table .named [])])
      | some (.table .passed members) => some (replaceNode key (.table .named members) inner)
      | some _ => none)
    path .named ms

/-- Opens a further item of the array of tables that a header names. -/
def addTableItem (path : List String) (key : String) (ms : Members) : Option Members :=
  descend false
    (fun _ inner =>
      match inner.lookup key with
      | none => some (inner ++ [(key, .tables [] [])])
      | some (.tables complete last) =>
          some (replaceNode key (.tables (complete ++ [.obj (membersToJson last)]) []) inner)
      | some _ => none)
    path .named ms

/-- Puts a pair into the table that the header `table` names. -/
def addPairUnder (table path : List String) (key : String) (v : Json) (ms : Members) :
    Option Members :=
  descend false (fun _ inner => addPair path key v inner) table .named ms

end Changes

end SchemaGrammar.Toml
