import SchemaGrammar.Plugin.Error
import SchemaGrammar.Plugin.OptionMap

/-!
# Plugins

A plugin carries a description of itself, a check of its options and the work that it does.
The work ends in a result, in a failure, or is broken off.

**Results.**
* `Plugin.ofShape` makes a plugin that has its options decoded before it runs.
* `Outcome.result` makes a failure of every end that gives no result.
-/

namespace SchemaGrammar

/-- What a plugin tells about itself. -/
structure PluginMetadata where
  name : String
  version : String
  description : String
  deriving DecidableEq, Inhabited

def PluginMetadata.toJson (m : PluginMetadata) : Json :=
  .obj [("name", .str m.name), ("version", .str m.version), ("description", .str m.description)]

/-- How the work of a plugin ends. -/
inductive Outcome (α : Type)
  | done (result : α)
  | failed (cause : Failure)
  /-- The work was broken off, with a message if it was text. -/
  | panicked (message : Option String)
  deriving DecidableEq, Inhabited

namespace Outcome

variable {α : Type}

/-- The work of a plugin that never breaks off. -/
def ofExcept : Except Failure α → Outcome α
  | .ok result => .done result
  | .error cause => .failed cause

/-- The result, or the failure. -/
def result : Outcome α → Except Failure α
  | .done result => .ok result
  | .failed cause => .error cause
  | .panicked (some message) => .error (.panicked message)
  | .panicked none => .error (.panicked "unknown panic payload")

theorem result_ofExcept (e : Except Failure α) : (ofExcept e).result = e := by
  cases e <;> rfl

end Outcome

/-- A plugin of a kind. -/
structure Plugin (kind : PluginKind) where
  metadata : PluginMetadata
  /-- The format that a parser reads or a generator writes. -/
  format : Option String
  /-- Everything that is wrong with some options. -/
  problems : OptionMap → List String
  /-- The work, done without a look at the problems. -/
  run : kind.Input → OptionMap → Outcome kind.Result

/-- A plugin whose options have a shape.  Options of that shape may still have problems. -/
def Plugin.ofShape {kind : PluginKind} {σ : Type}
    (metadata : PluginMetadata) (format : Option String)
    (shape : Shape σ) (problems : σ → List String)
    (run : kind.Input → σ → Except Failure kind.Result) : Plugin kind where
  metadata := metadata
  format := format
  problems o := match o.check shape with
    | .ok s => problems s
    | .error errors => errors
  run input o := match o.decode shape with
    | .ok s => .ofExcept (run input s)
    | .error e => .failed (.options e)

end SchemaGrammar
