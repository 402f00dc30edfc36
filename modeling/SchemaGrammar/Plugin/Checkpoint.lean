import SchemaGrammar.Grammar.Validation
import SchemaGrammar.Plugin.OptionMap

/-!
# Checkpoints

A checkpoint lets a grammar pass unchanged, or stops it if its validation speaks against it.

**Results.**
* `Grammar.checkpoint` is the gate, `CheckpointOptions` tells how strict it is.
-/

namespace SchemaGrammar

/-- How strict a checkpoint is. -/
structure CheckpointOptions where
  /-- A grammar with errors is stopped. -/
  failOnError : Bool := false
  /-- So is one with warnings, if any is. -/
  treatWarningsAsErrors : Bool := false
  deriving DecidableEq, Inhabited

namespace CheckpointOptions

def shape : Shape CheckpointOptions where
  title := "struct ValidateOptions"
  fields :=
    [.withDefault "failOnError" .boolean fun b o => { o with failOnError := b },
      .withDefault "treatWarningsAsErrors" .boolean fun b o =>
        { o with treatWarningsAsErrors := b }]
  start := {}
  closed := true

def toJson (o : CheckpointOptions) : Json :=
  .obj [("failOnError", .bool o.failOnError),
    ("treatWarningsAsErrors", .bool o.treatWarningsAsErrors)]

end CheckpointOptions

/-- The grammar itself, if it passes. -/
def Grammar.checkpoint (o : CheckpointOptions) (g : Grammar) : Except GrammarError Grammar :=
  if o.failOnError then (g.validate.result o.treatWarningsAsErrors).map fun _ => g
  else .ok g

end SchemaGrammar
