import SchemaGrammar.Plugin.Basic

/-!
# A plugin for trials

The probe does next to nothing, but shows every way in which a plugin can end.  Its mode
chooses between them, and its option `name` must be a string.

**Results.**
* `Probe.plugin` is the probe of any kind.
-/

namespace SchemaGrammar.Probe

/-- What a probe does when it runs. -/
inductive Mode
  | fail
  | panic
  | panicOwned
  | panicAny
  | succeed
  deriving DecidableEq, Inhabited

/-- The mode with a name: every other name is that of success. -/
def Mode.ofName (name : String) : Mode :=
  if name = "fail" then .fail
  else if name = "panic" then .panic
  else if name = "panic-owned" then .panicOwned
  else if name = "panic-any" then .panicAny
  else .succeed

/-- The end of a run that would have given `result`. -/
def Mode.outcome {α : Type} (mode : Mode) (result : α) : Outcome α :=
  match mode with
  | .fail => .failed (.text "no thanks")
  | .panic => .panicked (some "exploded")
  | .panicOwned => .panicked (some "exploded in panic-owned")
  | .panicAny => .panicked none
  | .succeed => .done result

/-- The name of the rule that a probe adds. -/
def ruleName (o : OptionMap) : String :=
  match o.get? "name" with
  | some (.str name) => name
  | _ => "Added"

/-- What a probe finds wrong with options. -/
def problems (o : OptionMap) : List String :=
  match o.get? "name" with
  | none => []
  | some (.str _) => []
  | some _ => ["name must be a string", "really"]

/-- What a probe of a kind makes. -/
def work : (kind : PluginKind) → kind.Input → OptionMap → kind.Result
  | .parser, (text : String), o =>
      Grammar.ofRules (ruleName o) [⟨ruleName o, .terminal text none⟩]
  | .transformer, (g : Grammar), o => g.withRule ⟨ruleName o, .terminal "y" none⟩
  | .generator, (g : Grammar), o =>
      Output.data
        (.obj [("options", o.toJson), ("root", .str g.root), ("rules", .nat g.rules.size)])

/-- The probe of a kind. -/
def plugin (kind : PluginKind) (mode : String) : Plugin kind where
  metadata := ⟨"Probe", "0.0.1", mode⟩
  format := none
  problems := problems
  run input o := (Mode.ofName mode).outcome (work kind input o)

end SchemaGrammar.Probe
