import SchemaGrammar.Grammar.Validation
import SchemaGrammar.Plugin.Kind
import SchemaGrammar.Render.Document
import SchemaGrammar.Toml.Writer
import SchemaGrammar.Transform.Describe
import SchemaGrammar.Transform.Field

/-!
# Errors of plugins, of registries and of pipelines

A plugin fails for a reason of its own; the registry reports the failure under the plugin's
kind and name, and has errors of its own for names and options.

**Results.**
* `Failure.message`, `ConfigError.message` and `PluginError.message` hold the wording.
-/

namespace SchemaGrammar

/-- The reason why a plugin failed. -/
inductive Failure
  | grammar (cause : GrammarError)
  | render (cause : RenderError)
  | field (cause : FieldError)
  | unknownRules (cause : UnknownRules)
  /-- The plugin does not read the format. -/
  | unsupportedInput (format : String)
  /-- The plugin broke off. -/
  | panicked (message : String)
  | options (cause : DecodeError)
  | text (message : String)
  deriving DecidableEq, Inhabited

def Failure.message : Failure → String
  | .grammar cause => cause.message
  | .render cause => cause.message
  | .field cause => cause.message
  | .unknownRules cause => cause.message
  | .unsupportedInput format => "reading " ++ format ++ " input is not supported"
  | .panicked message => "plugin panicked: " ++ message
  | .options cause => cause.message
  | .text message => message

/-- The ways in which a pipeline's configuration fails. -/
inductive ConfigError
  /-- There is no such file. -/
  | absent (path : String)
  /-- The text is no configuration. -/
  | undecodable
  | unencodable (cause : Toml.WriteError)
  | text (message : String)
  deriving DecidableEq, Inhabited

def ConfigError.message : ConfigError → String
  | .absent path => "failed to read " ++ path ++ ": No such file or directory (os error 2)"
  | .undecodable => "invalid pipeline config"
  | .unencodable cause => "failed to encode pipeline config: " ++ cause.message
  | .text message => message

/-- The errors that a registry reports. -/
inductive PluginError
  | duplicateRegistration (kind : PluginKind) (id : String)
  | notFound (kind : PluginKind) (id : String)
  | invalidOptions (kind : PluginKind) (id : String) (errors : List String)
  | failed (kind : PluginKind) (id message : String) (source : Failure)
  | config (cause : ConfigError)
  deriving DecidableEq, Inhabited

namespace PluginError

/-- The error of a plugin that failed. -/
def ofFailure (kind : PluginKind) (id : String) (source : Failure) : PluginError :=
  .failed kind id source.message source

def message : PluginError → String
  | duplicateRegistration kind id => kind.name ++ " '" ++ id ++ "' is already registered"
  | notFound kind id => kind.name ++ " '" ++ id ++ "' is not registered or is disabled"
  | invalidOptions kind id errors =>
      "invalid options for " ++ kind.name ++ " '" ++ id ++ "': " ++ "; ".intercalate errors
  | failed kind id message _ => kind.name ++ " '" ++ id ++ "' failed: " ++ message
  | config cause => "configuration error: " ++ cause.message

/-- The name of the plugin that the error is about. -/
def id? : PluginError → Option String
  | duplicateRegistration _ id => some id
  | notFound _ id => some id
  | invalidOptions _ id _ => some id
  | failed _ id _ _ => some id
  | config _ => none

/-- The kind of the plugin that the error is about. -/
def kind? : PluginError → Option PluginKind
  | duplicateRegistration kind _ => some kind
  | notFound kind _ => some kind
  | invalidOptions kind _ _ => some kind
  | failed kind _ _ _ => some kind
  | config _ => none

/-- The failure behind the error. -/
def source? : PluginError → Option Failure
  | failed _ _ _ source => some source
  | _ => none

end PluginError

end SchemaGrammar
