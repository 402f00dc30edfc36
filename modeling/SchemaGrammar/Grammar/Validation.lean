import SchemaGrammar.Grammar.Reachability
import SchemaGrammar.Json.Decode

/-!
# Validation of grammars

A grammar is valid if its root is the key of a rule, every rule is stored under its own name,
and every reference names a rule.  A rule that cannot be reached from the root is worth a
warning and no more.

**Results.**
* `Grammar.validate` reports the root first, then the names, then the references rule by
  rule, each undefined name once for every rule that refers to it.
* `GrammarError.message` and `Issue.message` hold the wording.
-/

namespace SchemaGrammar

/-- A finding about a grammar. -/
inductive Issue
  | missingRoot (root : String)
  | undefinedReference (rule reference : String)
  | nameMismatch (key name : String)
  | unreferencedRule (name : String)
  deriving DecidableEq, Inhabited

def Issue.message : Issue → String
  | .missingRoot root => "root rule '" ++ root ++ "' is not defined"
  | .undefinedReference rule reference =>
      "undefined rule '" ++ reference ++ "' referenced in rule '" ++ rule ++ "'"
  | .nameMismatch key name => "rule stored under '" ++ key ++ "' is named '" ++ name ++ "'"
  | .unreferencedRule name => "rule '" ++ name ++ "' is not reachable from the root"

/-- All findings about a grammar. -/
structure Report where
  errors : List Issue
  warnings : List Issue
  deriving DecidableEq, Inhabited

/-- The ways in which an operation on a grammar fails. -/
inductive GrammarError
  | validationFailed (report : Report)
  /-- A terminal's pattern is no regular expression. -/
  | invalidPattern (pattern message : String)
  /-- The structured form could not be read. -/
  | unreadable (cause : DecodeError)
  | unknownRule (name : String)
  deriving DecidableEq, Inhabited

def GrammarError.message : GrammarError → String
  | .validationFailed report =>
      let issues := report.errors ++ report.warnings
      "grammar validation failed: " ++
        if issues.isEmpty then "no issues recorded"
        else "; ".intercalate (issues.map Issue.message)
  | .invalidPattern pattern message => "invalid terminal pattern '" ++ pattern ++ "': " ++ message
  | .unreadable cause => "structured grammar error: " ++ cause.message
  | .unknownRule name => "rule '" ++ name ++ "' is not defined"

namespace Report

def isValid (r : Report) : Bool := r.errors.isEmpty

/-- Success if nothing speaks against it: errors always do, warnings if they are to count. -/
def result (r : Report) (warningsCount : Bool) : Except GrammarError Unit :=
  if r.errors.isEmpty && (!warningsCount || r.warnings.isEmpty) then .ok ()
  else .error (.validationFailed r)

end Report

namespace Grammar

/-- The definition under a key. -/
def definition (g : Grammar) (key : String) : Except GrammarError Element :=
  match g.rule? key with
  | some rule => .ok rule.definition
  | none => .error (.unknownRule key)

section Findings

variable (g : Grammar)

/-- The finding about the root. -/
def rootIssues : List Issue :=
  if g.contains g.root then [] else [.missingRoot g.root]

/-- The findings about names, in the order of the rules. -/
def nameIssues : List Issue :=
  g.rules.entries.filterMap fun (key, rule) =>
    if key = rule.name then none else some (.nameMismatch key rule.name)

/-- The names in a definition that are no keys, each at its first occurrence. -/
def undefinedNames (definition : Element) : List String :=
  (definition.references.filter fun name => !g.contains name).foldl
    (fun seen name => if seen.contains name then seen else seen ++ [name]) []

/-- The findings about references, rule by rule. -/
def referenceIssues : List Issue :=
  g.rules.entries.flatMap fun (key, rule) =>
    (g.undefinedNames rule.definition).map (.undefinedReference key)

/-- The findings about rules that cannot be reached, in the order of the rules. -/
def reachabilityIssues : List Issue :=
  let reached := g.reachable
  (g.keys.filter fun key => !reached.contains key).map .unreferencedRule

/-- All findings. -/
def validate : Report where
  errors := g.rootIssues ++ g.nameIssues ++ g.referenceIssues
  warnings := g.reachabilityIssues

end Findings

end Grammar

end SchemaGrammar
