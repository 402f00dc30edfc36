import SchemaGrammar.Grammar.Validation
import SchemaGrammar.Regex.Footprint
import SchemaGrammar.Regex.Reader
import SchemaGrammar.Regex.Search

/-!
# Patterns as regular expressions

A literal pattern matches its text and nothing else.  Any other pattern is a regular
expression, understood as its flags say.

**Results.**
* `Pattern.regex?` is the expression of a pattern, or what is wrong with it.
-/

namespace SchemaGrammar

/-- What is wrong with a pattern. -/
inductive PatternFault
  | unsupportedFlag (flag : Char)
  /-- The source is no regular expression. -/
  | malformed
  /-- The expression does not keep within the limit of size. -/
  | tooLarge
  deriving DecidableEq, Inhabited

def PatternFault.message : PatternFault → String
  | .unsupportedFlag flag => "unsupported flag '" ++ String.ofList [flag] ++ "'"
  | .malformed => "malformed regular expression"
  | .tooLarge => "regular expression too large"

namespace Pattern

/-- The flags that letters stand for; the first letter that is none is at fault. -/
def readFlags (letters : List Char) : Except PatternFault Regex.Flags :=
  letters.foldlM
    (fun f c =>
      match (if c = 'u' ∨ c = 'R' then none else f.set? c true) with
      | some next => .ok next
      | none => .error (.unsupportedFlag c))
    {}

/-- The regular expression that a pattern writes, whatever its size. -/
def read? : Pattern → Except PatternFault Regex
  | .literal text => .ok (Regex.literal text)
  | .regex source flags => do
      let f ← readFlags flags.toList
      match Regex.parse f source with
      | some r => .ok r
      | none => .error .malformed

/-- The regular expression of a pattern. -/
def regex? (p : Pattern) : Except PatternFault Regex := do
  let r ← p.read?
  if r.fits then .ok r else .error .tooLarge

/-- The error of a pattern that is no regular expression. -/
def error (p : Pattern) (fault : PatternFault) : GrammarError :=
  .invalidPattern
    (match p with
      | .literal text => text
      | .regex source _ => source)
    fault.message

end Pattern

end SchemaGrammar
