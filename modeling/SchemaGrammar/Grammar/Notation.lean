import SchemaGrammar.Grammar.Element
import SchemaGrammar.Text.Quoted

/-!
# The notation of elements

Elements are shown in a notation of grammars: a literal terminal as its quoted text, a
regular expression between slashes, a terminal without pattern between angle brackets, a
reference as its name, a choice with bars, an optional part with a question mark behind it
and a repetition with a plus.  An operand of more than one part is put into parentheses.

**Results.**
* `Element.display` and `Pattern.display` give the notation.
-/

namespace SchemaGrammar

/-- The notation of a pattern. -/
def Pattern.display : Pattern → String
  | .literal text => Text.quote text
  | .regex source flags => "/" ++ source ++ "/" ++ flags

namespace Element

/-- Whether an element needs parentheses before a mark. -/
def isCompound : Element → Bool
  | .sequence es => decide (1 < es.length)
  | .oneOf es => decide (1 < es.length)
  | _ => false

/-- Whether an element is a choice between several alternatives. -/
def isChoice : Element → Bool
  | .oneOf es => decide (1 < es.length)
  | _ => false

/-- The text in parentheses if `grouped`. -/
def group (grouped : Bool) (text : String) : String :=
  if grouped then "(" ++ text ++ ")" else text

mutual

/-- The notation of an element. -/
def display : Element → String
  | .terminal name none => "<" ++ name ++ ">"
  | .terminal _ (some pattern) => pattern.display
  | .nonTerminal name => name
  | .sequence es => displaySequence es
  | .oneOf es => displayOptions es
  | .optional e => group e.isCompound (display e) ++ "?"
  | .list e => group e.isCompound (display e) ++ "+"

/-- The parts of a sequence with spaces between them. -/
def displaySequence : List Element → String
  | [] => "()"
  | [e] => group e.isChoice (display e)
  | e :: f :: es => group e.isChoice (display e) ++ " " ++ displaySequence (f :: es)

/-- The alternatives of a choice with bars between them. -/
def displayOptions : List Element → String
  | [] => "()"
  | [e] => display e
  | e :: f :: es => display e ++ " | " ++ displayOptions (f :: es)

end

end Element

end SchemaGrammar
