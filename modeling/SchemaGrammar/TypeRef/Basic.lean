import SchemaGrammar.Grammar.Element
import SchemaGrammar.TypeRef.Token

/-!
# Type references

A type reference is a name, a list of a type between brackets, or either of them with an
exclamation mark behind it: `type = ( "[" type "]" | name ) "!"?`.

**Results.**
* `TypeRef.parse` reads a reference; opening brackets are counted on the way in, and closed
  one by one on the way out.
* `TypeRef.display` writes it without blanks, `TypeRef.toElement` as an element.
-/

namespace SchemaGrammar

/-- A reference to a type. -/
inductive TypeRef
  | named (name : String)
  | list (inner : TypeRef)
  | nonNull (inner : TypeRef)
  deriving DecidableEq, Inhabited

namespace TypeRef

/-- The ways in which a text is no type reference. -/
inductive Error
  /-- There is no token. -/
  | empty
  | invalidToken (place : Span)
  | unexpectedToken (expected found : String) (place : Span)
  | unexpectedEnd (expected : String)
  /-- A type is complete and tokens are left. -/
  | trailingInput (place : Span)
  deriving DecidableEq, Inhabited

def Error.message : Error → String
  | empty => "type reference is empty"
  | invalidToken place => "invalid token at " ++ place.display
  | unexpectedToken expected found place =>
      "expected " ++ expected ++ ", found " ++ found ++ " at " ++ place.display
  | unexpectedEnd expected => "unexpected end of input, expected " ++ expected
  | trailingInput place => "unexpected trailing input at " ++ place.display

section Parsing

/-- The error of a token that does not fit. -/
def unexpected (expected : String) (t : Token) : Error :=
  .unexpectedToken expected (t.kind.describe ++ " ('" ++ String.ofList t.text ++ "')") t.span

/-- What a type can start with. -/
def startOfType : String := "type name or '['"

/-- Takes an exclamation mark, if one comes. -/
def withBang (t : TypeRef) : List Token → TypeRef × List Token
  | token :: rest => if token.kind = .bang then (.nonNull t, rest) else (t, token :: rest)
  | [] => (t, [])

/-- Closes the brackets that are open around a type. -/
def closeLists : (opened : Nat) → TypeRef → List Token → Except Error (TypeRef × List Token)
  | 0, t, tokens => .ok (t, tokens)
  | _ + 1, _, [] => .error (.unexpectedEnd TokenKind.closeList.describe)
  | opened + 1, t, token :: rest =>
      if token.kind = .closeList then
        let (listed, rest) := withBang (.list t) rest
        closeLists opened listed rest
      else .error (unexpected TokenKind.closeList.describe token)

/-- Reads a type inside `opened` brackets. -/
def parseType (opened : Nat) : List Token → Except Error (TypeRef × List Token)
  | [] => .error (.unexpectedEnd startOfType)
  | token :: rest =>
      match token.kind with
      | .openList => parseType (opened + 1) rest
      | .name =>
          let (t, rest) := withBang (.named (String.ofList token.text)) rest
          closeLists opened t rest
      | _ => .error (unexpected startOfType token)

/-- The type that tokens form. -/
def ofTokens (tokens : List Token) : Except Error TypeRef :=
  if tokens.isEmpty then .error .empty
  else match parseType 0 tokens with
    | .error e => .error e
    | .ok (t, []) => .ok t
    | .ok (_, token :: _) => .error (.trailingInput token.span)

/-- The type that a text denotes. -/
def parse (source : String) : Except Error TypeRef :=
  match tokenize source with
  | .error place => .error (.invalidToken place)
  | .ok tokens => ofTokens tokens

end Parsing

/-- The reference without blanks. -/
def display : TypeRef → String
  | named name => name
  | list inner => "[" ++ inner.display ++ "]"
  | nonNull inner => inner.display ++ "!"

/-- The innermost name. -/
def namedType : TypeRef → String
  | named name => name
  | list inner => inner.namedType
  | nonNull inner => inner.namedType

def isNonNull : TypeRef → Bool
  | nonNull _ => true
  | _ => false

/-- The name of the terminal that stands for a type's name. -/
def terminalName : String := "NamedType"

/-- The element of a reference: the name as a literal, brackets and marks as tokens. -/
def toElement : TypeRef → Element
  | named name => .terminal terminalName (some (.literal name))
  | list inner => .sequence [.token "[", inner.toElement, .token "]"]
  | nonNull inner => .sequence [inner.toElement, .token "!"]

end TypeRef

end SchemaGrammar
