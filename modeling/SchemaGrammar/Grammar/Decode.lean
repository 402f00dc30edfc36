import SchemaGrammar.Grammar.Encode
import SchemaGrammar.Json.Decode

/-!
# Reading grammars from their structured form

An element is recognised by its tag.  Since the tag may stand anywhere among the members,
the members are set aside, the first one that is wrong in itself ending the reading, and the
fields of the kind are looked up in them once the tag is known.

**Results.**
* `Grammar.ofText` and `Grammar.ofValue` read a grammar from a text and from a value.
* `Element.ofText` and `Element.ofValue` read an element.
-/

namespace SchemaGrammar

namespace Pattern

/-- A regular expression and its flags. -/
def regexShape : Shape (String × String) where
  title := "struct variant TerminalPattern::Regex"
  fields :=
    [.mandatory "source" .string fun source p => (source, p.2),
      .withDefault "flags" .string fun flags p => (p.1, flags)]
  start := ("", "")
  closed := false

/-- A pattern that has been set aside: a string or a record of source and flags. -/
def ofBuffer (v : Json) : Decoded Pattern :=
  match v with
  | .str text => .ok (.literal text)
  | v => match regexShape.decode .buffer (.ofJson v) with
      | .ok (source, flags) => .ok (.regex source flags)
      | .error _ => .error (.noAlternative "TerminalPattern")

/-- A pattern from any source, set aside first. -/
def decoder : Decoder Pattern := fun r d => do
  let v ← Decoder.json r d
  ofBuffer v

/-- A pattern given as a value. -/
def ofValue (v : Json) : Decoded Pattern := decoder.ofValue v

end Pattern

namespace Element

/-- The kind that a tag names.  In a value set aside the position of the kind will do. -/
def kindDecoder : Decoder Kind := fun r d =>
  match d with
  | .str lit => do
      let name ← Decoded.ofSyntax lit.read
      match Kind.ofName? name with
      | some kind => return kind
      | none => throw (.unknownVariant name (Kind.all.map Kind.name))
  | .num (some (.int (.ofNat n))) =>
      if r.source = .buffer then
        match Kind.all[n]? with
        | some kind => .ok kind
        | none => .error (.invalidValue (.num (.int n)) "variant index 0 <= i < 6")
      else .error (d.mismatch "variant identifier")
  | d => .error (d.mismatch "variant identifier")

/-- The tag among the members of an element, and all other members set aside. -/
def splitTag (r : Reading) :
    Option Kind → List (StringLit × Doc) → Decoded (Option Kind × List (String × Json))
  | kind, [] => .ok (kind, [])
  | kind, (k, d) :: ms => do
      let key ← Decoded.ofSyntax k.read
      if key = "kind" then
        if kind.isSome then throw (.duplicateField "kind")
        let found ← kindDecoder r d
        splitTag r (some found) ms
      else
        let v ← Decoder.json r d
        let (found, rest) ← splitTag r kind ms
        return (found, (key, v) :: rest)

/-- Reads a tagged element; `build` makes an element of a kind from what was set aside. -/
def taggedDecoder (build : Kind → Json → Decoded Element) : Decoder Element := fun r d =>
  match d with
  | .obj ms stop => do
      let inner ← r.enter
      let (kind, rest) ← splitTag inner none ms
      Decoded.ofSyntax stop.read
      match kind with
      | none => throw (.missingField "kind")
      | some kind => build kind (.obj rest)
  | .arr ds stop => do
      let inner ← r.enter
      match ds with
      | [] =>
          Decoded.ofSyntax stop.read
          throw (.missingField "kind")
      | d :: ds =>
          let kind ← kindDecoder inner d
          let vs ← Decoder.items Decoder.json inner ds
          Decoded.ofSyntax stop.read
          build kind (.arr vs)
  | d => .error (d.mismatch "internally tagged enum GrammarElement")

/-- The fields of a kind, nested elements read by `nested`. -/
def shape (nested : Decoder Element) (kind : Kind) : Shape Element where
  title := "struct variant GrammarElement::" ++ kind.name
  fields := match kind with
    | .terminal =>
        [.mandatory "name" .string fun name e => match e with
            | .terminal _ p => .terminal name p
            | e => e,
          .withDefault "pattern" (.optional fun r d => Pattern.decoder r d) fun pattern e =>
            match e with
            | .terminal n _ => .terminal n pattern
            | e => e]
    | .nonTerminal => [.mandatory "name" .string fun name _ => .nonTerminal name]
    | .sequence => [.mandatory "elements" (.list nested) fun es _ => .sequence es]
    | .oneOf => [.mandatory "options" (.list nested) fun es _ => .oneOf es]
    | .optional => [.mandatory "element" nested fun e _ => .optional e]
    | .list => [.mandatory "element" nested fun e _ => .list e]
  start := .terminal "" none
  closed := false

/-- An element of a kind from its fields, which have been set aside; `levels` bounds the depth
of the elements inside it. -/
def ofFields : (levels : Nat) → Kind → Json → Decoded Element
  | 0, _, _ => .error (.malformed .tooDeep)
  | levels + 1, kind, fields =>
      (shape (taggedDecoder (ofFields levels)) kind).decode .buffer (.ofJson fields)

/-- Reads an element. -/
def decoder : Decoder Element :=
  taggedDecoder fun kind fields => ofFields (fields.depth + 1) kind fields

/-- The element that a text holds. -/
def ofText (text : String) : Decoded Element := decoder.ofText text

/-- The element that a value stands for. -/
def ofValue (v : Json) : Decoded Element := decoder.ofValue v

end Element

namespace Rule

def shape : Shape Rule where
  title := "struct ProductionRule"
  fields :=
    [.mandatory "name" .string fun name r => { r with name },
      .mandatory "definition" Element.decoder fun definition r => { r with definition }]
  start := ⟨"", .nonTerminal ""⟩
  closed := false

end Rule

namespace Metadata

/-- What has been read of the metadata: the known entries that occurred, and their values. -/
structure Progress where
  seen : List String
  value : Metadata

/-- Reads one entry. -/
def readEntry (r : Reading) (p : Progress) (key : String) (d : Doc) : Decoded Progress :=
  let known (set : Option String → Metadata) : Decoded Progress := do
    if p.seen.contains key then throw (.duplicateField key)
    let text ← Decoder.optional Decoder.string r d
    return ⟨key :: p.seen, set text⟩
  if key = "name" then known fun name => { p.value with name }
  else if key = "version" then known fun version => { p.value with version }
  else if key = "description" then known fun description => { p.value with description }
  else do
    let v ← Decoder.json r d
    return { p with value := { p.value with extra := p.value.extra.insert key v.sorted } }

/-- Reads the entries one after the other. -/
def readEntries (r : Reading) : Progress → List (StringLit × Doc) → Decoded Metadata
  | p, [] => .ok p.value
  | p, (k, d) :: ms => do
      let key ← Decoded.ofSyntax k.read
      let next ← readEntry r p key d
      readEntries r next ms

/-- Reads metadata, which is always an object. -/
def decoder : Decoder Metadata := fun r d =>
  match d with
  | .obj ms stop => do
      let inner ← r.enter
      let m ← readEntries inner ⟨[], empty⟩ ms
      Decoded.ofSyntax stop.read
      return m
  | d => .error (d.mismatch "struct GrammarMetadata")

/-- The metadata that a value stands for. -/
def ofValue (v : Json) : Decoded Metadata := decoder.ofValue v

end Metadata

namespace Grammar

/-- Reads the rules: a repeated key keeps its place and takes the last rule. -/
def rulesDecoder : Decoder (Table Rule) := fun r d =>
  (Decoder.map Rule.shape.decode r d).map Table.ofList

def shape : Shape Grammar where
  title := "struct Grammar"
  fields :=
    [.mandatory "root" .string fun root g => { g with root },
      .mandatory "rules" rulesDecoder fun rules g => { g with rules },
      .withDefault "metadata" (.optional Metadata.decoder) fun metadata g => { g with metadata }]
  start := .empty ""
  closed := false

/-- The grammar that a text holds. -/
def ofText (text : String) : Decoded Grammar := Decoder.ofText shape.decode text

/-- The grammar that a value stands for. -/
def ofValue (v : Json) : Decoded Grammar := Decoder.ofValue shape.decode v

end Grammar

end SchemaGrammar
