import SchemaGrammar.Decimal.Shortest
import SchemaGrammar.Json.Reader
import SchemaGrammar.Text.Quoted

/-!
# Decoding documents into typed data

A decoder walks a document in text order and stops at the first thing that is wrong, be it a
fault of the text or a value of the wrong shape.  A record is described once, by a `Shape`:
its fields in their order of declaration, which of them are required, and how each is read.
It may be written as an object or as an array of its fields.

Three kinds of source differ in small ways: a text, whose depth is limited; a value; and a
value that was set aside while a tag was looked for.

**Results.**
* `Shape.decode` reads a record from any source.
* `DecodeError.message` is the one place that words the errors.
-/

namespace SchemaGrammar

/-- What was found in place of the thing wanted. -/
inductive Found
  | null
  | bool (value : Bool)
  | num (value : Number)
  | str (text : String)
  | sequence
  | map
  deriving DecidableEq, Inhabited

/-- The description of a value that was found. -/
def Found.describe : Found → String
  | .null => "null"
  | .bool b => "boolean `" ++ (if b then "true" else "false") ++ "`"
  | .num (.int i) => "integer `" ++ toString i ++ "`"
  | .num (.double d) => "floating point `" ++ String.ofList d.jsonText ++ "`"
  | .str s => "string " ++ Text.quote s
  | .sequence => "sequence"
  | .map => "map"

/-- The ways in which decoding fails. -/
inductive DecodeError
  /-- The text is no JSON. -/
  | malformed (cause : SyntaxError)
  | invalidType (found : Found) (wanted : String)
  | invalidValue (found : Found) (wanted : String)
  | invalidLength (length : Nat) (wanted : String)
  | missingField (name : String)
  | duplicateField (name : String)
  | unknownField (name : String) (known : List String)
  | unknownVariant (name : String) (known : List String)
  /-- None of the alternatives of an untagged type fits. -/
  | noAlternative (type : String)
  /-- A message handed in from outside. -/
  | custom (text : String)
  deriving DecidableEq, Inhabited

namespace DecodeError

/-- The list of names that would have been accepted. -/
def expectedNames : List String → String
  | [] => "there are no fields"
  | [a] => "expected `" ++ a ++ "`"
  | [a, b] => "expected `" ++ a ++ "` or `" ++ b ++ "`"
  | names => "expected one of " ++ ", ".intercalate (names.map fun n => "`" ++ n ++ "`")

/-- The wording of a decoding error. -/
def message : DecodeError → String
  | malformed cause => cause.message
  | invalidType found wanted => "invalid type: " ++ found.describe ++ ", expected " ++ wanted
  | invalidValue found wanted => "invalid value: " ++ found.describe ++ ", expected " ++ wanted
  | invalidLength length wanted =>
      "invalid length " ++ toString length ++ ", expected " ++ wanted
  | missingField name => "missing field `" ++ name ++ "`"
  | duplicateField name => "duplicate field `" ++ name ++ "`"
  | unknownField name known => "unknown field `" ++ name ++ "`, " ++ expectedNames known
  | unknownVariant name known => "unknown variant `" ++ name ++ "`, " ++ expectedNames known
  | noAlternative type => "data did not match any variant of untagged enum " ++ type
  | custom text => text

end DecodeError

/-- The outcome of decoding. -/
abbrev Decoded := Except DecodeError

/-- A step that can only fail for a fault of the text. -/
def Decoded.ofSyntax {α : Type} : Except SyntaxError α → Decoded α
  | .ok a => .ok a
  | .error e => .error (.malformed e)

/-- Where a document comes from. -/
inductive Source
  | text
  | value
  /-- A value that was set aside and is looked at again. -/
  | buffer
  deriving DecidableEq, Inhabited

/-- A source, and how many containers may still be opened. -/
structure Reading where
  source : Source
  allowance : Allowance
  deriving Inhabited

namespace Reading

/-- At the beginning of a text. -/
def text : Reading := ⟨.text, some Document.depthLimit⟩

/-- At the top of a value. -/
def value : Reading := ⟨.value, none⟩

/-- At the top of a value set aside. -/
def buffer : Reading := ⟨.buffer, none⟩

/-- Inside one more container. -/
def enter (r : Reading) : Decoded Reading :=
  match r.allowance.enter with
  | .ok a => .ok { r with allowance := a }
  | .error e => .error (.malformed e)

end Reading

/-- Reads a document of one type. -/
abbrev Decoder (α : Type) := Reading → Doc → Decoded α

namespace Doc

/-- The error of a document that is not of the wanted type. -/
def mismatch (wanted : String) : Doc → DecodeError
  | .null => .invalidType .null wanted
  | .bool b => .invalidType (.bool b) wanted
  | .num (some n) => .invalidType (.num n) wanted
  | .num none => .malformed .numberOutOfRange
  | .str lit => match lit.read with
      | .ok s => .invalidType (.str s) wanted
      | .error e => .malformed e
  | .arr _ _ => .invalidType .sequence wanted
  | .obj _ _ => .invalidType .map wanted
  | .broken fault => .malformed fault.readError

end Doc

namespace Decoder

section Scalars

/-- A string. -/
def string : Decoder String := fun _ d =>
  match d with
  | .str lit => .ofSyntax lit.read
  | d => .error (d.mismatch "a string")

/-- A boolean. -/
def boolean : Decoder Bool := fun _ d =>
  match d with
  | .bool b => .ok b
  | d => .error (d.mismatch "a boolean")

/-- A natural number. -/
def natural : Decoder Nat := fun _ d =>
  match d with
  | .num (some (.int (.ofNat n))) => .ok n
  | .num (some (.int i)) => .error (.invalidValue (.num (.int i)) "usize")
  | d => .error (d.mismatch "usize")

/-- Any value. -/
def json : Decoder Json := fun r d => .ofSyntax (d.read r.allowance)

/-- A value that may be missing: null stands for none. -/
def optional {α : Type} (item : Decoder α) : Decoder (Option α) := fun r d =>
  match d with
  | .null => .ok none
  | d => (item r d).map some

end Scalars

section Collections

variable {α : Type}

/-- The items of an array, each read by `item`. -/
def items (item : Decoder α) (r : Reading) : List Doc → Decoded (List α)
  | [] => .ok []
  | d :: ds => do
      let v ← item r d
      let vs ← items item r ds
      return v :: vs

/-- A list. -/
def list (item : Decoder α) : Decoder (List α) := fun r d =>
  match d with
  | .arr ds stop => do
      let inner ← r.enter
      let vs ← items item inner ds
      Decoded.ofSyntax stop.read
      return vs
  | d => .error (d.mismatch "a sequence")

/-- The entries of an object, each value read by `value`. -/
def entries (value : Decoder α) (r : Reading) :
    List (StringLit × Doc) → Decoded (List (String × α))
  | [] => .ok []
  | (k, d) :: ms => do
      let key ← Decoded.ofSyntax k.read
      let v ← value r d
      let rest ← entries value r ms
      return (key, v) :: rest

/-- A map: its entries in the order of the document, repeated keys included. -/
def map (value : Decoder α) : Decoder (List (String × α)) := fun r d =>
  match d with
  | .obj ms stop => do
      let inner ← r.enter
      let es ← entries value inner ms
      Decoded.ofSyntax stop.read
      return es
  | d => .error (d.mismatch "a map")

end Collections

end Decoder

/-- A field of a record under construction. -/
structure Field (σ : Type) where
  name : String
  required : Bool
  /-- Reads the field and says how it changes the record. -/
  read : Decoder (σ → σ)

/-- The description of a record. -/
structure Shape (σ : Type) where
  /-- What the record is called in errors. -/
  title : String
  /-- Its fields in the order of declaration. -/
  fields : List (Field σ)
  /-- The record before any field is read; required fields never keep their start value. -/
  start : σ
  /-- Whether a field that is not declared is an error. -/
  closed : Bool

namespace Field

variable {σ α : Type}

/-- A field that has to be there. -/
def mandatory (name : String) (item : Decoder α) (set : α → σ → σ) : Field σ where
  name := name
  required := true
  read r d := (item r d).map set

/-- A field that may be left out. -/
def withDefault (name : String) (item : Decoder α) (set : α → σ → σ) : Field σ where
  name := name
  required := false
  read r d := (item r d).map set

end Field

namespace Shape

variable {σ : Type}

/-- A number of elements in words. -/
def elements (n : Nat) : String := if n = 1 then "1 element" else toString n ++ " elements"

/-- The names of the fields. -/
def names (shape : Shape σ) : List String := shape.fields.map (·.name)

/-- The wanted length of a record written as an array. -/
def wantedLength (shape : Shape σ) : String :=
  shape.title ++ " with " ++ elements shape.fields.length

/-- Reads the members of a record written as an object; `seen` names the fields read so far. -/
def members (shape : Shape σ) (r : Reading) :
    List String → σ → List (StringLit × Doc) → Decoded (List String × σ)
  | seen, s, [] => .ok (seen, s)
  | seen, s, (k, d) :: ms => do
      let key ← Decoded.ofSyntax k.read
      match shape.fields.find? (·.name == key) with
      | some field =>
          if seen.contains key then throw (.duplicateField key)
          let change ← field.read r d
          members shape r (key :: seen) (change s) ms
      | none =>
          if shape.closed then throw (.unknownField key shape.names)
          Decoded.ofSyntax d.skip
          members shape r seen s ms

/-- The first required field that has not been read. -/
def missing? (shape : Shape σ) (seen : List String) : Option String :=
  (shape.fields.find? fun f => f.required && !seen.contains f.name).map (·.name)

/-- Reads the items of a record written as an array; `index` counts the items read so far. -/
def positions (shape : Shape σ) (r : Reading) (total : Nat) (stop : ListStop) :
    Nat → σ → List (Field σ) → List Doc → Decoded σ
  | _, s, [], [] => do
      Decoded.ofSyntax stop.finish
      return s
  | index, _, [], _ :: _ =>
      match r.source with
      | .text => throw (.malformed .trailingCharacters)
      | .value => throw (.invalidLength total "fewer elements in array")
      | .buffer => throw (.invalidLength total (elements index ++ " in sequence"))
  | index, s, field :: fields, [] => do
      Decoded.ofSyntax stop.read
      if field.required then throw (.invalidLength index shape.wantedLength)
      positions shape r total stop (index + 1) s fields []
  | index, s, field :: fields, d :: ds => do
      let change ← field.read r d
      positions shape r total stop (index + 1) (change s) fields ds

/-- Reads a record. -/
def decode (shape : Shape σ) : Decoder σ := fun r d =>
  match d with
  | .obj ms stop => do
      let inner ← r.enter
      let (seen, s) ← members shape inner [] shape.start ms
      Decoded.ofSyntax stop.read
      match shape.missing? seen with
      | some name => throw (.missingField name)
      | none => return s
  | .arr ds stop => do
      let inner ← r.enter
      positions shape inner ds.length stop 0 shape.start shape.fields ds
  | d => .error (d.mismatch shape.title)

end Shape

/-- Reads a whole text. -/
def Decoder.ofText {α : Type} (decoder : Decoder α) (text : String) : Decoded α := do
  let document := Document.ofText text
  let v ← decoder .text document.body
  if document.ended then return v else throw (.malformed .trailingCharacters)

/-- Reads a value, the members of its objects in the order of their keys. -/
def Decoder.ofValue {α : Type} (decoder : Decoder α) (v : Json) : Decoded α :=
  decoder .value (.ofJson v.sorted)

end SchemaGrammar
