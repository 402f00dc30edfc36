import SchemaGrammar.Json.Decode
import SchemaGrammar.Json.Printer

/-!
# Options as data

The options of a plugin are a map from keys to JSON values.  A plugin that wants them in a
form of its own decodes them by a shape.

**Results.**
* `OptionMap.decode` turns options into a record, `OptionMap.check` words the failure.
* Laying options over defaults is `KeyMap.mergedOver`.
-/

namespace SchemaGrammar

/-- The options of a plugin. -/
abbrev OptionMap := KeyMap Json

namespace OptionMap

/-- The options that an object holds; no other value holds options. -/
def ofJson? (v : Json) : Option OptionMap :=
  match v.sorted with
  | .obj members => some (KeyMap.ofList members)
  | _ => none

/-- The options as an object. -/
def toJson (o : OptionMap) : Json := .ofKeyMap o

/-- The options in the form of a record. -/
def decode {σ : Type} (shape : Shape σ) (o : OptionMap) : Decoded σ :=
  Decoder.ofValue shape.decode o.toJson

/-- The options in the form of a record, or what is wrong with them. -/
def check {σ : Type} (shape : Shape σ) (o : OptionMap) : Except (List String) σ :=
  match o.decode shape with
  | .ok s => .ok s
  | .error e => .error [e.message]

/-- Reads options, which are always an object. -/
def decoder : Decoder OptionMap := fun r d => (Decoder.map Decoder.json r d).map fun es =>
  KeyMap.ofList (es.map fun e => (e.1, e.2.sorted))

end OptionMap

end SchemaGrammar
