import SchemaGrammar.Plugin.BuiltIn

/-!
# The registry of plugins

A registry keeps a shelf of plugins for every kind.  A plugin stands on its shelf under a
name, with default options and a switch; one that is switched off is found by no look-up
and never runs.

**Results.**
* `Registry.shelf_withShelf_self`, `Registry.shelf_withShelf_of_ne`: a change to one shelf shows
  there and nowhere else.
* `Registry.call` runs a plugin, with the caller's options laid over the defaults.
* `Registry.transform` runs transformers one after the other.
-/

namespace SchemaGrammar

/-- A plugin on a shelf. -/
structure Entry (kind : PluginKind) where
  plugin : Plugin kind
  enabled : Bool
  /-- The options that hold where the caller gives none. -/
  defaults : OptionMap

/-- The plugins of a kind by name. -/
abbrev Shelf (kind : PluginKind) := KeyMap (Entry kind)

/-- Plugins of all kinds. -/
structure Registry where
  parsers : Shelf .parser
  transformers : Shelf .transformer
  generators : Shelf .generator

/-- What a registry tells about a plugin. -/
structure PluginInfo where
  id : String
  kind : PluginKind
  enabled : Bool
  metadata : PluginMetadata
  format : Option String
  defaults : OptionMap
  deriving DecidableEq, Inhabited

namespace Registry

/-- The registry without plugins. -/
def empty : Registry := ⟨.empty, .empty, .empty⟩

instance : Inhabited Registry := ⟨empty⟩

section Shelves

/-- The shelf of a kind. -/
def shelf (r : Registry) : (kind : PluginKind) → Shelf kind
  | .parser => r.parsers
  | .transformer => r.transformers
  | .generator => r.generators

/-- The registry with another shelf of a kind. -/
def withShelf (r : Registry) : (kind : PluginKind) → Shelf kind → Registry
  | .parser, s => { r with parsers := s }
  | .transformer, s => { r with transformers := s }
  | .generator, s => { r with generators := s }

@[simp] theorem shelf_withShelf_self
    (r : Registry)
    (kind : PluginKind)
    (s : Shelf kind) :
    (r.withShelf kind s).shelf kind = s := by
  cases kind <;> rfl

theorem shelf_withShelf_of_ne
    (r : Registry)
    {kind other : PluginKind}
    (h : other ≠ kind)
    (s : Shelf kind) :
    (r.withShelf kind s).shelf other = r.shelf other := by
  cases kind <;> cases other <;> first | rfl | exact absurd rfl h

end Shelves

section Changes

variable (r : Registry) (kind : PluginKind) (id : String)

/-- Puts a plugin on its shelf, switched on; the name must be free. -/
def register (plugin : Plugin kind) (defaults : OptionMap) :
    Except PluginError Registry :=
  if (r.shelf kind).contains id then .error (.duplicateRegistration kind id)
  else .ok (r.withShelf kind ((r.shelf kind).insert id ⟨plugin, true, defaults⟩))

/-- Takes a plugin from its shelf. -/
def unregister : Except PluginError Registry :=
  if (r.shelf kind).contains id then .ok (r.withShelf kind ((r.shelf kind).erase id))
  else .error (.notFound kind id)

/-- Switches a plugin on or off. -/
def setEnabled (enabled : Bool) : Except PluginError Registry :=
  if (r.shelf kind).contains id then
    .ok (r.withShelf kind ((r.shelf kind).modify id fun e => { e with enabled }))
  else .error (.notFound kind id)

/-- Registers plugins until a name is taken: the registry with those before it, and the error. -/
def registerAll : Registry → List NamedPlugin → Registry × Option PluginError
  | r, [] => (r, none)
  | r, p :: ps =>
      match r.register p.kind p.id p.plugin .empty with
      | .ok next => registerAll next ps
      | .error e => (r, some e)

/-- The registry of the built-in plugins. -/
def builtIns : Registry := (registerAll empty BuiltIn.all).1

end Changes

section Inspection

variable (r : Registry) (kind : PluginKind)

/-- Whether a name is taken, be the plugin switched on or off. -/
def isRegistered (id : String) : Bool := (r.shelf kind).contains id

/-- The entry of a plugin that is switched on. -/
def entry? (id : String) : Option (Entry kind) := ((r.shelf kind).get? id).filter (·.enabled)

/-- A plugin that is switched on. -/
def get? (id : String) : Option (Plugin kind) := (r.entry? kind id).map (·.plugin)

/-- All plugins of a kind, by name. -/
def list : List PluginInfo :=
  (r.shelf kind).entries.map fun (id, e) =>
    ⟨id, kind, e.enabled, e.plugin.metadata, e.plugin.format, e.defaults⟩

/-- The names on a shelf, quoted. -/
def quotedIds : String :=
  "[" ++ ", ".intercalate ((r.shelf kind).keys.map Text.quote) ++ "]"

/-- The names on all shelves. -/
def display : String :=
  "PluginRegistry \x7b parsers: " ++ r.quotedIds .parser ++
    ", transformers: " ++ r.quotedIds .transformer ++
    ", generators: " ++ r.quotedIds .generator ++ " \x7d"

end Inspection

section Runs

variable (r : Registry)

/-- The caller's options over the defaults of an entry. -/
def Entry.effective {kind : PluginKind} (e : Entry kind) (supplied : OptionMap) : OptionMap :=
  supplied.mergedOver e.defaults

/-- Runs a plugin that is switched on.  Options are looked at before the run, unless there are
none. -/
def call (kind : PluginKind) (id : String) (input : kind.Input) (supplied : OptionMap) :
    Except PluginError kind.Result :=
  match r.entry? kind id with
  | none => .error (.notFound kind id)
  | some e =>
      let options := Entry.effective e supplied
      let problems := if options.isEmpty then [] else e.plugin.problems options
      if problems.isEmpty then
        ((e.plugin.run input options).result).mapError (.ofFailure kind id)
      else .error (.invalidOptions kind id problems)

/-- The format of a plugin that is switched on. -/
def format? (kind : PluginKind) (id : String) : Option String :=
  (r.entry? kind id).bind (·.plugin.format)

/-- A grammar and the names of the transformers that it went through. -/
structure Transformed where
  grammar : Grammar
  applied : List String
  deriving DecidableEq, Inhabited

/-- The grammar that a parser makes of a text. -/
def parse (text id : String) (supplied : OptionMap) : Except PluginError Grammar :=
  r.call .parser id text supplied

/-- Runs transformers one after the other, each with the options under its own name, up to the
first one that fails. -/
def transform (g : Grammar) (ids : List String) (options : KeyMap OptionMap) :
    Except PluginError Transformed :=
  match ids with
  | [] => .ok ⟨g, []⟩
  | id :: rest =>
      match r.call .transformer id g ((options.get? id).getD .empty) with
      | .error e => .error e
      | .ok next =>
          match transform next rest options with
          | .error e => .error e
          | .ok t => .ok { t with applied := id :: t.applied }

/-- The output that a generator makes of a grammar. -/
def generate (g : Grammar) (id : String) (supplied : OptionMap) : Except PluginError Output :=
  r.call .generator id g supplied

end Runs

end Registry

end SchemaGrammar
