import SchemaGrammar.Plugin.OptionMap
import SchemaGrammar.Proofs.Collection.Except
import SchemaGrammar.Proofs.Json.Canonical

/-!
# The fields of a decoded record

A part of a record belongs to a field if that field writes it and no other field does.  After
decoding the part is what the member of that name was read as; without such a member it is what
it was at the start.  So a record tells what stood in the object that it was decoded from.

**Results.**
* `Shape.Owns`: the part of a record that belongs to a field.
* `Shape.get_of_members`: what the part is after the members of an object have been read.
* `OptionMap.get_of_decode`, `OptionMap.exists_get?_of_decode`: the same for options, and the
  members that have to be there.
* `OptionMap.isSet_iff`, `OptionMap.get?_eq_str`: switches and required texts.
-/

namespace SchemaGrammar

variable {σ α : Type}

section Reading

variable {r : Reading} {v : Json}

/-- Only a truth value is decoded as one. -/
theorem Decoder.boolean_ofJson_iff
    {b : Bool} :
    Decoder.boolean r (.ofJson v.sorted) = .ok b ↔ v = .bool b := by
  cases v <;> simp [Json.sorted, Doc.ofJson, Decoder.boolean]

/-- Only a text is decoded as one. -/
theorem Decoder.string_ofJson_iff
    {text : String} :
    Decoder.string r (.ofJson v.sorted) = .ok text ↔ v = .str text := by
  cases v <;> simp [Json.sorted, Doc.ofJson, Decoder.string, Decoded.ofSyntax]

end Reading

namespace Field

/-- The field writes what `item` reads into the part that `get` gives. -/
def Writes (field : Field σ) (item : Decoder α) (get : σ → α) : Prop :=
  ∀ (r : Reading) (d : Doc) (change : σ → σ), field.read r d = .ok change →
    ∃ a, item r d = .ok a ∧ ∀ s, get (change s) = a

/-- The field leaves the part that `get` gives. -/
def Keeps (field : Field σ) (get : σ → α) : Prop :=
  ∀ (r : Reading) (d : Doc) (change : σ → σ), field.read r d = .ok change →
    ∀ s, get (change s) = get s

section Change

variable {β : Type} {name : String} {item : Decoder β} {set : β → σ → σ}

/-- An item that is read changes the record by its value. -/
theorem exists_of_map_eq_ok
    {r : Reading}
    {d : Doc}
    {change : σ → σ}
    (h : (item r d).map set = .ok change) :
    ∃ b, item r d = .ok b ∧ change = set b := by
  cases hitem : item r d with
  | error e =>
      rw [hitem] at h
      cases h
  | ok b =>
      rw [hitem] at h
      exact ⟨b, rfl, (Except.ok.inj h).symm⟩

/-- A mandatory field writes what it decodes. -/
theorem Writes.mandatory
    {get : σ → β}
    (hset : ∀ b s, get (set b s) = b) :
    (Field.mandatory name item set).Writes item get := by
  intro r d change h
  obtain ⟨b, hitem, rfl⟩ := exists_of_map_eq_ok h
  exact ⟨b, hitem, hset b⟩

theorem Writes.withDefault
    {get : σ → β}
    (hset : ∀ b s, get (set b s) = b) :
    (Field.withDefault name item set).Writes item get :=
  show (Field.mandatory name item set).Writes item get from .mandatory hset

theorem Keeps.mandatory
    {get : σ → α}
    (hset : ∀ b s, get (set b s) = get s) :
    (Field.mandatory name item set).Keeps get := by
  intro r d change h
  obtain ⟨b, -, rfl⟩ := exists_of_map_eq_ok h
  exact hset b

theorem Keeps.withDefault
    {get : σ → α}
    (hset : ∀ b s, get (set b s) = get s) :
    (Field.withDefault name item set).Keeps get :=
  show (Field.mandatory name item set).Keeps get from .mandatory hset

end Change

end Field

namespace Shape

variable {shape : Shape σ} {name : String} {item : Decoder α} {get : σ → α}

/-- The part of a record that belongs to the field of a name: the field writes it, and the other
fields leave it. -/
structure Owns (shape : Shape σ) (name : String) (item : Decoder α) (get : σ → α) : Prop where
  field : ∃ field, shape.fields.find? (·.name == name) = some field ∧ field.Writes item get
  others : ∀ field ∈ shape.fields, field.name ≠ name → field.Keeps get

section Members

variable {r : Reading} {seen seen' : List String} {s s' : σ} {ms : List (String × Json)}

/-- What a first member does if all members are read: its field is new and reads it, or it has no
field. -/
theorem members_cons_ok
    {key : String}
    {v : Json}
    (h : shape.members r seen s (Doc.ofMembers ((key, v) :: ms)) = .ok (seen', s')) :
    (∃ field change, shape.fields.find? (·.name == key) = some field ∧
      field.read r (.ofJson v) = .ok change ∧
        shape.members r (key :: seen) (change s) (Doc.ofMembers ms) = .ok (seen', s')) ∨
      shape.fields.find? (·.name == key) = none ∧
        shape.members r seen s (Doc.ofMembers ms) = .ok (seen', s') := by
  rw [Doc.ofMembers, members, StringLit.read_ofString] at h
  obtain ⟨key', hkey, h⟩ := Except.bind_eq_ok_iff.mp h
  obtain rfl : key = key' := Except.ok.inj hkey
  cases hfield : shape.fields.find? (·.name == key) with
  | some field =>
      simp only [hfield] at h
      split at h
      · cases h
      · obtain ⟨change, hread, h⟩ := Except.bind_eq_ok_iff.mp h
        exact .inl ⟨field, change, rfl, hread, h⟩
  | none =>
      simp only [hfield] at h
      split at h
      · cases h
      · obtain ⟨-, -, h⟩ := Except.bind_eq_ok_iff.mp h
        exact .inr ⟨rfl, h⟩

/-- Names that have been read are names of members. -/
theorem mem_seen_of_members
    (h : shape.members r seen s (Doc.ofMembers ms) = .ok (seen', s'))
    {key : String}
    (hkey : key ∈ seen') :
    key ∈ seen ∨ key ∈ ms.map Prod.fst := by
  induction ms generalizing seen s with
  | nil =>
      cases h
      exact .inl hkey
  | cons m ms ih =>
      rw [List.map_cons, List.mem_cons]
      rcases members_cons_ok h with ⟨field, change, -, -, hrest⟩ | ⟨-, hrest⟩
      · rcases ih hrest with hseen | hmem
        · exact (List.mem_cons.mp hseen).elim (fun heq => .inr (.inl heq)) .inl
        · exact .inr (.inr hmem)
      · exact (ih hrest).imp_right .inr

/-- The part that belongs to a field is read from the member of that name; without one it stays. -/
theorem get_of_members
    (howns : shape.Owns name item get)
    (hkeys : (ms.map Prod.fst).Nodup)
    (h : shape.members r seen s (Doc.ofMembers ms) = .ok (seen', s')) :
    (ms.lookup name = none → get s' = get s) ∧
      ∀ v, ms.lookup name = some v → item r (.ofJson v) = .ok (get s') := by
  induction ms generalizing seen s with
  | nil =>
      cases h
      exact ⟨fun _ => rfl, fun v hv => by cases hv⟩
  | cons m ms ih =>
      obtain ⟨key, v⟩ := m
      obtain ⟨own, hown, hwrites⟩ := howns.field
      rw [List.map_cons, List.nodup_cons] at hkeys
      by_cases hname : name = key
      · subst hname
        have habsent : ms.lookup name = none := KeyMap.lookup_eq_none_iff.mpr hkeys.1
        rcases members_cons_ok h with ⟨field, change, hfield, hread, hrest⟩ | ⟨hfield, -⟩
        · obtain rfl := Option.some.inj (hown.symm.trans hfield)
          obtain ⟨a, ha, hget⟩ := hwrites r _ _ hread
          have hrest := (ih hkeys.2 hrest).1 habsent
          rw [List.lookup_cons_self]
          refine ⟨nofun, fun v' hv' => ?_⟩
          cases hv'
          rw [hrest, hget, ha]
        · cases hown.symm.trans hfield
      · have hbeq : (name == key) = false := by simpa using hname
        rw [List.lookup_cons, hbeq]
        rcases members_cons_ok h with ⟨field, change, hfield, hread, hrest⟩ | ⟨-, hrest⟩
        · have hkey : field.name = key := by simpa using List.find?_some hfield
          have hkeeps := howns.others field (List.mem_of_find?_eq_some hfield)
            (hkey ▸ Ne.symm hname) r _ _ hread s
          rw [← hkeeps]
          exact ih hkeys.2 hrest
        · exact ih hkeys.2 hrest

end Members

/-- If no required field is missing, each of them has been read. -/
theorem mem_of_missing?_eq_none
    {seen : List String}
    (h : shape.missing? seen = none)
    {field : Field σ}
    (hfield : field ∈ shape.fields)
    (hrequired : field.required = true) :
    field.name ∈ seen := by
  rw [missing?, Option.map_eq_none_iff, List.find?_eq_none] at h
  simpa [hrequired] using h field hfield

/-- A record decoded from an object is made of the members, and no required field is missing. -/
theorem decode_ofValue_eq_ok
    {ms : List (String × Json)}
    {s : σ}
    (h : shape.decode.ofValue (.obj ms) = .ok s) :
    ∃ seen,
      shape.members .value [] shape.start (Doc.ofMembers (Json.sortMembers ms)) = .ok (seen, s) ∧
        shape.missing? seen = none := by
  obtain ⟨inner, hinner, h⟩ := Except.bind_eq_ok_iff.mp h
  obtain rfl : Reading.value = inner := Except.ok.inj hinner
  obtain ⟨⟨seen, s'⟩, hmembers, h⟩ := Except.bind_eq_ok_iff.mp h
  obtain ⟨-, -, h⟩ := Except.bind_eq_ok_iff.mp h
  cases hmissing : shape.missing? seen with
  | some name =>
      simp only [hmissing] at h
      cases h
  | none =>
      simp only [hmissing] at h
      cases h
      exact ⟨seen, hmembers, hmissing⟩

end Shape

namespace OptionMap

variable {shape : Shape σ} {name : String} {o : OptionMap} {s : σ}

/-- Sorted or not, an option is found under its name. -/
theorem lookup_sortMembers_entries
    (o : OptionMap)
    (name : String) :
    (Json.sortMembers o.entries).lookup name = (o.get? name).map Json.sorted :=
  Json.lookup_sortMembers (KeyMap.nodup_keys_of_sorted o.sorted) name

/-- Options that can be decoded have every required member. -/
theorem exists_get?_of_decode
    (h : o.decode shape = .ok s)
    {field : Field σ}
    (hfield : field ∈ shape.fields)
    (hrequired : field.required = true) :
    ∃ v, o.get? field.name = some v := by
  obtain ⟨seen, hmembers, hmissing⟩ := Shape.decode_ofValue_eq_ok h
  have hseen := Shape.mem_of_missing?_eq_none hmissing hfield hrequired
  have hkey := (Shape.mem_seen_of_members hmembers hseen).resolve_left List.not_mem_nil
  cases hv : o.get? field.name with
  | some v => exact ⟨v, rfl⟩
  | none =>
      have habsent : (Json.sortMembers o.entries).lookup field.name = none := by
        rw [lookup_sortMembers_entries, hv]
        rfl
      exact absurd hkey (KeyMap.lookup_eq_none_iff.mp habsent)

/-- The part of a record that belongs to a field is what the option of that name is read as;
without the option it is what it is at the start. -/
theorem get_of_decode
    {item : Decoder α}
    {get : σ → α}
    (howns : shape.Owns name item get)
    (h : o.decode shape = .ok s) :
    (o.get? name = none → get s = get shape.start) ∧
      ∀ v, o.get? name = some v → item .value (.ofJson v.sorted) = .ok (get s) := by
  obtain ⟨seen, hmembers, -⟩ := Shape.decode_ofValue_eq_ok h
  have hkeys := KeyMap.nodup_keys_of_sorted (Json.sortMembers_sorted o.entries)
  obtain ⟨hnone, hsome⟩ := Shape.get_of_members howns hkeys hmembers
  rw [lookup_sortMembers_entries] at hnone hsome
  refine ⟨fun habsent => hnone (by rw [habsent]; rfl), fun v hv => hsome _ ?_⟩
  rw [hv]
  rfl

/-- The option is there and is true. -/
def IsSet (o : OptionMap) (name : String) : Prop := o.get? name = some (.bool true)

/-- A switch that is off at the start is on if its option is set. -/
theorem isSet_iff
    {get : σ → Bool}
    (howns : shape.Owns name .boolean get)
    (hstart : get shape.start = false)
    (h : o.decode shape = .ok s) :
    o.IsSet name ↔ get s = true := by
  obtain ⟨hnone, hsome⟩ := get_of_decode howns h
  unfold IsSet
  cases hv : o.get? name with
  | none => simp [hnone hv, hstart]
  | some v =>
      obtain rfl := Decoder.boolean_ofJson_iff.mp (hsome v hv)
      simp

/-- A text that the options have to hold. -/
theorem get?_eq_str
    {get : σ → String}
    (howns : shape.Owns name .string get)
    {field : Field σ}
    (hfield : field ∈ shape.fields)
    (hrequired : field.required = true)
    (hname : field.name = name)
    (h : o.decode shape = .ok s) :
    o.get? name = some (.str (get s)) := by
  subst hname
  obtain ⟨v, hv⟩ := exists_get?_of_decode h hfield hrequired
  rw [hv, Decoder.string_ofJson_iff.mp ((get_of_decode howns h).2 v hv)]

end OptionMap

end SchemaGrammar
