/-!
# Tables: association lists in insertion order

A `Table α` maps string keys to values and remembers the order in which the keys came in.
Writing to a key that is present replaces its value and keeps its place; a new key goes to
the end.  That no key occurs twice is part of the type.

**Results.**
* `Table.get?_insert`: what an insertion does to every look-up.
* `Table.keys_insert`: what it does to the order of the keys.
* `Table.ext_entries`: a table is its list of entries.
-/

namespace SchemaGrammar

universe u v

/-- A finite map from strings that keeps the order of insertion. -/
structure Table (α : Type u) where
  /-- The entries, oldest key first. -/
  entries : List (String × α)
  /-- No key occurs twice. -/
  nodup_keys : (entries.map Prod.fst).Nodup

namespace Table

variable {α : Type u} {β : Type v}

theorem ext_entries {s t : Table α} (h : s.entries = t.entries) : s = t := by
  cases s; cases t; cases h; rfl

instance [DecidableEq α] : DecidableEq (Table α) := fun s t =>
  decidable_of_iff (s.entries = t.entries) ⟨ext_entries, fun h => h ▸ rfl⟩

instance : Inhabited (Table α) := ⟨⟨[], by simp⟩⟩

/-- The table without entries. -/
def empty : Table α := ⟨[], by simp⟩

/-- The keys, oldest first. -/
def keys (t : Table α) : List String := t.entries.map Prod.fst

/-- The values, in the order of their keys. -/
def values (t : Table α) : List α := t.entries.map Prod.snd

/-- The number of entries. -/
def size (t : Table α) : Nat := t.entries.length

def isEmpty (t : Table α) : Bool := t.entries.isEmpty

/-- The value stored under a key. -/
def get? (t : Table α) (key : String) : Option α := t.entries.lookup key

def contains (t : Table α) (key : String) : Bool := (t.get? key).isSome

section Insert

/-- Replaces the value of `key` where it stands, or puts a new entry at the end. -/
def insertEntry (key : String) (value : α) : List (String × α) → List (String × α)
  | [] => [(key, value)]
  | (k, v) :: rest =>
      if k = key then (key, value) :: rest
      else (k, v) :: insertEntry key value rest

theorem map_fst_insertEntry
    (key : String)
    (value : α)
    (es : List (String × α)) :
    (insertEntry key value es).map Prod.fst =
      if key ∈ es.map Prod.fst then es.map Prod.fst else es.map Prod.fst ++ [key] := by
  induction es with
  | nil => simp [insertEntry]
  | cons e rest ih =>
      obtain ⟨k, v⟩ := e
      by_cases h : k = key
      · subst h; simp [insertEntry]
      · have h' : ¬ key = k := fun e => h e.symm
        simp only [insertEntry, if_neg h, List.map_cons, ih, List.mem_cons, h', false_or]
        split <;> simp

theorem nodup_map_fst_insertEntry
    (key : String)
    (value : α)
    {es : List (String × α)}
    (hes : (es.map Prod.fst).Nodup) :
    ((insertEntry key value es).map Prod.fst).Nodup := by
  rw [map_fst_insertEntry]
  split
  · exact hes
  · next h =>
      rw [List.nodup_append]
      refine ⟨hes, by simp, ?_⟩
      intro a ha b hb
      simp only [List.mem_singleton] at hb
      subst hb
      intro hab
      subst hab
      exact h ha

theorem lookup_insertEntry
    (key key' : String)
    (value : α)
    (es : List (String × α)) :
    (insertEntry key value es).lookup key' =
      if key' = key then some value else es.lookup key' := by
  induction es with
  | nil =>
      by_cases h : key' = key
      · simp [insertEntry, h]
      · have : (key' == key) = false := by simpa using h
        simp [insertEntry, List.lookup_cons, this, h]
  | cons e rest ih =>
      obtain ⟨k, v⟩ := e
      by_cases h : k = key
      · subst h
        by_cases h' : key' = k
        · simp [insertEntry, h']
        · have : (key' == k) = false := by simpa using h'
          simp [insertEntry, List.lookup_cons, this, h']
      · simp only [insertEntry, if_neg h]
        by_cases h' : key' = k
        · have h'' : ¬ k = key := h
          subst h'
          simp [h'']
        · have : (key' == k) = false := by simpa using h'
          simp [List.lookup_cons, this, ih]

/-- The table with `value` under `key`: in place if the key is there, at the end if not. -/
def insert (t : Table α) (key : String) (value : α) : Table α where
  entries := insertEntry key value t.entries
  nodup_keys := nodup_map_fst_insertEntry key value t.nodup_keys

@[simp] theorem entries_insert
    (t : Table α)
    (key : String)
    (value : α) :
    (t.insert key value).entries = insertEntry key value t.entries := rfl

theorem get?_insert
    (t : Table α)
    (key key' : String)
    (value : α) :
    (t.insert key value).get? key' = if key' = key then some value else t.get? key' :=
  lookup_insertEntry key key' value t.entries

theorem keys_insert
    (t : Table α)
    (key : String)
    (value : α) :
    (t.insert key value).keys = if key ∈ t.keys then t.keys else t.keys ++ [key] :=
  map_fst_insertEntry key value t.entries

/-- The entries of a list, put in one after the other. -/
def ofList (es : List (String × α)) : Table α :=
  es.foldl (fun t e => t.insert e.1 e.2) empty

end Insert

section Map

/-- The table with every value replaced by an image of its entry, keys and order kept. -/
def mapValues (f : String → α → β) (t : Table α) : Table β where
  entries := t.entries.map fun e => (e.1, f e.1 e.2)
  nodup_keys := by
    have h := t.nodup_keys
    rw [List.map_map]
    exact h

@[simp] theorem keys_mapValues
    (f : String → α → β)
    (t : Table α) :
    (t.mapValues f).keys = t.keys := by
  simp [keys, mapValues, List.map_map, Function.comp_def]

theorem get?_mapValues
    (f : String → α → β)
    (t : Table α)
    (key : String) :
    (t.mapValues f).get? key = (t.get? key).map (f key) := by
  obtain ⟨es, h⟩ := t
  simp only [get?, mapValues]
  clear h
  induction es with
  | nil => rfl
  | cons e rest ih =>
      obtain ⟨k, v⟩ := e
      by_cases hk : key = k
      · subst hk; simp
      · have : (key == k) = false := by simpa using hk
        simp [List.lookup_cons, this, ih]

end Map

section KeyOrder

/-- Whether the key of one entry is at most the key of another, by code points. -/
def keyLe (a b : String × α) : Bool := decide (a.1 ≤ b.1)

/-- The same entries in the order of their keys. -/
def sortKeys (t : Table α) : Table α where
  entries := t.entries.mergeSort keyLe
  nodup_keys :=
    ((List.mergeSort_perm t.entries keyLe).map Prod.fst).nodup_iff.mpr t.nodup_keys

theorem sortKeys_perm (t : Table α) : t.sortKeys.entries.Perm t.entries :=
  List.mergeSort_perm t.entries keyLe

end KeyOrder

/-- The entries whose keys satisfy `keep`, in their order. -/
def filterKeys (keep : String → Bool) (t : Table α) : Table α where
  entries := t.entries.filter fun e => keep e.1
  nodup_keys := by
    have h : (t.entries.filter fun e => keep e.1).map Prod.fst =
        (t.entries.map Prod.fst).filter keep := by
      rw [List.filter_map]; rfl
    rw [h]
    exact t.nodup_keys.filter _

/-- Whether two tables map the same keys to values that `eq` identifies, in any order. -/
def agrees (eq : α → α → Bool) (s t : Table α) : Bool :=
  s.size == t.size &&
    s.entries.all fun e => match t.get? e.1 with
      | some v => eq e.2 v
      | none => false

end Table

end SchemaGrammar
