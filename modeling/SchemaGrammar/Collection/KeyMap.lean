/-!
# Key maps: association lists sorted by key

A `KeyMap α` maps string keys to values; its entries stand in strictly increasing order of
the keys, by code points.  Two key maps with the same look-ups are equal, and listing the
entries needs no further sort.

**Results.**
* `KeyMap.get?_insert`, `KeyMap.get?_erase`: what the two writes do to every look-up.
* `KeyMap.get?_mergedOver`: the look-ups of one map laid over another.
-/

namespace SchemaGrammar

universe u

/-- A finite map from strings whose entries are sorted by key. -/
structure KeyMap (α : Type u) where
  /-- The entries, smallest key first. -/
  entries : List (String × α)
  /-- The keys increase strictly. -/
  sorted : entries.Pairwise fun a b => a.1 < b.1

namespace KeyMap

variable {α : Type u}

theorem ext_entries {s t : KeyMap α} (h : s.entries = t.entries) : s = t := by
  cases s; cases t; cases h; rfl

instance [DecidableEq α] : DecidableEq (KeyMap α) := fun s t =>
  decidable_of_iff (s.entries = t.entries) ⟨ext_entries, fun h => h ▸ rfl⟩

/-- The map without entries. -/
def empty : KeyMap α := ⟨[], .nil⟩

instance : Inhabited (KeyMap α) := ⟨empty⟩

/-- The keys in increasing order. -/
def keys (m : KeyMap α) : List String := m.entries.map Prod.fst

def isEmpty (m : KeyMap α) : Bool := m.entries.isEmpty

/-- The value stored under a key. -/
def get? (m : KeyMap α) (key : String) : Option α := m.entries.lookup key

def contains (m : KeyMap α) (key : String) : Bool := (m.get? key).isSome

section Insert

/-- Puts an entry at its place in a sorted list, replacing one with the same key. -/
def insertEntry (key : String) (value : α) : List (String × α) → List (String × α)
  | [] => [(key, value)]
  | (k, v) :: rest =>
      if key < k then (key, value) :: (k, v) :: rest
      else if key = k then (key, value) :: rest
      else (k, v) :: insertEntry key value rest

theorem mem_insertEntry
    {key : String}
    {value : α}
    {e : String × α}
    {es : List (String × α)}
    (h : e ∈ insertEntry key value es) :
    e = (key, value) ∨ e ∈ es := by
  induction es with
  | nil => simpa [insertEntry] using h
  | cons d rest ih =>
      obtain ⟨k, v⟩ := d
      simp only [insertEntry] at h
      split at h
      · simpa using h
      · split at h
        · simp only [List.mem_cons] at h ⊢
          rcases h with h | h
          · exact .inl h
          · exact .inr (.inr h)
        · simp only [List.mem_cons] at h ⊢
          rcases h with h | h
          · exact .inr (.inl h)
          · rcases ih h with h | h
            · exact .inl h
            · exact .inr (.inr h)

theorem lt_of_not_lt_of_ne
    {a b : String}
    (h : ¬ a < b)
    (hne : a ≠ b) :
    b < a := by
  refine Decidable.byContradiction fun hba => hne ?_
  exact String.le_antisymm (String.not_lt.mp hba) (String.not_lt.mp h)

theorem sorted_insertEntry
    (key : String)
    (value : α)
    {es : List (String × α)}
    (hes : es.Pairwise fun a b => a.1 < b.1) :
    (insertEntry key value es).Pairwise fun a b => a.1 < b.1 := by
  induction es with
  | nil => simp [insertEntry]
  | cons d rest ih =>
      obtain ⟨k, v⟩ := d
      obtain ⟨hhead, hrest⟩ := List.pairwise_cons.mp hes
      simp only [insertEntry]
      split
      · next hlt =>
          refine List.pairwise_cons.mpr ⟨?_, hes⟩
          intro e he
          rcases List.mem_cons.mp he with rfl | he
          · exact hlt
          · exact String.lt_trans hlt (hhead e he)
      · next hnlt =>
          split
          · next heq =>
              subst heq
              exact List.pairwise_cons.mpr ⟨hhead, hrest⟩
          · next hne =>
              refine List.pairwise_cons.mpr ⟨?_, ih hrest⟩
              intro e he
              rcases mem_insertEntry he with rfl | he
              · exact lt_of_not_lt_of_ne hnlt hne
              · exact hhead e he

theorem lookup_insertEntry
    (key key' : String)
    (value : α)
    (es : List (String × α)) :
    (insertEntry key value es).lookup key' =
      if key' = key then some value else es.lookup key' := by
  induction es with
  | nil =>
      by_cases h : key' = key
      · simp [insertEntry, h]
      · have : (key' == key) = false := by simpa using h
        simp [insertEntry, List.lookup_cons, this, h]
  | cons d rest ih =>
      obtain ⟨k, v⟩ := d
      simp only [insertEntry]
      split
      · by_cases h : key' = key
        · simp [h]
        · have : (key' == key) = false := by simpa using h
          simp [List.lookup_cons, this, h]
      · split
        · next heq =>
            subst heq
            by_cases h : key' = key
            · simp [h]
            · have : (key' == key) = false := by simpa using h
              simp [List.lookup_cons, this, h]
        · next hne =>
            by_cases h : key' = k
            · subst h
              have : ¬ key' = key := fun e => hne e.symm
              simp [this]
            · have : (key' == k) = false := by simpa using h
              simp [List.lookup_cons, this, ih]

/-- The map with `value` under `key`. -/
def insert (m : KeyMap α) (key : String) (value : α) : KeyMap α where
  entries := insertEntry key value m.entries
  sorted := sorted_insertEntry key value m.sorted

theorem get?_insert
    (m : KeyMap α)
    (key key' : String)
    (value : α) :
    (m.insert key value).get? key' = if key' = key then some value else m.get? key' :=
  lookup_insertEntry key key' value m.entries

/-- The entries of a list, put in one after the other: the last value of a key stays. -/
def ofList (es : List (String × α)) : KeyMap α :=
  es.foldl (fun m e => m.insert e.1 e.2) empty

/-- The entries of `m` laid over those of `defaults`, key by key. -/
def mergedOver (m defaults : KeyMap α) : KeyMap α :=
  m.entries.foldl (fun acc e => acc.insert e.1 e.2) defaults

end Insert

section Erase

/-- The map without the entry of `key`. -/
def erase (m : KeyMap α) (key : String) : KeyMap α where
  entries := m.entries.filter fun e => e.1 != key
  sorted := m.sorted.filter _

theorem lookup_filter_ne
    (key key' : String)
    (es : List (String × α)) :
    (es.filter fun e => e.1 != key).lookup key' =
      if key' = key then none else es.lookup key' := by
  induction es with
  | nil => simp
  | cons d rest ih =>
      obtain ⟨k, v⟩ := d
      by_cases hk : k = key
      · subst hk
        simp only [bne_self_eq_false, Bool.false_eq_true, not_false_eq_true,
          List.filter_cons_of_neg, ih]
        by_cases h : key' = k
        · simp [h]
        · have : (key' == k) = false := by simpa using h
          simp [List.lookup_cons, this, h]
      · have hb : (k != key) = true := by simpa using hk
        rw [List.filter_cons_of_pos (by simpa using hb)]
        by_cases h : key' = k
        · subst h
          simp [hk]
        · have : (key' == k) = false := by simpa using h
          simp [List.lookup_cons, this, ih]

theorem get?_erase
    (m : KeyMap α)
    (key key' : String) :
    (m.erase key).get? key' = if key' = key then none else m.get? key' :=
  lookup_filter_ne key key' m.entries

end Erase

/-- The map with the value of `key`, if it has one, replaced by its image. -/
def modify (m : KeyMap α) (key : String) (f : α → α) : KeyMap α :=
  match m.get? key with
  | some v => m.insert key (f v)
  | none => m

theorem get?_modify
    (m : KeyMap α)
    (key key' : String)
    (f : α → α) :
    (m.modify key f).get? key' = if key' = key then (m.get? key).map f else m.get? key' := by
  unfold modify
  split
  · next v hv => rw [get?_insert, hv]; rfl
  · next hv =>
      by_cases h : key' = key
      · subst h; simp [hv]
      · simp [h]

theorem lookup_eq_some_iff_of_sorted
    {key : String}
    {value : α}
    {es : List (String × α)}
    (hes : es.Pairwise fun a b => a.1 < b.1) :
    es.lookup key = some value ↔ (key, value) ∈ es := by
  induction es with
  | nil => simp
  | cons d rest ih =>
      obtain ⟨k, v⟩ := d
      obtain ⟨hhead, hrest⟩ := List.pairwise_cons.mp hes
      by_cases h : key = k
      · subst h
        simp only [List.lookup_cons_self, Option.some.injEq, List.mem_cons, Prod.mk.injEq, true_and]
        constructor
        · intro hv; exact .inl hv.symm
        · rintro (hv | hmem)
          · exact hv.symm
          · exact absurd (hhead _ hmem) (String.lt_irrefl _)
      · have : (key == k) = false := by simpa using h
        simp [List.lookup_cons, this, ih hrest, h]

/-- Entries of a key map and its look-ups tell the same. -/
theorem get?_eq_some_iff
    {m : KeyMap α}
    {key : String}
    {value : α} :
    m.get? key = some value ↔ (key, value) ∈ m.entries :=
  lookup_eq_some_iff_of_sorted m.sorted

theorem get?_foldl_insert
    (key : String) :
    ∀ (es : List (String × α)) (m : KeyMap α),
      es.Pairwise (fun a b => a.1 < b.1) →
      (es.foldl (fun acc e => acc.insert e.1 e.2) m).get? key =
        (es.lookup key).or (m.get? key)
  | [], m, _ => by simp
  | (k, v) :: rest, m, hes => by
      obtain ⟨hhead, hrest⟩ := List.pairwise_cons.mp hes
      rw [List.foldl_cons, get?_foldl_insert key rest _ hrest, get?_insert]
      by_cases h : key = k
      · subst h
        have hnone : rest.lookup key = none := by
          cases hl : rest.lookup key with
          | none => rfl
          | some w =>
              exact absurd (hhead _ ((lookup_eq_some_iff_of_sorted hrest).mp hl))
                (String.lt_irrefl _)
        simp [hnone]
      · have : (key == k) = false := by simpa using h
        simp [List.lookup_cons, this, h]

/-- Whether two maps have the same keys, with values that `eq` identifies. -/
def agrees (eq : α → α → Bool) (s t : KeyMap α) : Bool :=
  s.entries.length == t.entries.length &&
    (s.entries.zip t.entries).all fun p => p.1.1 == p.2.1 && eq p.1.2 p.2.2

end KeyMap

end SchemaGrammar
