import SchemaGrammar.Collection.Table

/-!
# Look-ups and entries of tables

A table can be read in two ways, as a list of entries and as a function from keys.  Since no
key occurs twice, the two tell the same, and the order of the entries does not matter to any
look-up.

**Results.**
* `Table.get?_eq_some_iff`: a look-up finds exactly the entry with the key.
* `Table.filter_entries`: the entries with one key.
* `Table.contains_eq_true_iff`: a table contains exactly its keys.
* `Table.get?_sortKeys`: sorting changes no look-up.
* `Table.sortKeys_eq_self`, `Table.mapValues_eq_self`: sorting and changing where there is
  nothing to sort or to change.
* `Table.insert_insert`, `Table.mapValues_insert`: an insertion before another one under the
  same key, and before a change of all values.
* `Table.ofList_entries`: a table is built from its own entries.
-/

namespace SchemaGrammar.Table

universe u v

variable {α : Type u} {β : Type v}

/-- Where keys are distinct, a look-up finds an entry by membership. -/
theorem lookup_eq_some_iff_of_nodup
    {key : String}
    {value : α}
    {es : List (String × α)}
    (hes : (es.map Prod.fst).Nodup) :
    es.lookup key = some value ↔ (key, value) ∈ es := by
  induction es with
  | nil => simp
  | cons e rest ih =>
      obtain ⟨k, v⟩ := e
      rw [List.map_cons, List.nodup_cons] at hes
      obtain ⟨hnew, hrest⟩ := hes
      by_cases h : key = k
      · subst h
        have hnot : (key, value) ∉ rest := fun hm => hnew (List.mem_map.mpr ⟨_, hm, rfl⟩)
        simp [hnot, eq_comm]
      · have : (key == k) = false := by simpa using h
        simp [List.lookup_cons, this, ih hrest, h]

/-- Entries of a table and its look-ups tell the same. -/
theorem get?_eq_some_iff
    {t : Table α}
    {key : String}
    {value : α} :
    t.get? key = some value ↔ (key, value) ∈ t.entries :=
  lookup_eq_some_iff_of_nodup t.nodup_keys

/-- Where keys are distinct, a key has one entry at most. -/
theorem filter_of_nodup
    {key : String}
    {es : List (String × α)}
    (hes : (es.map Prod.fst).Nodup) :
    es.filter (fun e => e.1 == key) = ((es.lookup key).map fun value => (key, value)).toList := by
  induction es with
  | nil => rfl
  | cons e es ih =>
      obtain ⟨k, v⟩ := e
      rw [List.map_cons, List.nodup_cons] at hes
      by_cases hk : key = k
      · subst hk
        have hnone : es.filter (fun e => e.1 == key) = [] := by
          rw [List.filter_eq_nil_iff]
          intro e he hkey
          exact hes.1 (List.mem_map.mpr ⟨e, he, eq_of_beq hkey⟩)
        simp [hnone]
      · have hne : (k == key) = false := by simpa using Ne.symm hk
        have hne' : (key == k) = false := by simpa using hk
        simp [List.lookup_cons, hne, hne', ih hes.2]

/-- The entries with one key. -/
theorem filter_entries
    (t : Table α)
    (key : String) :
    t.entries.filter (fun e => e.1 == key) = ((t.get? key).map fun value => (key, value)).toList :=
  filter_of_nodup t.nodup_keys

theorem contains_eq_true_iff
    {t : Table α}
    {key : String} :
    t.contains key = true ↔ key ∈ t.keys := by
  unfold contains keys
  rw [Option.isSome_iff_exists, List.mem_map]
  constructor
  · rintro ⟨value, h⟩
    exact ⟨(key, value), get?_eq_some_iff.mp h, rfl⟩
  · rintro ⟨⟨k, value⟩, h, rfl⟩
    exact ⟨value, get?_eq_some_iff.mpr h⟩

theorem isEmpty_eq_false_iff
    {t : Table α} :
    t.isEmpty = false ↔ ∃ key, t.contains key = true := by
  simp only [contains_eq_true_iff]
  unfold isEmpty keys
  cases t.entries with
  | nil => simp
  | cons e rest => simp only [List.isEmpty_cons, true_iff]; exact ⟨e.1, List.mem_cons_self⟩

theorem contains_insert
    (t : Table α)
    (key key' : String)
    (value : α) :
    (t.insert key value).contains key' = (key' == key || t.contains key') := by
  unfold contains
  rw [get?_insert]
  by_cases h : key' = key
  · simp [h]
  · have : (key' == key) = false := by simpa using h
    simp [this, h]

section Insertions

/-- The later insertion under a key wins. -/
theorem insertEntry_insertEntry
    (key : String)
    (value value' : α)
    (es : List (String × α)) :
    insertEntry key value' (insertEntry key value es) = insertEntry key value' es := by
  induction es with
  | nil => simp [insertEntry]
  | cons e es ih =>
      obtain ⟨k, v⟩ := e
      by_cases hk : k = key
      · simp [insertEntry, hk]
      · simp [insertEntry, hk, ih]

/-- Of two values under one key the second one stays. -/
theorem insert_insert
    (t : Table α)
    (key : String)
    (value value' : α) :
    (t.insert key value).insert key value' = t.insert key value' :=
  ext_entries (insertEntry_insertEntry key value value' t.entries)

theorem map_insertEntry
    (f : String → α → β)
    (key : String)
    (value : α)
    (es : List (String × α)) :
    (insertEntry key value es).map (fun e => (e.1, f e.1 e.2)) =
      insertEntry key (f key value) (es.map fun e => (e.1, f e.1 e.2)) := by
  induction es with
  | nil => rfl
  | cons e es ih =>
      obtain ⟨k, v⟩ := e
      by_cases hk : k = key
      · simp [insertEntry, hk]
      · simp [insertEntry, hk, ih]

theorem mapValues_insert
    (f : String → α → β)
    (t : Table α)
    (key : String)
    (value : α) :
    (t.insert key value).mapValues f = (t.mapValues f).insert key (f key value) :=
  ext_entries (map_insertEntry f key value t.entries)

end Insertions

/-- Sorting changes no look-up. -/
theorem get?_sortKeys
    (t : Table α)
    (key : String) :
    t.sortKeys.get? key = t.get? key := by
  refine Option.ext fun value => ?_
  rw [get?_eq_some_iff, get?_eq_some_iff]
  exact (sortKeys_perm t).mem_iff

theorem sorted_sortKeys
    (t : Table α) :
    t.sortKeys.entries.Pairwise fun a b => a.1 < b.1 := by
  have hle : t.sortKeys.entries.Pairwise fun a b => keyLe a b = true := by
    refine List.pairwise_mergeSort (fun a b c hab hbc => ?_) (fun a b => ?_) t.entries
    · simp only [keyLe, decide_eq_true_eq] at hab hbc ⊢
      exact String.le_trans hab hbc
    · simp only [keyLe, Bool.or_eq_true, decide_eq_true_eq]
      exact String.le_total a.1 b.1
  have hne : t.sortKeys.entries.Pairwise fun a b => a.1 ≠ b.1 :=
    List.pairwise_map.mp t.sortKeys.nodup_keys
  refine (hle.and hne).imp fun {a b} h => ?_
  have hab : a.1 ≤ b.1 := of_decide_eq_true h.1
  exact Decidable.byContradiction fun hlt => h.2 (String.le_antisymm hab (String.not_lt.mp hlt))

/-- A table whose keys ascend is sorted. -/
theorem sortKeys_eq_self
    {t : Table α}
    (h : t.entries.Pairwise fun a b => a.1 < b.1) :
    t.sortKeys = t :=
  ext_entries (List.mergeSort_of_pairwise (h.imp fun hlt =>
    decide_eq_true (String.not_lt.mp (String.lt_asymm hlt))))

theorem mapValues_eq_self
    {f : String → α → α}
    {t : Table α}
    (h : ∀ e ∈ t.entries, f e.1 e.2 = e.2) :
    t.mapValues f = t := by
  refine ext_entries (Eq.trans (List.map_congr_left (g := id) fun e he => ?_) t.entries.map_id)
  rw [h e he, id_eq]

theorem insertEntry_of_not_mem
    {key : String}
    {value : α}
    {es : List (String × α)}
    (hkey : key ∉ es.map Prod.fst) :
    insertEntry key value es = es ++ [(key, value)] := by
  induction es with
  | nil => rfl
  | cons e rest ih =>
      obtain ⟨k, v⟩ := e
      rw [List.map_cons, List.mem_cons, not_or] at hkey
      obtain ⟨hne, hrest⟩ := hkey
      rw [insertEntry, if_neg (Ne.symm hne), ih hrest]
      rfl

/-- New keys keep the order in which they are put in. -/
theorem entries_foldl_insert
    {es : List (String × α)}
    {t : Table α}
    (h : ((t.entries ++ es).map Prod.fst).Nodup) :
    (es.foldl (fun t e => t.insert e.1 e.2) t).entries = t.entries ++ es := by
  induction es generalizing t with
  | nil => simp
  | cons e rest ih =>
      have hnew : e.1 ∉ t.entries.map Prod.fst := by
        rw [List.map_append, List.nodup_append] at h
        exact fun hmem => h.2.2 e.1 hmem e.1 List.mem_cons_self rfl
      have hinsert : (t.insert e.1 e.2).entries = t.entries ++ [e] := by
        rw [entries_insert, insertEntry_of_not_mem hnew]
      have hrest : (((t.insert e.1 e.2).entries ++ rest).map Prod.fst).Nodup := by
        rwa [hinsert, List.append_assoc]
      rw [List.foldl_cons, ih hrest, hinsert, List.append_assoc]
      rfl

/-- A table is built from its own entries. -/
theorem ofList_entries
    (t : Table α) :
    ofList t.entries = t := by
  refine ext_entries ?_
  rw [ofList, entries_foldl_insert (by simpa [empty] using t.nodup_keys)]
  rfl

end SchemaGrammar.Table
