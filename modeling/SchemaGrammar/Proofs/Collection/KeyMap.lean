import SchemaGrammar.Collection.KeyMap
import Mathlib.Data.List.Perm.Basic

/-!
# Key maps as functions

Since the keys of a key map increase strictly, its entries stand in the only possible order: two
maps with the same look-ups are equal, and entries may be put in in any order.

**Results.**
* `KeyMap.eq_of_perm`: increasing keys leave one order only.
* `KeyMap.ext_get?`: a key map is determined by its look-ups.
* `KeyMap.insert_comm`, `KeyMap.foldl_insert_entries`: putting in entries.
* `KeyMap.erase_of_contains_eq_false`, `KeyMap.modify_of_contains_eq_false`: writes to a key that
  is not there.
-/

namespace SchemaGrammar.KeyMap

universe u

variable {α : Type u}

section Entries

variable {key : String} {value : α} {es es' : List (String × α)}

/-- Entries with increasing keys are determined by what they are. -/
theorem eq_of_perm
    (hes : es.Pairwise fun a b => a.1 < b.1)
    (hes' : es'.Pairwise fun a b => a.1 < b.1)
    (h : es.Perm es') :
    es = es' := by
  refine h.eq_of_pairwise (fun a b _ _ hab hba => ?_) hes hes'
  exact absurd (String.lt_trans hab hba) (String.lt_irrefl a.1)

theorem nodup_of_sorted
    (hes : es.Pairwise fun a b => a.1 < b.1) :
    es.Nodup := by
  refine hes.imp fun {a b} hlt heq => ?_
  rw [heq] at hlt
  exact String.lt_irrefl b.1 hlt

/-- Keys in increasing order are distinct. -/
theorem nodup_keys_of_sorted
    (hes : es.Pairwise fun a b => a.1 < b.1) :
    (es.map Prod.fst).Nodup := by
  rw [List.Nodup, List.pairwise_map]
  refine hes.imp fun {a b} hlt heq => ?_
  rw [heq] at hlt
  exact String.lt_irrefl b.1 hlt

theorem lookup_eq_none_iff :
    es.lookup key = none ↔ key ∉ es.map Prod.fst := by
  rw [List.lookup_eq_none_iff, List.mem_map]
  constructor
  · rintro h ⟨e, he, rfl⟩
    simpa using h e he
  · intro h e he
    exact bne_iff_ne.mpr fun heq => h ⟨e, he, heq.symm⟩

/-- A new entry is put in somewhere. -/
theorem perm_insertEntry
    (hkey : key ∉ es.map Prod.fst) :
    (insertEntry key value es).Perm ((key, value) :: es) := by
  induction es with
  | nil => exact .refl _
  | cons e rest ih =>
      obtain ⟨k, v⟩ := e
      rw [List.map_cons, List.mem_cons, not_or] at hkey
      obtain ⟨hne, hrest⟩ := hkey
      rw [insertEntry, if_neg hne]
      split
      · exact .refl _
      · have htail := (ih hrest).cons (k, v)
        exact htail.trans (.swap (key, value) (k, v) rest)

theorem insertEntry_of_lt
    (hkey : ∀ e ∈ es, key < e.1) :
    insertEntry key value es = (key, value) :: es := by
  cases es with
  | nil => rfl
  | cons e rest => exact if_pos (hkey e List.mem_cons_self)

end Entries

variable {s t : KeyMap α}

/-- A key map is determined by its look-ups. -/
theorem ext_get?
    (h : ∀ key, s.get? key = t.get? key) :
    s = t := by
  refine ext_entries (eq_of_perm s.sorted t.sorted ?_)
  refine (List.perm_ext_iff_of_nodup (nodup_of_sorted s.sorted) (nodup_of_sorted t.sorted)).mpr ?_
  rintro ⟨key, value⟩
  rw [← get?_eq_some_iff, ← get?_eq_some_iff, h]

theorem isEmpty_eq_true_iff :
    s.isEmpty = true ↔ s = .empty := by
  constructor
  · intro h
    exact ext_entries (List.isEmpty_iff.mp h)
  · rintro rfl
    rfl

/-- Insertions under different keys may be exchanged. -/
theorem insert_comm
    {key key' : String}
    (hne : key ≠ key')
    (value value' : α)
    (m : KeyMap α) :
    (m.insert key value).insert key' value' = (m.insert key' value').insert key value := by
  refine ext_get? fun k => ?_
  simp only [get?_insert]
  split
  · next hk =>
      rw [if_neg (hk ▸ Ne.symm hne)]
  · rfl

/-- Putting in the entries of a map one by one gives the map. -/
theorem foldl_insert_entries
    (m : KeyMap α) :
    m.entries.foldl (fun acc e => acc.insert e.1 e.2) empty = m := by
  refine ext_get? fun key => ?_
  rw [get?_foldl_insert key m.entries empty m.sorted]
  exact Option.or_none

section Absent

variable {key : String}

theorem contains_eq_false_iff :
    s.contains key = false ↔ s.get? key = none :=
  Option.isSome_eq_false_iff.trans Option.isNone_iff_eq_none

/-- Taking out what is not there changes nothing. -/
theorem erase_of_contains_eq_false
    (h : s.contains key = false) :
    s.erase key = s := by
  refine ext_get? fun key' => ?_
  rw [get?_erase]
  split
  · next heq => rw [heq, contains_eq_false_iff.mp h]
  · rfl

/-- Without an entry there is nothing to change. -/
theorem modify_of_contains_eq_false
    (h : s.contains key = false)
    (f : α → α) :
    s.modify key f = s := by
  rw [modify, contains_eq_false_iff.mp h]

end Absent

end SchemaGrammar.KeyMap
