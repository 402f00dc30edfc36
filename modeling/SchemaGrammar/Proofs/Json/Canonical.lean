import SchemaGrammar.Json.Basic
import SchemaGrammar.Proofs.Collection.KeyMap

/-!
# The canonical form of a value

Sorting rearranges the members of every object and does nothing else, as long as no key is
repeated.  What is sorted already stays as it is.

**Results.**
* `Json.perm_sortMembers`: sorted members are the members, each in its canonical form.
* `Json.lookup_sortMembers`: what is found under a key is its canonical form.
* `Json.sorted_of_canonical`, `Json.sorted_sorted`: a canonical value is its own canonical form.
-/

namespace SchemaGrammar

namespace Json

variable {ms ms' : List (String × Json)}

/-- The depth does not depend on the order of the members. -/
theorem membersDepth_perm
    (h : ms.Perm ms') :
    membersDepth ms = membersDepth ms' := by
  induction h with
  | nil => rfl
  | cons m _ ih => rw [membersDepth, membersDepth, ih]
  | swap m m' rest =>
      simp only [membersDepth]
      exact Nat.max_left_comm _ _ _
  | trans _ _ ih ih' => exact ih.trans ih'

theorem canonicalMembers_iff :
    CanonicalMembers ms ↔ ∀ m ∈ ms, m.2.Canonical := by
  induction ms with
  | nil => simp [CanonicalMembers]
  | cons m rest ih => rw [CanonicalMembers, ih, List.forall_mem_cons]

section Sorting

variable {key : String} {v : Json}

/-- Under a new key there is no first value that would stay. -/
theorem insertFirst_of_not_mem
    (hkey : key ∉ ms.map Prod.fst) :
    insertFirst key v ms = KeyMap.insertEntry key v ms := by
  rw [insertFirst, KeyMap.lookup_eq_none_iff.mpr hkey]
  rfl

theorem not_mem_of_lt
    (hkey : ∀ m ∈ ms, key < m.1) :
    key ∉ ms.map Prod.fst := by
  intro hmem
  obtain ⟨m, hm, rfl⟩ := List.mem_map.mp hmem
  exact String.lt_irrefl _ (hkey m hm)

/-- Members that are rearranged in their canonical forms have the same keys. -/
theorem perm_keys_of_perm_sorted
    (h : ms'.Perm (ms.map fun m => (m.1, m.2.sorted))) :
    (ms'.map Prod.fst).Perm (ms.map Prod.fst) := by
  have hmap := h.map Prod.fst
  rwa [List.map_map] at hmap

/-- Sorting members without repeated keys rearranges them. -/
theorem perm_sortMembers
    (hkeys : (ms.map Prod.fst).Nodup) :
    (sortMembers ms).Perm (ms.map fun m => (m.1, m.2.sorted)) := by
  induction ms with
  | nil => exact .refl _
  | cons m rest ih =>
      obtain ⟨key, v⟩ := m
      rw [List.map_cons, List.nodup_cons] at hkeys
      obtain ⟨hnew, hrest⟩ := hkeys
      have hnot : key ∉ (sortMembers rest).map Prod.fst := fun h =>
        hnew ((perm_keys_of_perm_sorted (ih hrest)).mem_iff.mp h)
      rw [sortMembers, insertFirst_of_not_mem hnot]
      exact (KeyMap.perm_insertEntry hnot).trans ((ih hrest).cons _)

/-- Sorting keeps what is found under a key. -/
theorem lookup_sortMembers
    (hkeys : (ms.map Prod.fst).Nodup)
    (name : String) :
    (sortMembers ms).lookup name = (ms.lookup name).map sorted := by
  induction ms with
  | nil => rfl
  | cons m rest ih =>
      obtain ⟨key, v⟩ := m
      rw [List.map_cons, List.nodup_cons] at hkeys
      obtain ⟨hnew, hrest⟩ := hkeys
      have hnot : key ∉ (sortMembers rest).map Prod.fst := fun h =>
        hnew ((perm_keys_of_perm_sorted (perm_sortMembers hrest)).mem_iff.mp h)
      rw [sortMembers, insertFirst_of_not_mem hnot, KeyMap.lookup_insertEntry, ih hrest,
        List.lookup_cons]
      by_cases hname : name = key
      · simp [hname]
      · have hbeq : (name == key) = false := by simpa using hname
        simp [hname, hbeq]

theorem perm_sortMembers_of_perm
    (h : ms.Perm ms')
    (hkeys : (ms'.map Prod.fst).Nodup) :
    (sortMembers ms).Perm (ms'.map fun m => (m.1, m.2.sorted)) := by
  have hnodup : (ms.map Prod.fst).Nodup := (h.map Prod.fst).nodup_iff.mpr hkeys
  exact (perm_sortMembers hnodup).trans (h.map _)

end Sorting

mutual

/-- Sorting makes a value canonical. -/
theorem canonical_sorted : ∀ v : Json, v.sorted.Canonical
  | .null | .bool _ | .num _ | .str _ => trivial
  | .arr vs => canonicalItems_sortItems vs
  | .obj ms => ⟨sortMembers_sorted ms, canonicalMembers_sortMembers ms⟩

theorem canonicalItems_sortItems : ∀ vs : List Json, CanonicalItems (sortItems vs)
  | [] => trivial
  | v :: vs => ⟨canonical_sorted v, canonicalItems_sortItems vs⟩

theorem canonicalMembers_sortMembers :
    ∀ ms : List (String × Json), CanonicalMembers (sortMembers ms)
  | [] => trivial
  | (key, v) :: ms => by
      have htail := canonicalMembers_sortMembers ms
      rw [sortMembers, insertFirst]
      split
      · exact htail
      · rw [canonicalMembers_iff] at htail ⊢
        intro m hm
        rcases KeyMap.mem_insertEntry hm with rfl | hm
        · exact canonical_sorted v
        · exact htail m hm

end

mutual

/-- A canonical value is its own canonical form. -/
theorem sorted_of_canonical : ∀ v : Json, v.Canonical → v.sorted = v
  | .null, _ | .bool _, _ | .num _, _ | .str _, _ => rfl
  | .arr vs, h => congrArg Json.arr (sortItems_of_canonical vs h)
  | .obj ms, h => congrArg Json.obj (sortMembers_of_canonical ms h.1 h.2)

theorem sortItems_of_canonical : ∀ vs : List Json, CanonicalItems vs → sortItems vs = vs
  | [], _ => rfl
  | v :: vs, h => by
      rw [sortItems, sorted_of_canonical v h.1, sortItems_of_canonical vs h.2]

theorem sortMembers_of_canonical :
    ∀ ms : List (String × Json), ms.Pairwise (fun a b => a.1 < b.1) → CanonicalMembers ms →
      sortMembers ms = ms
  | [], _, _ => rfl
  | (key, v) :: ms, hkeys, h => by
      obtain ⟨hhead, htail⟩ := List.pairwise_cons.mp hkeys
      rw [sortMembers, sorted_of_canonical v h.1, sortMembers_of_canonical ms htail h.2,
        insertFirst_of_not_mem (not_mem_of_lt hhead), KeyMap.insertEntry_of_lt hhead]

end

/-- Sorting twice is sorting once. -/
theorem sorted_sorted
    (v : Json) :
    v.sorted.sorted = v.sorted :=
  sorted_of_canonical v.sorted (canonical_sorted v)

end Json

end SchemaGrammar
