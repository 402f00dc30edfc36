import Mathlib.Data.List.Induction

/-!
# Lists that grow by new elements only

Several lists are built from the left by appending an element unless it is there already: the
undefined names of a definition, the alternatives of a choice, the names of a document.  Such
a list has the elements that were offered, each of them once.

**Results.**
* `not_sublist_swap`: without repetitions, no two elements stand in both orders.
* `mem_appendIfNew`, `nodup_appendIfNew`: one step adds one element, and none twice.
* `mem_foldl_appendIfNew`, `nodup_foldl_appendIfNew`: all steps add the elements that were
  offered, and none twice.
* `pairwise_foldl_appendIfNew`: they stand in the order in which they were first offered.
* `foldl_appendIfNew_eq_firstOccurrences`: what is kept of a list are its first occurrences.
-/

namespace SchemaGrammar.Distinct

universe u

/-- Where nothing occurs twice, no two elements stand in both orders. -/
theorem not_sublist_swap
    {α : Type u}
    {x y : α}
    {l : List α}
    (hl : l.Nodup)
    (h : [x, y].Sublist l) :
    ¬ [y, x].Sublist l := by
  intro h'
  induction l with
  | nil => cases h
  | cons a l ih =>
      obtain ⟨ha, hl⟩ := List.nodup_cons.mp hl
      cases h with
      | cons _ h =>
          have hy : y ∈ l := h.subset (by simp)
          cases h' with
          | cons _ h' => exact ih hl h h'
          | cons_cons => exact ha hy
      | cons_cons _ h =>
          have hy : y ∈ l := h.subset (by simp)
          cases h' with
          | cons _ h' => exact ha (h'.subset (by simp))
          | cons_cons => exact ha hy

variable {α : Type u} [BEq α] [LawfulBEq α]

/-- What is appended only if it is new belongs to the list in either case. -/
theorem mem_appendIfNew
    {x y : α}
    {kept : List α} :
    x ∈ (if kept.contains y then kept else kept ++ [y]) ↔ x ∈ kept ∨ x = y := by
  split
  · next h =>
      rw [List.contains_iff_mem] at h
      constructor
      · exact Or.inl
      · rintro (hx | rfl)
        · exact hx
        · exact h
  · simp

theorem nodup_appendIfNew
    {y : α}
    {kept : List α}
    (h : kept.Nodup) :
    (if kept.contains y then kept else kept ++ [y]).Nodup := by
  split
  · exact h
  · next hy =>
      rw [List.contains_iff_mem] at hy
      rw [List.nodup_append]
      refine ⟨h, by simp, ?_⟩
      intro a ha b hb
      rw [List.mem_singleton] at hb
      subst hb
      intro hab
      exact hy (hab ▸ ha)

theorem mem_foldl_appendIfNew
    {x : α}
    (offered kept : List α) :
    x ∈ offered.foldl (fun kept y => if kept.contains y then kept else kept ++ [y]) kept ↔
      x ∈ kept ∨ x ∈ offered := by
  induction offered generalizing kept with
  | nil => simp
  | cons y rest ih =>
      rw [List.foldl_cons, ih, mem_appendIfNew, List.mem_cons, or_assoc]

/-- Offering one element after the other never keeps one twice. -/
theorem nodup_foldl_appendIfNew
    {offered kept : List α}
    (h : kept.Nodup) :
    (offered.foldl (fun kept y => if kept.contains y then kept else kept ++ [y]) kept).Nodup := by
  induction offered generalizing kept with
  | nil => exact h
  | cons y rest ih => exact ih (nodup_appendIfNew h)

/-- Elements that are there already change nothing. -/
theorem foldl_appendIfNew_of_subset
    {offered kept : List α}
    (h : offered ⊆ kept) :
    offered.foldl (fun kept y => if kept.contains y then kept else kept ++ [y]) kept = kept := by
  induction offered with
  | nil => rfl
  | cons y rest ih =>
      obtain ⟨hy, hrest⟩ := List.cons_subset.mp h
      rw [List.foldl_cons, if_pos (List.contains_iff_mem.mpr hy), ih hrest]

/-- Elements that are all new and different are appended as they are. -/
theorem foldl_appendIfNew_of_nodup
    {offered kept : List α}
    (h : (kept ++ offered).Nodup) :
    offered.foldl (fun kept y => if kept.contains y then kept else kept ++ [y]) kept =
      kept ++ offered := by
  induction offered generalizing kept with
  | nil => simp
  | cons y rest ih =>
      have hnew : kept.contains y = false := by
        rw [← Bool.not_eq_true, List.contains_iff_mem]
        exact fun hy => (List.nodup_append.mp h).2.2 y hy y List.mem_cons_self rfl
      rw [List.append_cons] at h
      rw [List.foldl_cons, hnew, if_neg Bool.false_ne_true, ih h, List.append_assoc]
      rfl

/-- One element occurs in a list before another one does, if that occurs at all. -/
def MetBefore (l : List α) (x y : α) : Prop :=
  ∃ front back, l = front ++ x :: back ∧ y ∉ front ++ [x]

/-- The elements that were offered stand in the order of their first occurrences. -/
theorem pairwise_foldl_appendIfNew
    (offered : List α) :
    (offered.foldl (fun kept y => if kept.contains y then kept else kept ++ [y]) []).Pairwise
      (MetBefore offered) := by
  induction offered using List.reverseRecOn with
  | nil => exact .nil
  | append_singleton offered a ih =>
      have hlater : ∀ {x y}, MetBefore offered x y → MetBefore (offered ++ [a]) x y := by
        rintro x y ⟨front, back, rfl, hy⟩
        exact ⟨front, back ++ [a], by simp, hy⟩
      rw [List.foldl_append, List.foldl_cons, List.foldl_nil]
      split
      · exact ih.imp hlater
      · next hnew =>
          rw [List.contains_iff_mem, mem_foldl_appendIfNew, not_or] at hnew
          rw [List.pairwise_append]
          refine ⟨ih.imp hlater, List.pairwise_singleton _ _, fun x hx y hy => ?_⟩
          rw [List.mem_singleton.mp hy]
          have hoffered : x ∈ offered := by
            simpa using (mem_foldl_appendIfNew offered []).mp hx
          obtain ⟨front, back, rfl⟩ := List.append_of_mem hoffered
          refine ⟨front, back ++ [a], by simp, fun ha => hnew.2 ?_⟩
          have hsub : front ++ [x] ⊆ front ++ x :: back := by simp
          exact hsub ha

/-- The elements at whose place no equal one has been met. -/
def firstOccurrences (l : List α) : List α :=
  (l.zipIdx.filter fun (x, i) => !(l.take i).contains x).map Prod.fst

/-- The last element is a first occurrence if it does not stand before. -/
theorem firstOccurrences_concat
    (l : List α)
    (a : α) :
    firstOccurrences (l ++ [a]) =
      if l.contains a then firstOccurrences l else firstOccurrences l ++ [a] := by
  have hfront : (l.zipIdx.filter fun (x, i) => !((l ++ [a]).take i).contains x) =
      l.zipIdx.filter fun (x, i) => !(l.take i).contains x := by
    refine List.filter_congr fun ⟨x, i⟩ hmem => ?_
    have hi : i < l.length := by simpa using (List.mem_zipIdx hmem).2.1
    simp only [List.take_append_of_le_length (Nat.le_of_lt hi)]
  unfold firstOccurrences
  rw [List.zipIdx_append, List.filter_append, List.map_append, hfront]
  by_cases ha : a ∈ l <;> simp [ha]

/-- What is kept are the first occurrences, in their order. -/
theorem foldl_appendIfNew_eq_firstOccurrences
    (offered : List α) :
    offered.foldl (fun kept y => if kept.contains y then kept else kept ++ [y]) [] =
      firstOccurrences offered := by
  induction offered using List.reverseRecOn with
  | nil => rfl
  | append_singleton offered a ih =>
      have hmem : (firstOccurrences offered).contains a = offered.contains a := by
        rw [← ih, Bool.eq_iff_iff, List.contains_iff_mem, List.contains_iff_mem,
          mem_foldl_appendIfNew]
        simp
      rw [List.foldl_append, List.foldl_cons, List.foldl_nil, ih, hmem, firstOccurrences_concat]

end SchemaGrammar.Distinct
