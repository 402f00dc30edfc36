/-!
# The front of a list

Where items that have a property are followed by one that has it not, the front of the list is
told from the rest.

**Results.**
* `Front.takeWhile_append`, `Front.dropWhile_append`: what is taken and what is left.
* `Front.append_cancel`: a list has one front.
-/

namespace SchemaGrammar.Front

universe u

section OneFront

variable {α : Type u} {p : α → Bool} {front other rest more : List α}

/-- What stands in front is taken up to the boundary. -/
theorem takeWhile_append
    (hfront : ∀ a ∈ front, p a = true)
    (hrest : ∀ a ∈ rest.head?, p a = false) :
    (front ++ rest).takeWhile p = front := by
  rw [List.takeWhile_append_of_pos hfront]
  cases rest with
  | nil => rw [List.takeWhile_nil, List.append_nil]
  | cons a rest =>
      rw [List.takeWhile_cons_of_neg (Bool.not_eq_true _ ▸ hrest a rfl), List.append_nil]

/-- What stands behind the boundary is left. -/
theorem dropWhile_append
    (hfront : ∀ a ∈ front, p a = true)
    (hrest : ∀ a ∈ rest.head?, p a = false) :
    (front ++ rest).dropWhile p = rest := by
  rw [List.dropWhile_append_of_pos hfront]
  cases rest with
  | nil => rw [List.dropWhile_nil]
  | cons a rest => rw [List.dropWhile_cons_of_neg (Bool.not_eq_true _ ▸ hrest a rfl)]

/-- Lists that are the same have the same front. -/
theorem append_cancel
    (hfront : ∀ a ∈ front, p a = true)
    (hother : ∀ a ∈ other, p a = true)
    (hrest : ∀ a ∈ rest.head?, p a = false)
    (hmore : ∀ a ∈ more.head?, p a = false)
    (h : front ++ rest = other ++ more) :
    front = other ∧ rest = more := by
  have hsame : front = other := by
    rw [← takeWhile_append hfront hrest, h, takeWhile_append hother hmore]
  rw [hsame] at h
  exact ⟨hsame, List.append_cancel_left h⟩

end OneFront

end SchemaGrammar.Front
