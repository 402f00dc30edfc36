import SchemaGrammar.Regex.Basic

/-!
# Expressions in their simplest form

Expressions are put together by functions that keep them simple.  A set of one character is a
text.  A sequence has no empty parts, no sequences among its parts and no two texts side by
side.  A choice between characters or between sets is a set; sequences that begin with the same
parts share them.  What takes no character is repeated once at most.

**Results.**
* `Regex.ofClass`, `Regex.literal`, `Regex.sequence`, `Regex.choice` and `Regex.repetition`
  put expressions together.
* `Regex.totalWeight_suffixes_lt`: to share the first parts of branches makes them smaller.
-/

namespace SchemaGrammar.Regex

section Texts

/-- The expression that matches one character of a set. -/
def ofClass (set : CharClass) : Regex :=
  match set.only? with
  | some c => text [c]
  | none => chars set

/-- The expression that matches a text and nothing else. -/
def literal (s : String) : Regex := if s.isEmpty then empty else text s.toList

end Texts

section Sequences

/-- Puts a part in front; two texts that meet become one. -/
def inFront (r : Regex) (rest : List Regex) : List Regex :=
  match r, rest with
  | text s, text t :: rest => text (s ++ t) :: rest
  | r, rest => r :: rest

/-- Several expressions, one after the other. -/
def sequence (rs : List Regex) : Regex := concatOf ((rs.flatMap items).foldr inFront [])

end Sequences

section Repetitions

/-- An expression, repeated between `least` and `most` times. -/
def repetition (body : Regex) (least : Nat) (most : Option Nat) (greedy : Bool) : Regex :=
  let (least, most) :=
    if body.takesNothing then (min least 1, some (min (most.getD 1) 1)) else (least, most)
  if most = some 0 then empty
  else if least = 1 ∧ most = some 1 then body
  else repeated body least most greedy

end Repetitions

section Weights

/-- The number of parts of an expression, however sequences and choices are nested. -/
def weight : Regex → Nat
  | empty => 0
  | concat a b => a.weight + b.weight
  | either a b => a.weight + b.weight + 1
  | _ => 1

/-- The number of parts of several expressions. -/
def totalWeight : List Regex → Nat
  | [] => 0
  | r :: rs => r.weight + totalWeight rs

theorem totalWeight_append
    (rs ss : List Regex) :
    totalWeight (rs ++ ss) = totalWeight rs + totalWeight ss := by
  induction rs with
  | nil => simp [totalWeight]
  | cons r rs ih => simp [totalWeight, ih, Nat.add_assoc]

theorem weight_concatOf :
    (rs : List Regex) →
    (concatOf rs).weight = totalWeight rs
  | [] => rfl
  | [r] => rfl
  | r :: s :: rs => by
      simp [concatOf, weight, totalWeight, weight_concatOf (s :: rs)]

theorem totalWeight_items
    (r : Regex) :
    totalWeight r.items = r.weight := by
  induction r with
  | concat a b iha ihb => simp [items, weight, totalWeight_append, iha, ihb]
  | _ => simp [items, weight, totalWeight]

theorem totalWeight_branches_le
    (r : Regex) :
    totalWeight r.branches ≤ r.weight := by
  induction r with
  | either a b iha ihb =>
      simp only [branches, weight, totalWeight_append]
      omega
  | _ => simp [branches, totalWeight]

theorem totalWeight_flatMap_branches_le
    (rs : List Regex) :
    totalWeight (rs.flatMap branches) ≤ totalWeight rs := by
  induction rs with
  | nil => exact Nat.le_refl _
  | cons r rs ih =>
      simp only [List.flatMap_cons, totalWeight_append, totalWeight]
      exact Nat.add_le_add (totalWeight_branches_le r) ih

/-- Every part of a sequence has a part of its own. -/
theorem weight_pos_of_mem_items
    {r s : Regex}
    (mem : s ∈ r.items) :
    0 < s.weight := by
  induction r with
  | concat a b iha ihb =>
      rcases List.mem_append.mp mem with mem | mem
      · exact iha mem
      · exact ihb mem
  | empty => simp [items] at mem
  | _ =>
      obtain rfl := List.mem_singleton.mp mem
      simp [weight]

end Weights

section Choices

/-- The characters of branches that are one character each. -/
def characters? : List Regex → Option (List Char)
  | [] => some []
  | text [c] :: rs => (characters? rs).map (c :: ·)
  | _ => none

/-- The sets of branches that are sets. -/
def sets? : List Regex → Option (List CharClass)
  | [] => some []
  | chars set :: rs => (sets? rs).map (set :: ·)
  | _ => none

/-- Whether an expression is a sequence. -/
def isSequence : Regex → Bool
  | concat _ _ => true
  | _ => false

/-- What two lists begin with in common. -/
def commonPrefix : List Regex → List Regex → List Regex
  | r :: rs, s :: ss => if r = s then r :: commonPrefix rs ss else []
  | _, _ => []

/-- The parts that all branches begin with, if all of them are sequences. -/
def sharedItems : List Regex → List Regex
  | [] => []
  | r :: rs =>
      if (r :: rs).all isSequence then
        rs.foldl (fun shared s => commonPrefix shared s.items) r.items
      else []

/-- The branches without their first parts. -/
def suffixes (count : Nat) (rs : List Regex) : List Regex :=
  rs.map fun r => concatOf (r.items.drop count)

theorem foldl_commonPrefix_nil
    (rs : List Regex) :
    rs.foldl (fun shared s => commonPrefix shared s.items) [] = [] := by
  induction rs with
  | nil => rfl
  | cons r rs ih => simpa [commonPrefix] using ih

theorem totalWeight_drop_le
    (count : Nat) :
    (rs : List Regex) →
    totalWeight (rs.drop count) ≤ totalWeight rs := by
  induction count with
  | zero => intro rs; exact Nat.le_refl _
  | succ count ih =>
      intro rs
      cases rs with
      | nil => exact Nat.le_refl _
      | cons r rs => exact Nat.le_trans (ih rs) (Nat.le_add_left _ _)

theorem totalWeight_suffixes_le
    (count : Nat)
    (rs : List Regex) :
    totalWeight (suffixes count rs) ≤ totalWeight rs := by
  induction rs with
  | nil => exact Nat.le_refl _
  | cons r rs ih =>
      have here : (concatOf (r.items.drop count)).weight ≤ r.weight := by
        rw [weight_concatOf, ← totalWeight_items r]
        exact totalWeight_drop_le count r.items
      exact Nat.add_le_add here ih

/-- The branches get smaller without the parts that they share. -/
theorem totalWeight_suffixes_lt
    {rs : List Regex}
    (h : sharedItems rs ≠ []) :
    totalWeight (suffixes (sharedItems rs).length rs) < totalWeight rs := by
  cases rs with
  | nil => exact absurd rfl h
  | cons r rs =>
      obtain ⟨count, hcount⟩ : ∃ count, (sharedItems (r :: rs)).length = count + 1 :=
        Nat.exists_eq_succ_of_ne_zero fun hzero => h (List.eq_nil_of_length_eq_zero hzero)
      have nonempty : r.items ≠ [] := by
        intro hnil
        apply h
        simp only [sharedItems, hnil, foldl_commonPrefix_nil, ite_self]
      obtain ⟨s, ss, hitems⟩ := List.exists_cons_of_ne_nil nonempty
      have here : (concatOf (r.items.drop (count + 1))).weight < r.weight := by
        have pos : 0 < s.weight :=
          weight_pos_of_mem_items (r := r) (by rw [hitems]; exact List.mem_cons_self ..)
        have le := totalWeight_drop_le count ss
        rw [weight_concatOf, ← totalWeight_items r, hitems]
        simp only [List.drop_succ_cons, totalWeight]
        omega
      rw [hcount]
      exact Nat.add_lt_add_of_lt_of_le here (totalWeight_suffixes_le (count + 1) rs)

/-- A choice between several expressions. -/
def choice (rs : List Regex) : Regex :=
  let bs := rs.flatMap branches
  match characters? bs, sets? bs with
  | some cs, _ => ofClass (.unions (cs.map .single))
  | none, some sets => ofClass (.unions sets)
  | none, none =>
      if bs.length ≤ 1 then eitherOf bs
      else if h : sharedItems bs = [] then eitherOf bs
      else
        have : totalWeight (suffixes (sharedItems bs).length bs) < totalWeight rs :=
          Nat.lt_of_lt_of_le (totalWeight_suffixes_lt h) (totalWeight_flatMap_branches_le rs)
        sequence (sharedItems bs ++ [choice (suffixes (sharedItems bs).length bs)])
termination_by totalWeight rs

end Choices

end SchemaGrammar.Regex
