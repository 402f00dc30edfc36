/-!
# Classes of code points, written as runs

A class of code points is a list of boundaries in increasing order: the first boundary opens
a run of members, the second closes it, the third opens the next one, and so on.  A code
point is a member if an odd number of boundaries stand at or below it.

Two classes are combined in one sweep over the boundaries of both: a boundary is kept where
the combination changes.

**Results.**
* `Runs.contains_cons_of_le`, `Runs.contains_cons_of_lt`: how one boundary decides.
* `Runs.contains_union`, `Runs.contains_intersection`, `Runs.contains_difference`: the members
  of combined classes.
-/

namespace SchemaGrammar

/-- The boundaries of the runs of a class, in increasing order. -/
abbrev Runs := List Nat

namespace Runs

section Members

/-- Whether a code point lies in a run. -/
def contains : Runs → Nat → Bool
  | [], _ => false
  | bound :: rest, n => if n < bound then false else !contains rest n

theorem contains_cons_of_lt
    {bound n : Nat}
    (rest : Runs)
    (h : n < bound) :
    contains (bound :: rest) n = false := by
  simp [contains, h]

theorem contains_cons_of_le
    {bound n : Nat}
    (rest : Runs)
    (h : bound ≤ n) :
    contains (bound :: rest) n = !contains rest n := by
  simp [contains, Nat.not_lt.mpr h]

/-- A code point below every boundary is no member. -/
theorem contains_eq_false
    {n : Nat} :
    {runs : Runs} →
    (h : ∀ bound ∈ runs, n < bound) →
    contains runs n = false
  | [], _ => rfl
  | bound :: rest, h => contains_cons_of_lt rest (h bound (List.mem_cons_self ..))

/-- Whether a character lies in a run. -/
def has (runs : Runs) (c : Char) : Bool := contains runs c.toNat

end Members

section Combination

/-- Puts a boundary in front if the class changes there. -/
def boundaryIf (before after : Bool) (bound : Nat) (rest : Runs) : Runs :=
  if before == after then rest else bound :: rest

/-- Sweeps over the boundaries of two classes; `inA` and `inB` tell whether the code points
below the first boundaries are members. -/
def combine (f : Bool → Bool → Bool) (inA inB : Bool) (a b : Runs) : Runs :=
  match a, b with
  | [], [] => []
  | x :: a, [] => boundaryIf (f inA inB) (f (!inA) inB) x (combine f (!inA) inB a [])
  | [], y :: b => boundaryIf (f inA inB) (f inA (!inB)) y (combine f inA (!inB) [] b)
  | x :: a, y :: b =>
      if x < y then boundaryIf (f inA inB) (f (!inA) inB) x (combine f (!inA) inB a (y :: b))
      else if y < x then
        boundaryIf (f inA inB) (f inA (!inB)) y (combine f inA (!inB) (x :: a) b)
      else boundaryIf (f inA inB) (f (!inA) (!inB)) x (combine f (!inA) (!inB) a b)
termination_by a.length + b.length

/-- The members of either class. -/
def union (a b : Runs) : Runs := combine (· || ·) false false a b

/-- The members of both classes. -/
def intersection (a b : Runs) : Runs := combine (· && ·) false false a b

/-- The members of the first class that the second does not have. -/
def difference (a b : Runs) : Runs := combine (fun x y => x && !y) false false a b

/-- The members of one class only. -/
def symmetricDifference (a b : Runs) : Runs := combine (· != ·) false false a b

/-- The members of any of the classes. -/
def unions (classes : List Runs) : Runs := classes.foldl union []

/-- The class with the members of an increasing list. -/
def ofSorted : List Nat → Runs
  | [] => []
  | n :: ns => union [n, n + 1] (ofSorted ns)

/-- The class with the members of a list. -/
def ofList (ns : List Nat) : Runs := ofSorted (ns.mergeSort fun a b => a ≤ b)

end Combination

section Characters

/-- The code points of characters: all but the surrogates. -/
def scalars : Runs := [0, 0xd800, 0xe000, 0x110000]

/-- The characters that a class does not have. -/
def complement (runs : Runs) : Runs := difference scalars runs

end Characters

section Membership

theorem le_of_mem_boundaryIf
    {before after : Bool}
    {bound n x : Nat}
    {rest : Runs}
    (hbound : n ≤ bound)
    (hrest : ∀ y ∈ rest, n ≤ y)
    (mem : x ∈ boundaryIf before after bound rest) :
    n ≤ x := by
  unfold boundaryIf at mem
  split at mem
  · exact hrest x mem
  · rcases List.mem_cons.mp mem with rfl | mem
    · exact hbound
    · exact hrest x mem

/-- From the boundary on, whether it is kept or not, it says how the class goes on. -/
theorem contains_boundaryIf_of_le
    {before after : Bool}
    {bound n : Nat}
    {rest : Runs}
    (h : bound ≤ n) :
    (before != contains (boundaryIf before after bound rest) n) = (after != contains rest n) := by
  cases before <;> cases after <;> simp [boundaryIf, contains_cons_of_le _ h]

/-- No boundary of a combination is below all boundaries of the classes. -/
theorem le_of_mem_combine
    {f : Bool → Bool → Bool}
    {n x : Nat}
    {inA inB : Bool}
    {a b : Runs}
    (ha : ∀ y ∈ a, n ≤ y)
    (hb : ∀ y ∈ b, n ≤ y)
    (mem : x ∈ combine f inA inB a b) :
    n ≤ x := by
  fun_induction combine f inA inB a b generalizing x with
  | case1 => simp at mem
  | case2 inA inB y a ih =>
      exact le_of_mem_boundaryIf (ha y (List.mem_cons_self ..))
        (fun z hz => ih (fun w hw => ha w (List.mem_cons_of_mem _ hw)) hb hz) mem
  | case3 inA inB y b ih =>
      exact le_of_mem_boundaryIf (hb y (List.mem_cons_self ..))
        (fun z hz => ih ha (fun w hw => hb w (List.mem_cons_of_mem _ hw)) hz) mem
  | case4 inA inB y a z b _ ih =>
      exact le_of_mem_boundaryIf (ha y (List.mem_cons_self ..))
        (fun z hz => ih (fun w hw => ha w (List.mem_cons_of_mem _ hw)) hb hz) mem
  | case5 inA inB y a z b _ _ ih =>
      exact le_of_mem_boundaryIf (hb z (List.mem_cons_self ..))
        (fun w hw => ih ha (fun v hv => hb v (List.mem_cons_of_mem _ hv)) hw) mem
  | case6 inA inB y a z b _ _ ih =>
      exact le_of_mem_boundaryIf (ha y (List.mem_cons_self ..))
        (fun w hw => ih (fun v hv => ha v (List.mem_cons_of_mem _ hv))
          (fun v hv => hb v (List.mem_cons_of_mem _ hv)) hw) mem

/-- Below the first boundary of both classes nothing has changed yet. -/
theorem contains_boundaryIf_combine_of_lt
    {f : Bool → Bool → Bool}
    {before after inA inB : Bool}
    {bound n : Nat}
    {a b : Runs}
    (ha : ∀ y ∈ a, bound ≤ y)
    (hb : ∀ y ∈ b, bound ≤ y)
    (h : n < bound) :
    contains (boundaryIf before after bound (combine f inA inB a b)) n = false :=
  contains_eq_false fun _ mem =>
    Nat.lt_of_lt_of_le h
      (le_of_mem_boundaryIf (Nat.le_refl _) (fun _ hy => le_of_mem_combine ha hb hy) mem)

/-- A sweep decides every code point as its classes do. -/
theorem contains_combine
    (f : Bool → Bool → Bool)
    {inA inB : Bool}
    {a b : Runs}
    (ha : a.Pairwise (· < ·))
    (hb : b.Pairwise (· < ·))
    (n : Nat) :
    (f inA inB != contains (combine f inA inB a b) n) =
      f (inA != contains a n) (inB != contains b n) := by
  fun_induction combine f inA inB a b with
  | case1 => simp [contains]
  | case2 inA inB x a ih =>
      obtain ⟨hx, ha⟩ := List.pairwise_cons.mp ha
      by_cases h : n < x
      · rw [contains_boundaryIf_combine_of_lt (fun y hy => Nat.le_of_lt (hx y hy)) (by simp) h,
          contains_cons_of_lt _ h]
        simp [contains]
      · have h := Nat.not_lt.mp h
        rw [contains_boundaryIf_of_le h, ih ha hb, contains_cons_of_le _ h]
        simp
  | case3 inA inB y b ih =>
      obtain ⟨hy, hb⟩ := List.pairwise_cons.mp hb
      by_cases h : n < y
      · rw [contains_boundaryIf_combine_of_lt (by simp) (fun x hx => Nat.le_of_lt (hy x hx)) h,
          contains_cons_of_lt _ h]
        simp [contains]
      · have h := Nat.not_lt.mp h
        rw [contains_boundaryIf_of_le h, ih ha hb, contains_cons_of_le _ h]
        simp
  | case4 inA inB x a y b hxy ih =>
      obtain ⟨hx, ha'⟩ := List.pairwise_cons.mp ha
      obtain ⟨hy, _⟩ := List.pairwise_cons.mp hb
      by_cases h : n < x
      · have above : ∀ z ∈ y :: b, x ≤ z := fun z hz => by
          rcases List.mem_cons.mp hz with rfl | hz
          · exact Nat.le_of_lt hxy
          · exact Nat.le_of_lt (Nat.lt_trans hxy (hy z hz))
        rw [contains_boundaryIf_combine_of_lt (fun z hz => Nat.le_of_lt (hx z hz)) above h,
          contains_cons_of_lt _ h, contains_cons_of_lt _ (Nat.lt_trans h hxy)]
        simp
      · have h := Nat.not_lt.mp h
        rw [contains_boundaryIf_of_le h, ih ha' hb, contains_cons_of_le a h]
        simp
  | case5 inA inB x a y b hxy hyx ih =>
      obtain ⟨hx, _⟩ := List.pairwise_cons.mp ha
      obtain ⟨hy, hb'⟩ := List.pairwise_cons.mp hb
      by_cases h : n < y
      · have above : ∀ z ∈ x :: a, y ≤ z := fun z hz => by
          rcases List.mem_cons.mp hz with rfl | hz
          · exact Nat.le_of_lt hyx
          · exact Nat.le_of_lt (Nat.lt_trans hyx (hx z hz))
        rw [contains_boundaryIf_combine_of_lt above (fun z hz => Nat.le_of_lt (hy z hz)) h,
          contains_cons_of_lt _ h, contains_cons_of_lt _ (Nat.lt_trans h hyx)]
        simp
      · have h := Nat.not_lt.mp h
        rw [contains_boundaryIf_of_le h, ih ha hb', contains_cons_of_le b h]
        simp
  | case6 inA inB x a y b hxy hyx ih =>
      have heq : y = x := Nat.le_antisymm (Nat.not_lt.mp hxy) (Nat.not_lt.mp hyx)
      subst heq
      obtain ⟨hx, ha'⟩ := List.pairwise_cons.mp ha
      obtain ⟨hy, hb'⟩ := List.pairwise_cons.mp hb
      by_cases h : n < y
      · rw [contains_boundaryIf_combine_of_lt (fun z hz => Nat.le_of_lt (hx z hz))
            (fun z hz => Nat.le_of_lt (hy z hz)) h,
          contains_cons_of_lt _ h, contains_cons_of_lt _ h]
        simp
      · have h := Nat.not_lt.mp h
        rw [contains_boundaryIf_of_le h, ih ha' hb', contains_cons_of_le a h,
          contains_cons_of_le b h]
        simp

theorem pairwise_boundaryIf
    {before after : Bool}
    {bound : Nat}
    {rest : Runs}
    (hbound : ∀ y ∈ rest, bound < y)
    (hrest : rest.Pairwise (· < ·)) :
    (boundaryIf before after bound rest).Pairwise (· < ·) := by
  unfold boundaryIf
  split
  · exact hrest
  · exact List.pairwise_cons.mpr ⟨hbound, hrest⟩

/-- The boundaries of a combination are in increasing order, too. -/
theorem pairwise_combine
    (f : Bool → Bool → Bool)
    {inA inB : Bool}
    {a b : Runs}
    (ha : a.Pairwise (· < ·))
    (hb : b.Pairwise (· < ·)) :
    (combine f inA inB a b).Pairwise (· < ·) := by
  fun_induction combine f inA inB a b with
  | case1 => exact List.Pairwise.nil
  | case2 inA inB x a ih =>
      obtain ⟨hx, ha⟩ := List.pairwise_cons.mp ha
      exact pairwise_boundaryIf
        (fun _ mem => le_of_mem_combine (fun z hz => hx z hz) (by simp) mem) (ih ha hb)
  | case3 inA inB y b ih =>
      obtain ⟨hy, hb⟩ := List.pairwise_cons.mp hb
      exact pairwise_boundaryIf
        (fun _ mem => le_of_mem_combine (by simp) (fun z hz => hy z hz) mem) (ih ha hb)
  | case4 inA inB x a y b hxy ih =>
      obtain ⟨hx, ha'⟩ := List.pairwise_cons.mp ha
      obtain ⟨hy, _⟩ := List.pairwise_cons.mp hb
      have above : ∀ z ∈ y :: b, x < z := fun z hz => by
        rcases List.mem_cons.mp hz with rfl | hz
        · exact hxy
        · exact Nat.lt_trans hxy (hy z hz)
      exact pairwise_boundaryIf
        (fun _ mem => le_of_mem_combine (fun z hz => hx z hz) above mem) (ih ha' hb)
  | case5 inA inB x a y b hxy hyx ih =>
      obtain ⟨hx, _⟩ := List.pairwise_cons.mp ha
      obtain ⟨hy, hb'⟩ := List.pairwise_cons.mp hb
      have above : ∀ z ∈ x :: a, y < z := fun z hz => by
        rcases List.mem_cons.mp hz with rfl | hz
        · exact hyx
        · exact Nat.lt_trans hyx (hx z hz)
      exact pairwise_boundaryIf
        (fun _ mem => le_of_mem_combine above (fun z hz => hy z hz) mem) (ih ha hb')
  | case6 inA inB x a y b hxy hyx ih =>
      have heq : y = x := Nat.le_antisymm (Nat.not_lt.mp hxy) (Nat.not_lt.mp hyx)
      subst heq
      obtain ⟨hx, ha'⟩ := List.pairwise_cons.mp ha
      obtain ⟨hy, hb'⟩ := List.pairwise_cons.mp hb
      exact pairwise_boundaryIf
        (fun _ mem => le_of_mem_combine (fun z hz => hx z hz) (fun z hz => hy z hz) mem)
        (ih ha' hb')

theorem contains_union
    {a b : Runs}
    (ha : a.Pairwise (· < ·))
    (hb : b.Pairwise (· < ·))
    (n : Nat) :
    (union a b).contains n = (a.contains n || b.contains n) := by
  simpa [union] using @contains_combine (· || ·) false false a b ha hb n

theorem contains_intersection
    {a b : Runs}
    (ha : a.Pairwise (· < ·))
    (hb : b.Pairwise (· < ·))
    (n : Nat) :
    (intersection a b).contains n = (a.contains n && b.contains n) := by
  simpa [intersection] using @contains_combine (· && ·) false false a b ha hb n

theorem contains_difference
    {a b : Runs}
    (ha : a.Pairwise (· < ·))
    (hb : b.Pairwise (· < ·))
    (n : Nat) :
    (difference a b).contains n = (a.contains n && !b.contains n) := by
  simpa [difference] using @contains_combine (fun x y => x && !y) false false a b ha hb n

end Membership

end Runs

end SchemaGrammar
