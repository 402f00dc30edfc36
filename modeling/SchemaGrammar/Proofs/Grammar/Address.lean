import SchemaGrammar.Proofs.Collection.Distinct
import SchemaGrammar.Proofs.Grammar.Element
import Mathlib.Order.Basic
import Mathlib.Data.List.Lex

/-!
# Addresses of parts

The address of a part tells which child to go to, from the whole down to the part.  Addresses
are ordered like words in a dictionary, so that an element stands before its children and
everything below one child before everything below the next.  This is the pre-order, and it does
not depend on any way of listing the parts.

**Results.**
* `Element.At`: a part stands at an address; `Element.RefersBefore`: one name is met before
  another in the order of addresses.
* `Element.map_snd_places`, `Element.mem_places`, `Element.pairwise_places`: the walk lists every
  part at each of its addresses, in the order of the addresses.
* `Element.pairwise_refersBefore`: so are the names that it refers to, each at its first address.
-/

namespace SchemaGrammar.Element

/-- The part `d` of `e` stands at an address. -/
inductive At : Element → List Nat → Element → Prop
  | self (e : Element) : At e [] e
  | child {e child d : Element} {i : Nat} {address : List Nat} :
      e.children[i]? = some child →
      At child address d →
      At e (i :: address) d

/-- The element refers to a name somewhere. -/
def RefersAt (e : Element) (name : String) (address : List Nat) : Prop :=
  e.At address (.nonTerminal name)

/-- Some reference to one name stands before every reference to another. -/
def RefersBefore (e : Element) (first second : String) : Prop :=
  ∃ address, e.RefersAt first address ∧
    ∀ other, e.RefersAt second other → address < other

theorem RefersBefore.asymm
    {e : Element}
    {m n : String}
    (h : e.RefersBefore m n) :
    ¬ e.RefersBefore n m := by
  rintro ⟨q, hq, hqm⟩
  obtain ⟨p, hp, hpn⟩ := h
  exact lt_asymm (hpn q hq) (hqm p hp)

section Children

/-- Induction over elements: an element may use the claim for all of its children. -/
@[elab_as_elim]
theorem inductionOnChildren
    {motive : Element → Prop}
    (e : Element)
    (node : ∀ e, (∀ child ∈ e.children, motive child) → motive e) :
    motive e := by
  induction e using inductionOn with
  | terminal name pattern => exact node _ (List.forall_mem_nil motive)
  | nonTerminal name => exact node _ (List.forall_mem_nil motive)
  | sequence es ih => exact node _ ih
  | oneOf es ih => exact node _ ih
  | optional e ih => exact node _ (List.forall_mem_singleton.mpr ih)
  | list e ih => exact node _ (List.forall_mem_singleton.mpr ih)

/-- A walk begins at the element and goes on through its parts. -/
theorem walk_eq_cons
    (e : Element) :
    e.walk = e :: walkList e.children := by
  cases e with
  | terminal | nonTerminal | sequence | oneOf => rfl
  | optional e | list e => simp [walk, children, walkList]

end Children

section Places

def belowChild (i : Nat) (place : List Nat × Element) : List Nat × Element :=
  (i :: place.1, place.2)

mutual

/-- The parts with their addresses, as a walk meets them. -/
def places : Element → List (List Nat × Element)
  | .terminal n p => [([], .terminal n p)]
  | .nonTerminal n => [([], .nonTerminal n)]
  | .sequence es => ([], .sequence es) :: placesBelow 0 es
  | .oneOf es => ([], .oneOf es) :: placesBelow 0 es
  | .optional e => ([], .optional e) :: (places e).map (belowChild 0)
  | .list e => ([], .list e) :: (places e).map (belowChild 0)

def placesBelow : Nat → List Element → List (List Nat × Element)
  | _, [] => []
  | i, e :: es => (places e).map (belowChild i) ++ placesBelow (i + 1) es

end

theorem places_eq_cons
    (e : Element) :
    e.places = ([], e) :: placesBelow 0 e.children := by
  cases e with
  | terminal | nonTerminal | sequence | oneOf => simp [places, children, placesBelow]
  | optional e | list e => simp [places, children, placesBelow]

section Below

variable {es : List Element} {i : Nat}

theorem map_snd_placesBelow
    (h : ∀ e ∈ es, e.places.map Prod.snd = e.walk) :
    (placesBelow i es).map Prod.snd = walkList es := by
  induction es generalizing i with
  | nil => rfl
  | cons e es ih =>
      obtain ⟨he, hes⟩ := List.forall_mem_cons.mp h
      rw [placesBelow, List.map_append, List.map_map, ih hes, walkList, ← he]
      rfl

/-- A place lies below one of the parts, and begins with its number. -/
theorem mem_placesBelow
    {address : List Nat}
    {d : Element} :
    (address, d) ∈ placesBelow i es ↔
      ∃ k e rest, es[k]? = some e ∧ address = (i + k) :: rest ∧ (rest, d) ∈ e.places := by
  induction es generalizing i with
  | nil => simp [placesBelow]
  | cons e es ih =>
      rw [placesBelow, List.mem_append, List.mem_map, ih]
      constructor
      · rintro (⟨⟨rest, d'⟩, hmem, heq⟩ | ⟨k, c, rest, hk, haddress, hmem⟩)
        · cases heq
          exact ⟨0, e, rest, rfl, rfl, hmem⟩
        · exact ⟨k + 1, c, rest, hk, by rw [haddress, Nat.add_right_comm, Nat.add_assoc], hmem⟩
      · rintro ⟨k, c, rest, hk, rfl, hmem⟩
        cases k with
        | zero =>
            cases hk
            exact .inl ⟨(rest, d), hmem, rfl⟩
        | succ k => exact .inr ⟨k, c, rest, hk, by rw [Nat.add_right_comm, Nat.add_assoc], hmem⟩

/-- Places come in the order of their addresses. -/
theorem pairwise_placesBelow
    (h : ∀ e ∈ es, e.places.Pairwise fun a b => a.1 < b.1) :
    (placesBelow i es).Pairwise fun a b => a.1 < b.1 := by
  induction es generalizing i with
  | nil => exact .nil
  | cons e es ih =>
      obtain ⟨he, hes⟩ := List.forall_mem_cons.mp h
      rw [placesBelow, List.pairwise_append]
      refine ⟨List.pairwise_map.mpr (he.imp fun hlt => ?_), ih hes, ?_⟩
      · exact List.cons_lt_cons_iff.mpr (.inr ⟨rfl, hlt⟩)
      · rintro _ hleft ⟨address, d⟩ hright
        obtain ⟨place, -, rfl⟩ := List.mem_map.mp hleft
        obtain ⟨k, -, rest, -, rfl, -⟩ := mem_placesBelow.mp hright
        exact List.cons_lt_cons_iff.mpr (.inl (by omega))

end Below

variable {e : Element}

/-- The places are those of the walk. -/
theorem map_snd_places
    (e : Element) :
    e.places.map Prod.snd = e.walk := by
  induction e using inductionOnChildren with
  | node e ih =>
      rw [places_eq_cons, walk_eq_cons, List.map_cons, map_snd_placesBelow ih]

/-- A part is listed at each of its addresses. -/
theorem mem_places
    {address : List Nat}
    {d : Element} :
    (address, d) ∈ e.places ↔ e.At address d := by
  induction e using inductionOnChildren generalizing address with
  | node e ih =>
      rw [places_eq_cons, List.mem_cons, mem_placesBelow]
      constructor
      · rintro (heq | ⟨k, child, rest, hk, rfl, hmem⟩)
        · cases heq
          exact .self _
        · rw [Nat.zero_add]
          exact .child hk ((ih child (List.mem_of_getElem? hk)).mp hmem)
      · rintro (- | ⟨hk, hat⟩)
        · exact .inl rfl
        · exact .inr ⟨_, _, _, hk, by rw [Nat.zero_add],
            (ih _ (List.mem_of_getElem? hk)).mpr hat⟩

/-- The places stand in the order of their addresses. -/
theorem pairwise_places
    (e : Element) :
    e.places.Pairwise fun a b => a.1 < b.1 := by
  induction e using inductionOnChildren with
  | node e ih =>
      rw [places_eq_cons, List.pairwise_cons]
      refine ⟨?_, pairwise_placesBelow ih⟩
      rintro ⟨address, d⟩ hmem
      obtain ⟨k, -, rest, -, rfl, -⟩ := mem_placesBelow.mp hmem
      exact List.nil_lt_cons _ _

end Places

section References

variable {e : Element}

/-- The names referred to with the addresses of the references. -/
def referencePlaces (e : Element) : List (List Nat × String) :=
  e.places.filterMap fun place => place.2.nonTerminal?.map (place.1, ·)

theorem map_snd_referencePlaces
    (e : Element) :
    e.referencePlaces.map Prod.snd = e.references := by
  rw [referencePlaces, references, ← map_snd_places, List.map_filterMap, List.filterMap_map]
  refine congrArg (List.filterMap · _) (funext fun place => ?_)
  simp [Option.map_map, Function.comp_def]

theorem nonTerminal?_eq_some_iff
    {d : Element}
    {name : String} :
    d.nonTerminal? = some name ↔ d = .nonTerminal name := by
  cases d <;> simp [nonTerminal?]

/-- The references are listed with the places where they stand. -/
theorem mem_referencePlaces
    {address : List Nat}
    {name : String} :
    (address, name) ∈ e.referencePlaces ↔ e.RefersAt name address := by
  rw [referencePlaces, List.mem_filterMap, RefersAt, ← mem_places]
  constructor
  · rintro ⟨⟨address', d⟩, hmem, heq⟩
    obtain ⟨name', hname, hpair⟩ := Option.map_eq_some_iff.mp heq
    obtain rfl : d = .nonTerminal name' := nonTerminal?_eq_some_iff.mp hname
    cases hpair
    exact hmem
  · intro hmem
    exact ⟨_, hmem, rfl⟩

/-- The names referred to are those that stand at some address. -/
theorem mem_references_iff
    {name : String} :
    name ∈ e.references ↔ ∃ address, e.RefersAt name address := by
  rw [← map_snd_referencePlaces, List.mem_map]
  constructor
  · rintro ⟨⟨address, name'⟩, hmem, rfl⟩
    exact ⟨address, mem_referencePlaces.mp hmem⟩
  · rintro ⟨address, hat⟩
    exact ⟨(address, name), mem_referencePlaces.mpr hat, rfl⟩

/-- References come in the order of their addresses. -/
theorem pairwise_referencePlaces
    (e : Element) :
    e.referencePlaces.Pairwise fun a b => a.1 < b.1 := by
  refine (pairwise_places e).filterMap _ fun a b hlt a' ha b' hb => ?_
  obtain ⟨_, -, rfl⟩ := Option.map_eq_some_iff.mp ha
  obtain ⟨_, -, rfl⟩ := Option.map_eq_some_iff.mp hb
  exact hlt

/-- Some of the names referred to, each listed once, stand in the order in which they are met. -/
theorem pairwise_refersBefore
    (e : Element)
    (keep : String → Bool) :
    ((e.references.filter keep).foldl
      (fun seen name => if seen.contains name then seen else seen ++ [name]) []).Pairwise
      e.RefersBefore := by
  have hkept : e.references.filter keep =
      (e.referencePlaces.filter fun place => keep place.2).map Prod.snd := by
    rw [← map_snd_referencePlaces, List.filter_map]
    rfl
  have hsorted := (pairwise_referencePlaces e).filter fun place => keep place.2
  refine (Distinct.pairwise_foldl_appendIfNew _).imp_of_mem ?_
  rintro first second - hsecond ⟨front, back, hsplit, hnot⟩
  have hkeep : keep second = true := by
    rw [Distinct.mem_foldl_appendIfNew, List.mem_filter] at hsecond
    exact (hsecond.resolve_left List.not_mem_nil).2
  rw [hkept, List.map_eq_append_iff] at hsplit
  obtain ⟨before, rest, hplaces, rfl, hrest⟩ := hsplit
  obtain ⟨⟨address, first⟩, after, rfl, rfl, rfl⟩ := List.map_eq_cons_iff.mp hrest
  have hlisted : (address, first) ∈ e.referencePlaces.filter fun place => keep place.2 := by
    rw [hplaces]
    exact List.mem_append_cons_self
  rw [hplaces] at hsorted
  obtain ⟨-, hafter, -⟩ := List.pairwise_append.mp hsorted
  refine ⟨address, mem_referencePlaces.mp (List.mem_of_mem_filter hlisted), fun other hother => ?_⟩
  -- A reference to `second` can only stand behind: `second` is not met up to `first`.
  have hmem : (other, second) ∈ before ++ (address, first) :: after := by
    rw [← hplaces]
    exact List.mem_filter.mpr ⟨mem_referencePlaces.mpr hother, hkeep⟩
  rw [List.mem_append, List.mem_singleton, not_or] at hnot
  rcases List.mem_append.mp hmem with hbefore | hmem
  · exact absurd (List.mem_map_of_mem hbefore) hnot.1
  · rcases List.mem_cons.mp hmem with heq | hafter'
    · exact absurd (congrArg Prod.snd heq) hnot.2
    · exact (List.pairwise_cons.mp hafter).1 _ hafter'

end References

end SchemaGrammar.Element
