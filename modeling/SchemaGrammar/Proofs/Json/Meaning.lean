import SchemaGrammar.Json.Decode

/-!
# What a document stands for

A sound document stands for one value, whichever way its strings are written.  Reading it gives
the value, unless arrays and objects are nested deeper than is allowed; then the reading ends
with this error, and with no other.

**Results.**
* `Doc.standsFor_ofJson`: the document of a value stands for it.
* `Doc.StandsFor.read`: a document is read as the value that it stands for.
-/

namespace SchemaGrammar

universe u v

namespace Allowance

/-- Whether containers may be nested so deep. -/
def admits : Allowance → Nat → Bool
  | none, _ => true
  | some limit, depth => decide (depth ≤ limit)

/-- A result, or an error if what it is made of is nested too deep. -/
def grant {ε : Type u} {α : Type v} (a : Allowance) (tooDeep : ε) (depth : Nat) (x : α) :
    Except ε α :=
  if a.admits depth then .ok x else .error tooDeep

section Grant

variable {ε : Type u} {α β : Type v} (a : Allowance) (tooDeep : ε) (m n : Nat) (x : α)

@[simp] theorem admits_zero : a.admits 0 = true := by
  cases a <;> simp [admits]

/-- Both parts must be allowed. -/
@[simp] theorem admits_max : a.admits (max m n) = (a.admits m && a.admits n) := by
  cases a with
  | none => rfl
  | some limit =>
      unfold admits
      rw [Bool.eq_iff_iff, Bool.and_eq_true, decide_eq_true_iff, decide_eq_true_iff,
        decide_eq_true_iff, Nat.max_le]

@[simp] theorem grant_zero : a.grant tooDeep 0 x = .ok x := by
  simp [grant]

@[simp] theorem grant_none : grant none tooDeep n x = .ok x := rfl

variable {a} {tooDeep} {m} {n} {x}

/-- One granted step after another is granted if the deeper of the two is. -/
theorem grant_bind
    {y : β}
    {f : α → Except ε β}
    (h : f x = a.grant tooDeep n y) :
    (a.grant tooDeep m x >>= f) = a.grant tooDeep (max m n) y := by
  unfold grant at h ⊢
  rw [admits_max]
  cases a.admits m with
  | false => rfl
  | true => exact h

/-- What is granted and then succeeds is granted. -/
theorem grant_bind_ok
    {y : β}
    {f : α → Except ε β}
    (h : f x = .ok y) :
    (a.grant tooDeep m x >>= f) = a.grant tooDeep m y := by
  have hzero : f x = a.grant tooDeep 0 y := h.trans (a.grant_zero tooDeep y).symm
  have hbind := grant_bind (m := m) hzero
  rwa [Nat.max_zero] at hbind

/-- A function may be applied before the grant or behind it. -/
theorem map_grant
    (f : α → β) :
    (a.grant tooDeep n x).map f = a.grant tooDeep n (f x) := by
  unfold grant
  cases a.admits n <;> rfl

theorem ofSyntax_grant
    {α : Type}
    {x : α} :
    Decoded.ofSyntax (a.grant .tooDeep n x) = a.grant (.malformed .tooDeep) n x := by
  unfold grant
  cases a.admits n <;> rfl

/-- A container counts for one. -/
theorem enter_bind
    {α : Type}
    {x : α}
    {f : Allowance → Except SyntaxError α}
    (h : ∀ inner, f inner = inner.grant .tooDeep n x) :
    (a.enter >>= f) = a.grant .tooDeep (n + 1) x := by
  cases a with
  | none => exact h none
  | some limit =>
      cases limit with
      | zero => simp [enter, grant, admits, bind, Except.bind]
      | succ limit =>
          refine (h (some limit)).trans ?_
          simp [grant, admits]

end Grant

end Allowance

/-- One level down, one level less is granted. -/
theorem Reading.enter_bind
    {r : Reading}
    {n : Nat}
    {α : Type}
    {x : α}
    {f : Reading → Decoded α}
    (h : ∀ inner, f inner = inner.allowance.grant (.malformed .tooDeep) n x) :
    (r.enter >>= f) = r.allowance.grant (.malformed .tooDeep) (n + 1) x := by
  have hsyntax := Allowance.enter_bind (a := r.allowance) (n := n) (x := x) fun _ => rfl
  rw [← Allowance.ofSyntax_grant, ← hsyntax]
  unfold Reading.enter
  cases r.allowance.enter with
  | error e => rfl
  | ok inner => exact (h _).trans Allowance.ofSyntax_grant.symm

namespace Doc

mutual

/-- A document stands for a value. -/
inductive StandsFor : Doc → Json → Prop
  | null : StandsFor .null .null
  | bool (b : Bool) : StandsFor (.bool b) (.bool b)
  | num (n : Number) : StandsFor (.num (some n)) (.num n)
  | str {lit : StringLit} {s : String} :
      lit.read = .ok s →
      StandsFor (.str lit) (.str s)
  | arr {ds : List Doc} {vs : List Json} :
      ItemsStandFor ds vs →
      StandsFor (.arr ds .closed) (.arr vs)
  | obj {ds : List (StringLit × Doc)} {vs : List (String × Json)} :
      MembersStandFor ds vs →
      StandsFor (.obj ds .closed) (.obj vs)

inductive ItemsStandFor : List Doc → List Json → Prop
  | nil : ItemsStandFor [] []
  | cons {d : Doc} {ds : List Doc} {v : Json} {vs : List Json} :
      StandsFor d v →
      ItemsStandFor ds vs →
      ItemsStandFor (d :: ds) (v :: vs)

inductive MembersStandFor : List (StringLit × Doc) → List (String × Json) → Prop
  | nil : MembersStandFor [] []
  | cons {lit : StringLit} {key : String} {d : Doc} {v : Json}
      {ds : List (StringLit × Doc)} {vs : List (String × Json)} :
      lit.read = .ok key →
      StandsFor d v →
      MembersStandFor ds vs →
      MembersStandFor ((lit, d) :: ds) ((key, v) :: vs)

end

mutual

/-- The document of a value stands for it. -/
theorem standsFor_ofJson : ∀ v : Json, (ofJson v).StandsFor v
  | .null => .null
  | .bool b => .bool b
  | .num n => .num n
  | .str s => .str (StringLit.read_ofString s)
  | .arr vs => .arr (itemsStandFor_ofItems vs)
  | .obj vs => .obj (membersStandFor_ofMembers vs)

theorem itemsStandFor_ofItems : ∀ vs : List Json, ItemsStandFor (ofItems vs) vs
  | [] => .nil
  | v :: vs => .cons (standsFor_ofJson v) (itemsStandFor_ofItems vs)

theorem membersStandFor_ofMembers :
    ∀ vs : List (String × Json), MembersStandFor (ofMembers vs) vs
  | [] => .nil
  | (key, v) :: vs =>
      .cons (StringLit.read_ofString key) (standsFor_ofJson v) (membersStandFor_ofMembers vs)

end

mutual

/-- A document is read as the value that it stands for, if it is not nested too deep. -/
theorem StandsFor.read : ∀ {d : Doc} {v : Json} (a : Allowance),
    d.StandsFor v → d.read a = a.grant .tooDeep v.depth v
  | _, _, a, .null => (a.grant_zero _ _).symm
  | _, _, a, .bool _ => (a.grant_zero _ _).symm
  | _, _, a, .num _ => (a.grant_zero _ _).symm
  | _, _, a, .str hlit => by
      rw [Doc.read, hlit]
      exact (a.grant_zero _ _).symm
  | _, _, a, .arr hitems => by
      rw [Doc.read]
      refine Allowance.enter_bind fun inner => ?_
      rw [hitems.read inner]
      exact Allowance.grant_bind_ok rfl
  | _, _, a, .obj hmembers => by
      rw [Doc.read]
      refine Allowance.enter_bind fun inner => ?_
      rw [hmembers.read inner]
      exact Allowance.grant_bind_ok rfl

/-- Items are read as their values, if their depth is allowed. -/
theorem ItemsStandFor.read : ∀ {ds : List Doc} {vs : List Json} (a : Allowance),
    ItemsStandFor ds vs → readItems a ds = a.grant .tooDeep (Json.itemsDepth vs) vs
  | _, _, a, .nil => (a.grant_zero _ _).symm
  | _, _, a, .cons hd hds => by
      rw [readItems, hd.read a, hds.read a]
      exact Allowance.grant_bind (Allowance.grant_bind_ok rfl)

theorem MembersStandFor.read :
    ∀ {ds : List (StringLit × Doc)} {vs : List (String × Json)} (a : Allowance),
      MembersStandFor ds vs → readMembers a ds = a.grant .tooDeep (Json.membersDepth vs) vs
  | _, _, a, .nil => (a.grant_zero _ _).symm
  | _, _, a, .cons hkey hd hds => by
      rw [readMembers, hkey, hd.read a, hds.read a]
      exact Allowance.grant_bind (Allowance.grant_bind_ok rfl)

end

end Doc

end SchemaGrammar
