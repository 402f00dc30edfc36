import SchemaGrammar.Collection.KeyMap
import SchemaGrammar.Decimal.Double

/-!
# JSON values

A value keeps the members of an object as they were given: their order, and repeated keys.
Where an object stands for a map its members are sorted by key, without repetition; such a
value is called canonical.

**Results.**
* `Json.sorted` gives the canonical form at every depth.
* `Json.sortMembers_sorted`: its members have strictly increasing keys.
-/

namespace SchemaGrammar

/-- A number: an integer, or a double for everything that has no integer form. -/
inductive Number
  | int (value : Int)
  | double (value : Double)
  deriving DecidableEq, Inhabited

/-- A JSON value. -/
inductive Json
  | null
  | bool (value : Bool)
  | num (value : Number)
  | str (text : String)
  | arr (items : List Json)
  | obj (members : List (String × Json))
  deriving Inhabited

namespace Number

/-- Whether two numbers are equal as numbers of one form. -/
def sameValue : Number → Number → Bool
  | .int a, .int b => a == b
  | .double a, .double b => a.sameValue b
  | _, _ => false

end Number

namespace Json

section Equality

mutual

/-- Decides equality of values. -/
def decEq : (a b : Json) → Decidable (a = b)
  | .null, .null => isTrue rfl
  | .bool a, .bool b => decidable_of_iff (a = b) (by simp)
  | .num a, .num b => decidable_of_iff (a = b) (by simp)
  | .str a, .str b => decidable_of_iff (a = b) (by simp)
  | .arr xs, .arr ys =>
      match decEqItems xs ys with
      | isTrue h => isTrue (by rw [h])
      | isFalse h => isFalse (by simpa using h)
  | .obj xs, .obj ys =>
      match decEqMembers xs ys with
      | isTrue h => isTrue (by rw [h])
      | isFalse h => isFalse (by simpa using h)
  | .null, .bool _ | .null, .num _ | .null, .str _ | .null, .arr _ | .null, .obj _
  | .bool _, .null | .bool _, .num _ | .bool _, .str _ | .bool _, .arr _ | .bool _, .obj _
  | .num _, .null | .num _, .bool _ | .num _, .str _ | .num _, .arr _ | .num _, .obj _
  | .str _, .null | .str _, .bool _ | .str _, .num _ | .str _, .arr _ | .str _, .obj _
  | .arr _, .null | .arr _, .bool _ | .arr _, .num _ | .arr _, .str _ | .arr _, .obj _
  | .obj _, .null | .obj _, .bool _ | .obj _, .num _ | .obj _, .str _ | .obj _, .arr _ =>
      isFalse (by simp)

/-- Decides equality of the items of arrays. -/
def decEqItems : (xs ys : List Json) → Decidable (xs = ys)
  | [], [] => isTrue rfl
  | [], _ :: _ => isFalse (by simp)
  | _ :: _, [] => isFalse (by simp)
  | x :: xs, y :: ys =>
      match decEq x y, decEqItems xs ys with
      | isTrue h, isTrue hs => isTrue (by rw [h, hs])
      | isFalse h, _ => isFalse (by simp [h])
      | _, isFalse hs => isFalse (by simp [hs])

/-- Decides equality of the members of objects. -/
def decEqMembers : (xs ys : List (String × Json)) → Decidable (xs = ys)
  | [], [] => isTrue rfl
  | [], _ :: _ => isFalse (by simp)
  | _ :: _, [] => isFalse (by simp)
  | (k, x) :: xs, (l, y) :: ys =>
      match decEq x y, decEqMembers xs ys with
      | isTrue h, isTrue hs => decidable_of_iff (k = l) (by simp [h, hs])
      | isFalse h, _ => isFalse (by simp [h])
      | _, isFalse hs => isFalse (by simp [hs])

end

instance : DecidableEq Json := decEq

mutual

/-- Whether two values are equal when zero has one sign only. -/
def sameValue : Json → Json → Bool
  | .null, .null => true
  | .bool a, .bool b => a == b
  | .num a, .num b => a.sameValue b
  | .str a, .str b => a == b
  | .arr xs, .arr ys => sameItems xs ys
  | .obj xs, .obj ys => sameMembers xs ys
  | _, _ => false

/-- The same for the items of arrays. -/
def sameItems : List Json → List Json → Bool
  | [], [] => true
  | x :: xs, y :: ys => sameValue x y && sameItems xs ys
  | _, _ => false

/-- The same for the members of objects. -/
def sameMembers : List (String × Json) → List (String × Json) → Bool
  | [], [] => true
  | (k, x) :: xs, (l, y) :: ys => k == l && sameValue x y && sameMembers xs ys
  | _, _ => false

end

end Equality

section Depth

mutual

/-- How deep arrays and objects are nested. -/
def depth : Json → Nat
  | .arr items => itemsDepth items + 1
  | .obj members => membersDepth members + 1
  | _ => 0

/-- The depth of the deepest item. -/
def itemsDepth : List Json → Nat
  | [] => 0
  | v :: vs => max (depth v) (itemsDepth vs)

/-- The depth of the deepest member. -/
def membersDepth : List (String × Json) → Nat
  | [] => 0
  | (_, v) :: ms => max (depth v) (membersDepth ms)

end

end Depth

section Canonical

/-- Puts a member into sorted members unless its key is there already. -/
def insertFirst (key : String) (value : Json) (members : List (String × Json)) :
    List (String × Json) :=
  if (members.lookup key).isSome then members else KeyMap.insertEntry key value members

mutual

/-- The value with the members of every object sorted by key; of a repeated key the last
value stays. -/
def sorted : Json → Json
  | .null => .null
  | .bool b => .bool b
  | .num n => .num n
  | .str s => .str s
  | .arr items => .arr (sortItems items)
  | .obj members => .obj (sortMembers members)

/-- The items in their canonical forms. -/
def sortItems : List Json → List Json
  | [] => []
  | v :: vs => sorted v :: sortItems vs

/-- The members in their canonical forms, sorted by key. -/
def sortMembers : List (String × Json) → List (String × Json)
  | [] => []
  | (k, v) :: ms => insertFirst k (sorted v) (sortMembers ms)

end

theorem sortMembers_sorted :
    ∀ members : List (String × Json),
      (sortMembers members).Pairwise fun a b => a.1 < b.1
  | [] => by simp [sortMembers]
  | (k, v) :: ms => by
      rw [sortMembers, insertFirst]
      split
      · exact sortMembers_sorted ms
      · exact KeyMap.sorted_insertEntry k _ (sortMembers_sorted ms)

mutual

/-- Every object in the value has strictly increasing keys. -/
def Canonical : Json → Prop
  | .arr items => CanonicalItems items
  | .obj members => members.Pairwise (fun a b => a.1 < b.1) ∧ CanonicalMembers members
  | _ => True

/-- The same for every item. -/
def CanonicalItems : List Json → Prop
  | [] => True
  | v :: vs => Canonical v ∧ CanonicalItems vs

/-- The same for every member. -/
def CanonicalMembers : List (String × Json) → Prop
  | [] => True
  | (_, v) :: ms => Canonical v ∧ CanonicalMembers ms

end

end Canonical

section Access

/-- The object with the entries of a key map as members. -/
def ofKeyMap (m : KeyMap Json) : Json := .obj m.entries

/-- The value of a member, if the value is an object that has it. -/
def get? : Json → String → Option Json
  | .obj members, key => members.lookup key
  | _, _ => none

def strings (texts : List String) : Json := .arr (texts.map .str)

def nat (n : Nat) : Json := .num (.int n)

end Access

end Json

end SchemaGrammar
