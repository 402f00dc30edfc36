/-!
# Elements of a grammar

A rule of a grammar is defined by a tree of elements: terminals, references to rules,
sequences, ordered choices, optional parts and repetitions.

**Results.**
* `Element.walk` lists a tree in pre-order; `Element.references` are the rule names in it.
* `Element.rebuild` rebuilds a tree from its leaves up.
* `Element.rebuild_id`: rebuilding without a change gives the tree back.
-/

namespace SchemaGrammar

/-- What a terminal matches: an exact text, or a regular expression with its flags. -/
inductive Pattern
  | literal (text : String)
  | regex (source flags : String)
  deriving DecidableEq, Inhabited

/-- A node of a rule's definition. -/
inductive Element
  /-- A lexical symbol. -/
  | terminal (name : String) (pattern : Option Pattern)
  /-- A reference to a rule. -/
  | nonTerminal (name : String)
  /-- All of the elements, one after the other. -/
  | sequence (elements : List Element)
  /-- The first alternative that fits. -/
  | oneOf (options : List Element)
  /-- The element or nothing. -/
  | optional (element : Element)
  /-- The element once or more often. -/
  | list (element : Element)
  deriving Inhabited

namespace Pattern

/-- The text of a literal. -/
def literal? : Pattern → Option String
  | .literal text => some text
  | .regex _ _ => none

def isRegex : Pattern → Bool
  | .literal _ => false
  | .regex _ _ => true

end Pattern

namespace Element

section Equality

mutual

/-- Decides equality of elements. -/
def decEq : (a b : Element) → Decidable (a = b)
  | .terminal n p, .terminal m q => decidable_of_iff (n = m ∧ p = q) (by simp)
  | .nonTerminal n, .nonTerminal m => decidable_of_iff (n = m) (by simp)
  | .sequence xs, .sequence ys =>
      match decEqList xs ys with
      | isTrue h => isTrue (by rw [h])
      | isFalse h => isFalse (by simpa using h)
  | .oneOf xs, .oneOf ys =>
      match decEqList xs ys with
      | isTrue h => isTrue (by rw [h])
      | isFalse h => isFalse (by simpa using h)
  | .optional x, .optional y =>
      match decEq x y with
      | isTrue h => isTrue (by rw [h])
      | isFalse h => isFalse (by simpa using h)
  | .list x, .list y =>
      match decEq x y with
      | isTrue h => isTrue (by rw [h])
      | isFalse h => isFalse (by simpa using h)
  | .terminal _ _, .nonTerminal _ | .terminal _ _, .sequence _ | .terminal _ _, .oneOf _
  | .terminal _ _, .optional _ | .terminal _ _, .list _
  | .nonTerminal _, .terminal _ _ | .nonTerminal _, .sequence _ | .nonTerminal _, .oneOf _
  | .nonTerminal _, .optional _ | .nonTerminal _, .list _
  | .sequence _, .terminal _ _ | .sequence _, .nonTerminal _ | .sequence _, .oneOf _
  | .sequence _, .optional _ | .sequence _, .list _
  | .oneOf _, .terminal _ _ | .oneOf _, .nonTerminal _ | .oneOf _, .sequence _
  | .oneOf _, .optional _ | .oneOf _, .list _
  | .optional _, .terminal _ _ | .optional _, .nonTerminal _ | .optional _, .sequence _
  | .optional _, .oneOf _ | .optional _, .list _
  | .list _, .terminal _ _ | .list _, .nonTerminal _ | .list _, .sequence _
  | .list _, .oneOf _ | .list _, .optional _ => isFalse (by simp)

/-- Decides equality of lists of elements. -/
def decEqList : (xs ys : List Element) → Decidable (xs = ys)
  | [], [] => isTrue rfl
  | [], _ :: _ => isFalse (by simp)
  | _ :: _, [] => isFalse (by simp)
  | x :: xs, y :: ys =>
      match decEq x y, decEqList xs ys with
      | isTrue h, isTrue hs => isTrue (by rw [h, hs])
      | isFalse h, _ => isFalse (by simp [h])
      | _, isFalse hs => isFalse (by simp [hs])

end

instance : DecidableEq Element := decEq

end Equality

/-- The kinds of elements. -/
inductive Kind
  | terminal
  | nonTerminal
  | sequence
  | oneOf
  | optional
  | list
  deriving DecidableEq, Inhabited

namespace Kind

/-- The name of a kind. -/
def name : Kind → String
  | terminal => "Terminal"
  | nonTerminal => "NonTerminal"
  | sequence => "Sequence"
  | oneOf => "OneOf"
  | optional => "Optional"
  | list => "List"

/-- All kinds in order. -/
def all : List Kind := [terminal, nonTerminal, sequence, oneOf, optional, list]

/-- The kind with a name. -/
def ofName? (name : String) : Option Kind := all.find? (·.name == name)

end Kind

section Inspection

def kind : Element → Kind
  | .terminal _ _ => .terminal
  | .nonTerminal _ => .nonTerminal
  | .sequence _ => .sequence
  | .oneOf _ => .oneOf
  | .optional _ => .optional
  | .list _ => .list

/-- A terminal that matches its own name. -/
def token (text : String) : Element := .terminal text (some (.literal text))

/-- The direct children, in order. -/
def children : Element → List Element
  | .terminal _ _ => []
  | .nonTerminal _ => []
  | .sequence elements => elements
  | .oneOf options => options
  | .optional element => [element]
  | .list element => [element]

/-- The rule that a reference names. -/
def nonTerminal? : Element → Option String
  | .nonTerminal name => some name
  | _ => none

/-- Whether the element is a reference to a rule. -/
def refersTo (e : Element) (rule : String) : Bool := e.nonTerminal? == some rule

/-- Whether the element is a terminal with this name or this literal text. -/
def isToken (e : Element) (text : String) : Bool :=
  match e with
  | .terminal name pattern => name == text || pattern.bind Pattern.literal? == some text
  | _ => false

mutual

/-- The element and all elements below it, in pre-order. -/
def walk : Element → List Element
  | .terminal n p => [.terminal n p]
  | .nonTerminal n => [.nonTerminal n]
  | .sequence es => .sequence es :: walkList es
  | .oneOf es => .oneOf es :: walkList es
  | .optional e => .optional e :: walk e
  | .list e => .list e :: walk e

/-- The elements of several trees, one tree after the other. -/
def walkList : List Element → List Element
  | [] => []
  | e :: es => walk e ++ walkList es

end

/-- The rule names referred to in the tree, in pre-order, repetitions included. -/
def references (e : Element) : List String := e.walk.filterMap nonTerminal?

/-- The number of nodes. -/
def size (e : Element) : Nat := e.walk.length

end Inspection

section Rebuilding

mutual

/-- The tree rebuilt from its leaves up: `f` gets every node with its children done. -/
def rebuild (f : Element → Element) : Element → Element
  | .terminal n p => f (.terminal n p)
  | .nonTerminal n => f (.nonTerminal n)
  | .sequence es => f (.sequence (rebuildList f es))
  | .oneOf es => f (.oneOf (rebuildList f es))
  | .optional e => f (.optional (rebuild f e))
  | .list e => f (.list (rebuild f e))

/-- Several trees rebuilt. -/
def rebuildList (f : Element → Element) : List Element → List Element
  | [] => []
  | e :: es => rebuild f e :: rebuildList f es

end

@[simp] theorem rebuildList_eq_map
    (f : Element → Element)
    (es : List Element) :
    rebuildList f es = es.map (rebuild f) := by
  induction es with
  | nil => rfl
  | cons e es ih => simp [rebuildList, ih]

theorem rebuild_sequence
    (f : Element → Element)
    (es : List Element) :
    (sequence es).rebuild f = f (.sequence (es.map (rebuild f))) := by
  rw [rebuild, rebuildList_eq_map]

theorem rebuild_oneOf
    (f : Element → Element)
    (es : List Element) :
    (oneOf es).rebuild f = f (.oneOf (es.map (rebuild f))) := by
  rw [rebuild, rebuildList_eq_map]

mutual

/-- The element and all elements below it, children before parents: the order in which
`rebuild` hands the nodes over. -/
def walkUp : Element → List Element
  | .terminal n p => [.terminal n p]
  | .nonTerminal n => [.nonTerminal n]
  | .sequence es => walkUpList es ++ [.sequence es]
  | .oneOf es => walkUpList es ++ [.oneOf es]
  | .optional e => walkUp e ++ [.optional e]
  | .list e => walkUp e ++ [.list e]

/-- The elements of several trees, one tree after the other. -/
def walkUpList : List Element → List Element
  | [] => []
  | e :: es => walkUp e ++ walkUpList es

end

mutual

/-- Rebuilding without a change gives the tree back. -/
theorem rebuild_id : ∀ e : Element, rebuild id e = e
  | .terminal _ _ => rfl
  | .nonTerminal _ => rfl
  | .sequence es => by rw [rebuild, rebuildList_id es]; rfl
  | .oneOf es => by rw [rebuild, rebuildList_id es]; rfl
  | .optional e => by rw [rebuild, rebuild_id e]; rfl
  | .list e => by rw [rebuild, rebuild_id e]; rfl

theorem rebuildList_id : ∀ es : List Element, rebuildList id es = es
  | [] => rfl
  | e :: es => by rw [rebuildList, rebuild_id e, rebuildList_id es]

end

end Rebuilding

end Element

end SchemaGrammar
