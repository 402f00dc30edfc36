import SchemaGrammar.Regex.Construct
import SchemaGrammar.Text.ByteRange
import Std.Data.HashMap

/-!
# The size of expressions

An expression takes the room of two automata over bytes, one that reads forwards and one that
reads backwards.  Counted repetitions are written out in them, and sets of characters become
ranges of bytes.  Each automaton has to keep within a limit; counting stops where it does not.
A choice between very many words is not made into an automaton.

A set that goes beyond ASCII shares states between its characters.  What may be shared is kept
in a table with one place for every hash, so that a later state displaces an earlier one.

**Results.**
* `Footprint.add` is where the limit is kept.
* `Regex.fits` tells whether an expression keeps within the limit in both directions.
-/

namespace SchemaGrammar

/-- The room that states take: their number, and the bytes that they need for their branches. -/
structure Footprint where
  states : Nat
  extra : Nat
  deriving DecidableEq, Inhabited

namespace Footprint

/-- The room in bytes. -/
def size (f : Footprint) : Nat := 32 * f.states + f.extra

/-- The room that an automaton may take. -/
def limit : Nat := 10 * 1024 * 1024

/-- Adds states and bytes, if they keep within the limit. -/
def add (states extra : Nat) (f : Footprint) : Option Footprint :=
  let grown : Footprint := ⟨f.states + states, f.extra + extra⟩
  if grown.size ≤ limit then some grown else none

/-- Adds the same several times. -/
def times (step : Footprint → Option Footprint) : Nat → Footprint → Option Footprint
  | 0, f => some f
  | n + 1, f =>
      match step f with
      | some grown => times step n grown
      | none => none

section Sharing

/-- The states of a set so far, and the table of those that may be shared: under a hash, what a
state does and its number. -/
structure Shared where
  footprint : Footprint
  places : Std.HashMap Nat (List Nat × Nat)

/-- The hash of some numbers. -/
def hash (key : List Nat) : Nat :=
  (key.foldl (fun h n => (h ^^^ UInt64.ofNat n) * 1099511628211) 14695981039346656037).toNat

/-- The number of the state that does something: one that the table has, or a new one. -/
def share (capacity extra : Nat) (key : List Nat) (s : Shared) : Option (Nat × Shared) :=
  let place := hash key % capacity
  let known : Option Nat :=
    s.places[place]?.bind fun entry => if entry.1 = key then some entry.2 else none
  match known with
  | some number => some (number, s)
  | none =>
      (s.footprint.add 1 extra).map fun grown =>
        (s.footprint.states, ⟨grown, s.places.insert place (key, s.footprint.states)⟩)

/-- The neighbours that begin with the same range, without it. -/
def groups : List (List ByteRange) → List (ByteRange × List (List ByteRange))
  | [] => []
  | [] :: rest => groups rest
  | (r :: tail) :: rest =>
      match groups rest with
      | (s, tails) :: others =>
          if r = s then (r, tail :: tails) :: others else (r, [tail]) :: (s, tails) :: others
      | [] => [(r, [tail])]

/-- Adds the states that read sequences of at most `length` ranges forwards and end in `target`;
states that do the same are shared. -/
def addNode (target : Nat) :
    (length : Nat) → List (List ByteRange) → Shared → Option (Nat × Shared)
  | 0, _, s => some (target, s)
  | length + 1, seqs, s =>
      if seqs.all List.isEmpty then some (target, s)
      else do
        let (key, s) ← (groups seqs).foldlM
          (fun (key, s) (r, tails) => do
            let (next, s) ← addNode target length tails s
            return (key ++ [r.first, r.last, next], s))
          (([], s) : List Nat × Shared)
        share 10000 (8 * (key.length / 3)) key s

/-- Adds the states that read a sequence backwards and end in `target`. -/
def addChain (target : Nat) (ranges : List ByteRange) (s : Shared) : Option Shared := do
  let (_, s) ← ranges.foldlM
    (fun (next, s) r => share 1000 0 [next, r.first, r.last] s)
    ((target, s) : Nat × Shared)
  return s

end Sharing

section Sets

/-- The parts of a set as sequences of ranges of bytes. -/
def sequencesOf : Runs → List (List ByteRange)
  | first :: past :: rest => Utf8.sequences first (past - 1) ++ sequencesOf rest
  | _ => []

/-- Adds a set.  One of ASCII alone is a state with a branch for each run, and the state behind
it.  The sequences of any other one share states; backwards each of them is a branch. -/
def addSet (backwards : Bool) (set : CharClass) (f : Footprint) : Option Footprint :=
  if set.isAscii then f.add 2 (8 * (set.runs.length / 2))
  else
    let seqs := sequencesOf set.runs
    if backwards then do
      let begun ← f.add 2 (4 * seqs.length)
      let s ← seqs.foldlM (fun s ranges => addChain (f.states + 1) ranges s) ⟨begun, ∅⟩
      return s.footprint
    else do
      let begun ← f.add 1 0
      let (_, s) ← addNode f.states 4 seqs ⟨begun, ∅⟩
      return s.footprint

end Sets

section Words

/-- Cuts a list of words at the empty ones.  Empty words at the beginning count once. -/
def chunks (words : List (List Nat)) : List (List (List Nat)) :=
  let kept := match words.dropWhile List.isEmpty with
    | rest => if rest.length < words.length then [] :: rest else rest
  kept.foldr
    (fun word cut => match word, cut with
      | [], cut => [] :: cut
      | word, chunk :: others => (word :: chunk) :: others
      | word, [] => [[word]])
    [[]]

/-- The room of the tree of some words of at most `length` bytes.  A node has a branch for each
chunk of its words and for each end of a word between them; a chunk is a state with a branch for
each first byte. -/
def treeOf : (length : Nat) → (words : List (List Nat)) → Footprint
  | 0, _ => ⟨0, 0⟩
  | length + 1, words =>
      let cut := chunks words
      let full := cut.filter fun chunk => !chunk.isEmpty
      full.foldl
        (fun f chunk =>
          let firsts := (chunk.filterMap List.head?).eraseDups
          firsts.foldl
            (fun f first =>
              let tails := (chunk.filter fun word => word.head? == some first).map List.tail
              if tails.all List.isEmpty then f
              else
                let below := treeOf length tails
                ⟨f.states + below.states, f.extra + below.extra⟩)
            ⟨f.states + 1, f.extra + (if firsts.length < 2 then 0 else 8 * firsts.length)⟩)
        ⟨1, 4 * (cut.length - 1 + full.length)⟩

/-- Adds a choice between words: their tree, and the state behind it. -/
def addWords (backwards : Bool) (words : List (List Nat)) (f : Footprint) : Option Footprint :=
  let words := if backwards then words.map List.reverse else words
  let tree := treeOf (words.foldl (fun n word => max n word.length) 0) words
  f.add (tree.states + 1) tree.extra

end Words

end Footprint

namespace Regex

section Expressions

/-- The bytes of a text. -/
def bytesOf (cs : List Char) : List Nat := cs.flatMap fun c => Utf8.encode c.toNat

/-- The words of branches that are texts. -/
def words? : List Regex → Option (List (List Nat))
  | [] => some []
  | text cs :: rs => (words? rs).map (bytesOf cs :: ·)
  | _ => none

/-- What a branch adds to its choice: with the second one come the state in front of the choice
and the one behind it. -/
def addBranch (branch : Nat) (f : Footprint) : Option Footprint :=
  if branch = 0 then some f else if branch = 1 then f.add 2 8 else f.add 0 4

/-- Adds an expression, which may be a further branch of a choice: `branch` is the number of the
branches before it. -/
def layOut (backwards : Bool) : Regex → (branch : Nat) → Footprint → Option Footprint
  | empty, branch, f => do addBranch branch (← f.add 1 0)
  | text cs, branch, f => do addBranch branch (← f.add (bytesOf cs).length 0)
  | chars set, branch, f => do addBranch branch (← f.addSet backwards set)
  | look _, branch, f => do addBranch branch (← f.add 1 0)
  | concat a b, branch, f => do
      let f ← if backwards then b.layOut backwards 0 f else a.layOut backwards 0 f
      let f ← if backwards then a.layOut backwards 0 f else b.layOut backwards 0 f
      addBranch branch f
  | either a b, branch, f =>
      match if branch = 0 then words? (either a b).branches else none with
      | some words => f.addWords backwards words
      | none => do
          let f ← a.layOut backwards 0 f
          let f ← addBranch branch f
          b.layOut backwards (branch + 1) f
  | repeated body least (some most) _, branch, f => do
      if least = 0 ∧ most = 1 then
        let f ← f.add 1 0
        let f ← body.layOut backwards 0 f
        addBranch branch (← f.add 1 8)
      else
        let f ← if least = 0 then f.add 1 0 else Footprint.times (body.layOut backwards 0) least f
        let f ← if least = most then some f else f.add 1 0
        let f ← Footprint.times
          (fun f => do body.layOut backwards 0 (← f.add 1 8)) (most - least) f
        addBranch branch f
  | repeated body 0 none _, branch, f => do
      if body.takesSome then
        addBranch branch (← body.layOut backwards 0 (← f.add 1 8))
      else
        let f ← body.layOut backwards 0 f
        addBranch branch (← f.add 3 16)
  | repeated body (least + 1) none _, branch, f => do
      let f ← Footprint.times (body.layOut backwards 0) (least + 1) f
      addBranch branch (← f.add 1 8)
  | group _ body, branch, f => do
      if backwards then addBranch branch (← body.layOut backwards 0 f)
      else
        let f ← body.layOut backwards 0 (← f.add 1 0)
        addBranch branch (← f.add 1 0)

/-- The room of an expression with what stands before it and behind it.  Where a match can begin
at one end of the text only, nothing has to be passed over before it. -/
def footprint? (backwards : Bool) (r : Regex) : Option Footprint := do
  let anchored := if backwards then r.endsWith .textEnd else r.beginsWith .textStart
  let f ← if anchored then Footprint.add 1 0 ⟨0, 0⟩ else Footprint.add 3 16 ⟨0, 0⟩
  let f ← if backwards then some f else f.add 1 0
  let f ← r.layOut backwards 0 f
  f.add (if backwards then 1 else 2) 0

/-- Whether an expression is a choice between so many words that no automaton is made of it. -/
def isDictionary (r : Regex) : Bool := (words? r.branches).any (3000 ≤ ·.length)

/-- Whether an expression keeps within the limit, forwards and backwards. -/
def fits (r : Regex) : Bool :=
  r.isDictionary || ((r.footprint? false).isSome && (r.footprint? true).isSome)

end Expressions

end Regex

end SchemaGrammar
