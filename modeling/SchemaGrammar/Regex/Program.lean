import SchemaGrammar.Regex.Basic

/-!
# Programs of regular expressions

An expression is laid out as a program: numbered actions, each of which says where to go on.
A counted repetition is written out.  An unbounded one gets an action behind its body that
leads back to the body or past it; if the body always takes a character, the same action is
the way in.

**Results.**
* `Program.ofRegex` lays out an expression; the program accepts where the expression ends.
-/

namespace SchemaGrammar

/-- What a program does at one number. -/
inductive Action
  /-- Takes a character of a set. -/
  | take (set : CharClass) (next : Nat)
  /-- Goes on if a condition holds. -/
  | demand (condition : Look) (next : Nat)
  /-- Goes on in either way, the first one preferred. -/
  | choose (first second : Nat)
  /-- The expression has matched. -/
  | accept
  deriving DecidableEq, Inhabited

/-- The actions of an expression and the number to start from. -/
structure Program where
  actions : Array Action
  start : Nat
  deriving DecidableEq, Inhabited

namespace Program

section Layout

/-- Adds an action in front: the program starts there. -/
def before (action : Action) (p : Program) : Program :=
  let number := p.actions.size
  ⟨p.actions.push action, number⟩

/-- Starts at another number. -/
def startingAt (start : Nat) (p : Program) : Program := { p with start }

/-- Chooses between an iteration and what follows the repetition. -/
def iterateOr (greedy : Bool) (inside past : Nat) : Action :=
  if greedy then .choose inside past else .choose past inside

/-- Puts a loop in front: an action that leads into the body or past it, and the body, which
comes back to the action.  The program starts with the body; with it come the number of the
action and the action. -/
def loop (greedy : Bool) (body : Program → Program) (p : Program) : Program × Nat × Action :=
  let past := p.start
  let outer := p.before .accept
  let again := outer.start
  let inner := body outer
  let entry := inner.start
  let action := iterateOr greedy entry past
  (⟨inner.actions.setIfInBounds again action, entry⟩, again, action)

/-- Puts an expression in front of a program. -/
def prepend : Regex → Program → Program
  | .empty, p => p
  | .text cs, p => cs.foldr (fun c p => p.before (.take (.single c) p.start)) p
  | .chars set, p => p.before (.take set p.start)
  | .look condition, p => p.before (.demand condition p.start)
  | .concat a b, p => prepend a (prepend b p)
  | .either a b, p =>
      let first := prepend a p
      let second := prepend b (first.startingAt p.start)
      second.before (.choose first.start second.start)
  | .repeated body least (some most) greedy, p =>
      let past := p.start
      let optional (q : Program) : Program :=
        let inner := prepend body q
        inner.before (iterateOr greedy inner.start past)
      Nat.repeat (prepend body) least (Nat.repeat optional (most - least) p)
  | .repeated body 0 none greedy, p =>
      let (inner, again, action) := loop greedy (prepend body) p
      if body.takesSome then inner.startingAt again else inner.before action
  | .repeated body (least + 1) none greedy, p =>
      Nat.repeat (prepend body) least (loop greedy (prepend body) p).1
  | .group _ body, p => prepend body p

end Layout

/-- The program of an expression. -/
def ofRegex (r : Regex) : Program := prepend r ⟨#[.accept], 0⟩

end Program

end SchemaGrammar
