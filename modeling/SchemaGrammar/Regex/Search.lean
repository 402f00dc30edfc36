import SchemaGrammar.Regex.Program

/-!
# Matches of regular expressions

A text is gone through once.  At every place threads stand before the actions that take the
next character, each with the place where it began, the preferred thread first.  What leads to
an action that another thread has reached is given up, and so is everything less preferred
than an accepted match.  As long as there is no match a new thread begins at every place, and
is preferred least: so the match that begins first is found, and of those the preferred one.

**Results.**
* `Program.settle` follows threads up to the actions that take a character.
* `Regex.find?` is the first match in a text.
-/

namespace SchemaGrammar

/-- A way through a program. -/
structure Thread where
  /-- The number of an action. -/
  state : Nat
  /-- The place in the text where the way began, in bytes. -/
  origin : Nat
  deriving DecidableEq, Inhabited

/-- The threads at a place of a text. -/
structure Threads where
  /-- Those that take the next character. -/
  waiting : List Thread
  /-- Where the match that ends here began, if there is one. -/
  accepted : Option Nat
  deriving DecidableEq, Inhabited

namespace Program

/-- To reach an action leaves fewer that no thread has reached. -/
theorem count_set_false_lt
    {fresh : Array Bool}
    {i : Nat}
    (inside : i < fresh.size)
    (isFresh : fresh[i] = true) :
    (fresh.set i false inside).count true < fresh.count true := by
  have pos : 0 < fresh.count true :=
    Array.count_pos_iff.mpr (isFresh ▸ Array.getElem_mem inside)
  rw [Array.count_set inside, isFresh]
  exact Nat.sub_lt pos Nat.zero_lt_one

/-- Follows threads, in their order, between two characters of a text; `fresh` tells the
actions that no thread has reached. -/
def settle (p : Program) (before after : Option Char) (fresh : Array Bool) :
    List Thread → Threads
  | [] => ⟨[], none⟩
  | t :: pending =>
      if h : ∃ inside : t.state < fresh.size, fresh[t.state] = true then
        let fresh' := fresh.set t.state false h.1
        match p.actions[t.state]? with
        | some (.take _ _) =>
            let others := settle p before after fresh' pending
            { others with waiting := t :: others.waiting }
        | some (.demand condition next) =>
            settle p before after fresh'
              (if condition.holds before after then { t with state := next } :: pending
              else pending)
        | some (.choose first second) =>
            settle p before after fresh'
              ({ t with state := first } :: { t with state := second } :: pending)
        | some .accept => ⟨[], some t.origin⟩
        | none => settle p before after fresh' pending
      else settle p before after fresh pending
termination_by pending => (fresh.count true, pending.length)
decreasing_by
  · exact Prod.Lex.left _ _ (count_set_false_lt h.1 h.2)
  · exact Prod.Lex.left _ _ (count_set_false_lt h.1 h.2)
  · exact Prod.Lex.left _ _ (count_set_false_lt h.1 h.2)
  · exact Prod.Lex.left _ _ (count_set_false_lt h.1 h.2)
  · exact Prod.Lex.right _ (Nat.lt_succ_self _)

/-- The threads that take a character. -/
def advance (p : Program) (c : Char) (waiting : List Thread) : List Thread :=
  waiting.filterMap fun t =>
    match (p.actions[t.state]? : Option Action) with
    | some (.take set next) => if set.accepts c then some { t with state := next } else none
    | _ => none

/-- The preferred match, from a place of the text on: `found` so far, or one that threads on
the way or beginning here lead to. -/
def search (p : Program) (place : Nat) (before : Option Char) (threads : List Thread)
    (found : Option (Nat × Nat)) (text : List Char) : Option (Nat × Nat) :=
  let pending := if found.isNone then threads ++ [⟨p.start, place⟩] else threads
  let here := p.settle before text.head? (Array.replicate p.actions.size true) pending
  let found := (here.accepted.map fun origin => (origin, place)).or found
  match text with
  | [] => found
  | c :: rest =>
      if found.isSome && here.waiting.isEmpty then found
      else p.search (place + c.utf8Size) (some c) (p.advance c here.waiting) found rest

end Program

/-- The first match in a text: where it begins and where it ends, in bytes. -/
def Regex.find? (r : Regex) (text : String) : Option (Nat × Nat) :=
  (Program.ofRegex r).search 0 none [] none text.toList

end SchemaGrammar
