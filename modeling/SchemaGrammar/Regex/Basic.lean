import SchemaGrammar.Regex.CharClass

/-!
# Regular expressions

An expression is made of texts, of sets of characters and of conditions on a place by sequence,
choice and repetition.  Choices and repetitions are ordered: a choice prefers its first branch,
a greedy repetition prefers to go on and a lazy one to stop.

**Results.**
* `Regex` is the type of expressions, `Look` that of conditions.
* `Look.holds` tells whether a condition holds between two characters.
* `Regex.items` and `Regex.branches` are the parts of a sequence and of a choice.
* `Regex.leastLength` and `Regex.takesNothing` bound the length of a match.
-/

namespace SchemaGrammar

/-- A condition on a place of a text. -/
inductive Look
  | textStart
  | textEnd
  /-- After a line feed, or a carriage return if `returns`. -/
  | lineStart (returns : Bool)
  | lineEnd (returns : Bool)
  /-- Between a character of a word and one that is none; the words are those of a class. -/
  | wordBoundary (word : CharClass)
  | noWordBoundary (word : CharClass)
  | wordStart (word : CharClass)
  | wordEnd (word : CharClass)
  /-- No character of a word stands before. -/
  | noWordBefore (word : CharClass)
  | noWordAfter (word : CharClass)
  deriving DecidableEq, Inhabited

/-- A regular expression. -/
inductive Regex
  | empty
  /-- Some characters, one after the other. -/
  | text (cs : List Char)
  | chars (set : CharClass)
  | look (condition : Look)
  | concat (a b : Regex)
  | either (a b : Regex)
  | repeated (body : Regex) (least : Nat) (most : Option Nat) (greedy : Bool)
  /-- A group that is counted: what it matches can be asked for by its number. -/
  | group (number : Nat) (body : Regex)
  deriving DecidableEq, Inhabited

namespace Look

/-- Whether a condition holds between two characters, either of which may be missing. -/
def holds (before after : Option Char) : Look → Bool
  | textStart => before.isNone
  | textEnd => after.isNone
  | lineStart returns =>
      before.isNone || before == some '\n' ||
        (returns && before == some '\r' && after != some '\n')
  | lineEnd returns =>
      after.isNone || (after == some '\n' && !(returns && before == some '\r')) ||
        (returns && after == some '\r')
  | wordBoundary word => before.any word.accepts != after.any word.accepts
  | noWordBoundary word => before.any word.accepts == after.any word.accepts
  | wordStart word => !before.any word.accepts && after.any word.accepts
  | wordEnd word => before.any word.accepts && !after.any word.accepts
  | noWordBefore word => !before.any word.accepts
  | noWordAfter word => !after.any word.accepts

end Look

namespace Regex

section Parts

/-- The parts of a sequence. -/
def items : Regex → List Regex
  | empty => []
  | concat a b => a.items ++ b.items
  | r => [r]

/-- The branches of a choice. -/
def branches : Regex → List Regex
  | either a b => a.branches ++ b.branches
  | r => [r]

/-- Several expressions, one after the other. -/
def concatOf : List Regex → Regex
  | [] => empty
  | [r] => r
  | r :: s :: rs => concat r (concatOf (s :: rs))

/-- A choice between several expressions. -/
def eitherOf : List Regex → Regex
  | [] => chars .none
  | [r] => r
  | r :: s :: rs => either r (eitherOf (s :: rs))

end Parts

section Lengths

/-- The least number of characters that a match takes.  There is none if a set without members
is part of the expression. -/
def leastLength : Regex → Option Nat
  | empty => some 0
  | text cs => some cs.length
  | chars set => if set = .none then none else some 1
  | look _ => some 0
  | concat a b => do return (← a.leastLength) + (← b.leastLength)
  | either a b => do return min (← a.leastLength) (← b.leastLength)
  | repeated body least _ _ => body.leastLength.map (least * ·)
  | group _ body => body.leastLength

/-- Whether every match takes a character, as far as the lengths tell. -/
def takesSome (r : Regex) : Bool := r.leastLength.any (0 < ·)

/-- Whether no match takes a character. -/
def takesNothing : Regex → Bool
  | empty => true
  | text cs => cs.isEmpty
  | chars _ => false
  | look _ => true
  | concat a b => a.takesNothing && b.takesNothing
  | either a b => a.takesNothing && b.takesNothing
  | repeated body _ most _ => most == some 0 || (most.isSome && body.takesNothing)
  | group _ body => body.takesNothing

end Lengths

section Anchors

/-- Whether every match begins where a condition holds, as far as the first parts tell. -/
def beginsWith (condition : Look) : Regex → Bool
  | look c => c == condition
  | concat a b => a.beginsWith condition || (a.takesNothing && b.beginsWith condition)
  | either a b => a.beginsWith condition && b.beginsWith condition
  | repeated body least _ _ => least != 0 && body.beginsWith condition
  | group _ body => body.beginsWith condition
  | _ => false

/-- Whether every match ends where a condition holds, as far as the last parts tell. -/
def endsWith (condition : Look) : Regex → Bool
  | look c => c == condition
  | concat a b => b.endsWith condition || (b.takesNothing && a.endsWith condition)
  | either a b => a.endsWith condition && b.endsWith condition
  | repeated body least _ _ => least != 0 && body.endsWith condition
  | group _ body => body.endsWith condition
  | _ => false

end Anchors

end Regex

end SchemaGrammar
