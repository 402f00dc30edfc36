import SchemaGrammar.Text.Class.Derived

/-!
# Sets of characters

The sets that a regular expression can name: ranges, classes of Unicode, and what set
operations make of them.

**Results.**
* `CharClass.accepts` tells the members of a set, `CharClass.only?` the member of a set of one.
* `CharClass.word`, `CharClass.digit` and `CharClass.blank` are the common classes, in all
  scripts or in ASCII alone.
-/

namespace SchemaGrammar

/-- A set of characters, by the runs of their code points. -/
structure CharClass where
  runs : Runs
  deriving DecidableEq, Inhabited

namespace CharClass

section Members

/-- Whether a character belongs to a set. -/
def accepts (c : CharClass) (x : Char) : Bool := c.runs.has x

/-- The set without members. -/
def none : CharClass := ⟨[]⟩

/-- Every character. -/
def everything : CharClass := ⟨Runs.scalars⟩

/-- The characters from one to another. -/
def range (first last : Char) : CharClass :=
  ⟨Runs.scalars.intersection [first.toNat, last.toNat + 1]⟩

/-- The set of one character. -/
def single (c : Char) : CharClass := ⟨[c.toNat, c.toNat + 1]⟩

/-- The member of a set of one. -/
def only? (c : CharClass) : Option Char :=
  match c.runs with
  | [first, past] => if past = first + 1 then some (Char.ofNat first) else .none
  | _ => .none

/-- Whether a set has no members beyond ASCII. -/
def isAscii (c : CharClass) : Bool := c.runs.all (· ≤ 128)

end Members

section Operations

/-- The characters that do not belong to a set. -/
def complement (c : CharClass) : CharClass := ⟨c.runs.complement⟩

def union (a b : CharClass) : CharClass := ⟨a.runs.union b.runs⟩

def intersection (a b : CharClass) : CharClass := ⟨a.runs.intersection b.runs⟩

def difference (a b : CharClass) : CharClass := ⟨a.runs.difference b.runs⟩

def symmetricDifference (a b : CharClass) : CharClass := ⟨a.runs.symmetricDifference b.runs⟩

/-- The union of several sets. -/
def unions (cs : List CharClass) : CharClass := ⟨Runs.unions (cs.map runs)⟩

/-- The set with all letters that differ from a member by case only. -/
def folded (c : CharClass) : CharClass := ⟨c.runs.withCaseVariants⟩

/-- The members of a run of 26 letters of ASCII, moved to the other case. -/
def asciiMoved (c : CharClass) (first target : Nat) : Runs :=
  ((c.runs.intersection [first, first + 26]).map (· - first)).map (· + target)

/-- The same with letters of ASCII alone. -/
def asciiFolded (c : CharClass) : CharClass :=
  ⟨Runs.unions [c.runs, c.asciiMoved 65 97, c.asciiMoved 97 65]⟩

end Operations

section Named

/-- The letters, and whatever else counts as alphabetic. -/
def alphabetic : CharClass := ⟨Text.alphabeticRuns⟩

/-- The decimal digits. -/
def digit : CharClass := ⟨Text.decimalNumberRuns⟩

/-- The white space. -/
def blank : CharClass := ⟨Text.blankRuns⟩

/-- What words consist of: letters, marks, digits, connectors and the two joiners. -/
def word : CharClass := ⟨Text.wordRuns⟩

def asciiDigit : CharClass := range '0' '9'

def asciiLetter : CharClass := union (range 'A' 'Z') (range 'a' 'z')

def asciiBlank : CharClass := union (range '\t' '\r') (single ' ')

def asciiWord : CharClass := unions [asciiDigit, asciiLetter, single '_']

end Named

end CharClass

end SchemaGrammar
