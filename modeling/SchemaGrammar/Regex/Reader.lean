import SchemaGrammar.Regex.Construct
import SchemaGrammar.Regex.Property
import SchemaGrammar.Text.Class.Alphanumeric

/-!
# The notation of regular expressions

An expression is a choice between sequences, a sequence is made of items, and an item is a
character, a class, a condition or a group, perhaps repeated.  Flags set inside a group hold
up to its end.  Expressions that look around, refer back or nest too deep are refused.

**Results.**
* `Regex.parse` reads an expression under given flags.
-/

namespace SchemaGrammar.Regex

/-- How an expression is to be understood. -/
structure Flags where
  /-- Letters stand for all their cases. -/
  caseless : Bool := false
  /-- The marks of beginning and end hold for every line. -/
  multiline : Bool := false
  /-- The point stands for line feeds, too. -/
  dotAll : Bool := false
  /-- Repetitions are lazy unless marked otherwise. -/
  swapGreed : Bool := false
  /-- White space and comments do not count. -/
  verbose : Bool := false
  /-- A carriage return ends a line, too. -/
  returns : Bool := false
  /-- The classes are those of all scripts, not of ASCII alone. -/
  allScripts : Bool := true
  deriving DecidableEq, Inhabited

section Characters

/-- Skips white space and comments; the text ends before `steps` runs out. -/
def skipVoid : (steps : Nat) → List Char → List Char
  | 0, cs => cs
  | steps + 1, cs =>
      match cs.dropWhile Text.isBlank with
      | '#' :: rest => skipVoid steps (rest.dropWhile (· != '\n'))
      | rest => rest

/-- Skips what does not count. -/
def Flags.skip (f : Flags) (cs : List Char) : List Char :=
  if f.verbose then skipVoid (cs.length + 1) cs else cs

/-- The set of a character under the flags. -/
def Flags.foldSet (f : Flags) (c : CharClass) : CharClass :=
  if f.caseless then if f.allScripts then .folded c else .asciiFolded c else c

/-- The complement of a set, unless it would hold characters that the flags exclude. -/
def Flags.negated? (f : Flags) (negated : Bool) (c : CharClass) : Option CharClass :=
  if !negated then some c else if f.allScripts then some (.complement c) else none

def Flags.word (f : Flags) : CharClass := if f.allScripts then .word else .asciiWord

/-- The set of every character but those that end a line. -/
def Flags.dot? (f : Flags) : Option CharClass :=
  if !f.allScripts then none
  else if f.dotAll then some .everything
  else if f.returns then some (.complement (.union (.single '\n') (.single '\r')))
  else some (.complement (.single '\n'))

/-- Reads a text that has to come next. -/
def expectText (text : String) (cs : List Char) : Option (List Char) :=
  if text.toList.isPrefixOf cs then some (cs.drop text.length) else none

end Characters

section Escapes

/-- What an escape stands for. -/
inductive Escape
  /-- A character; `byte` tells that it is written as the number of a byte. -/
  | char (c : Char) (byte : Bool)
  | set (c : CharClass)
  | look (condition : Look)

/-- The character with a number. -/
def charOf? (n : Nat) : Option Char := if n.isValidChar then some (Char.ofNat n) else none

/-- The value of a hexadecimal digit. -/
def hexValue? (c : Char) : Option Nat :=
  if c.isDigit then some (c.toNat - 48)
  else if 'a' ≤ c ∧ c ≤ 'f' then some (c.toNat - 87)
  else if 'A' ≤ c ∧ c ≤ 'F' then some (c.toNat - 55)
  else none

/-- Reads exactly `count` hexadecimal digits. -/
def readHexDigits (f : Flags) : (count value : Nat) → List Char → Option (Nat × List Char)
  | 0, value, cs => some (value, cs)
  | count + 1, value, cs =>
      match f.skip cs with
      | [] => none
      | c :: rest => do
          let d ← hexValue? c
          readHexDigits f count (value * 16 + d) rest

/-- Reads what stands between braces, up to the closing one. -/
def readBraced (f : Flags) : (steps : Nat) → List Char → Option (List Char × List Char)
  | 0, _ => none
  | steps + 1, cs =>
      match f.skip cs with
      | [] => none
      | c :: rest =>
          if c = '\x7d' then some ([], rest)
          else (readBraced f steps rest).map fun (body, rest) => (c :: body, rest)

/-- The number that hexadecimal digits write. -/
def hexNumber? (ds : List Char) : Option Nat :=
  if ds.isEmpty then none
  else ds.foldlM (fun n c => (hexValue? c).map fun d => n * 16 + d) 0

/-- Reads a character by its number: `count` digits, or any number of them between braces. -/
def readHexChar (f : Flags) (count : Nat) (cs : List Char) : Option (Escape × List Char) :=
  match f.skip cs with
  | '\x7b' :: rest => do
      let (body, rest) ← readBraced f (rest.length + 1) rest
      let n ← hexNumber? body
      let c ← charOf? n
      return (.char c false, rest)
  | cs => do
      let (n, rest) ← readHexDigits f count 0 cs
      let c ← charOf? n
      return (.char c (count = 2), rest)

/-- Cuts a text at the first place where another one stands. -/
def cutAt? (mark : List Char) : List Char → Option (List Char × List Char)
  | [] => none
  | c :: cs =>
      if mark.isPrefixOf (c :: cs) then some ([], (c :: cs).drop mark.length)
      else (cutAt? mark cs).map fun (before, behind) => (c :: before, behind)

/-- The class that a property stands for, a name or a property with a value, and whether the
value is excluded. -/
def propertyClass? (body : List Char) : Option (CharClass × Bool) :=
  match cutAt? ['!', '='] body with
  | some (property, value) => (CharClass.valued? property value).map (·, true)
  | none =>
      match (cutAt? [':'] body).or (cutAt? ['='] body) with
      | some (property, value) => (CharClass.valued? property value).map (·, false)
      | none => (CharClass.named? body).map (·, false)

/-- Reads a property: one letter, or a name between braces. -/
def readProperty (f : Flags) (negated : Bool) (cs : List Char) :
    Option (Escape × List Char) := do
  if !f.allScripts then none
  let (body, rest) ← match f.skip cs with
    | [] => none
    | '\\' :: _ => none
    | '\x7b' :: rest => readBraced f (rest.length + 1) rest
    | c :: rest => some ([c], rest)
  let (c, excluded) ← propertyClass? body
  let c := f.foldSet c
  return (.set (if negated != excluded then .complement c else c), rest)

/-- The class of a letter that stands for one. -/
def letterClass (f : Flags) (letter : Char) : CharClass :=
  if letter = 'd' then if f.allScripts then .digit else .asciiDigit
  else if letter = 's' then if f.allScripts then .blank else .asciiBlank
  else f.word

/-- Whether a character may stand in the name of a special boundary. -/
def inBoundaryName (c : Char) : Bool := c.isAlpha || c == '-'

/-- Reads the name of a special boundary between braces, if one stands here. -/
def readBoundary (f : Flags) (cs : List Char) : Option (Escape × List Char) :=
  let plain := some (Escape.look (.wordBoundary f.word), cs)
  match cs with
  | '\x7b' :: rest =>
      match f.skip rest with
      | [] => none
      | c :: rest =>
          if inBoundaryName c then do
            let (name, rest) ← readBraced f (rest.length + 2) (c :: rest)
            let condition ←
              if name = "start".toList then some (Look.wordStart f.word)
              else if name = "end".toList then some (Look.wordEnd f.word)
              else if name = "start-half".toList then some (Look.noWordBefore f.word)
              else if name = "end-half".toList then some (Look.noWordAfter f.word)
              else none
            return (.look condition, rest)
          else plain
  | _ => plain

/-- The control character of an escaped letter. -/
def controlOf? (c : Char) : Option Char :=
  if c = 'a' then some '\x07'
  else if c = 'f' then some '\x0c'
  else if c = 't' then some '\t'
  else if c = 'n' then some '\n'
  else if c = 'r' then some '\r'
  else if c = 'v' then some '\x0b'
  else none

/-- Reads an escape behind its backslash. -/
def readEscape (f : Flags) : List Char → Option (Escape × List Char)
  | [] => none
  | c :: rest =>
      if c.isDigit then none
      else if c = 'x' then readHexChar f 2 rest
      else if c = 'u' then readHexChar f 4 rest
      else if c = 'U' then readHexChar f 8 rest
      else if c = 'p' ∨ c = 'P' then readProperty f (c = 'P') rest
      else if c = 'd' ∨ c = 's' ∨ c = 'w' then some (.set (letterClass f c), rest)
      else if c = 'D' ∨ c = 'S' ∨ c = 'W' then
        (f.negated? true (letterClass f c.toLower)).map fun set => (.set set, rest)
      else if c = 'A' then some (.look .textStart, rest)
      else if c = 'z' then some (.look .textEnd, rest)
      else if c = 'b' then readBoundary f rest
      else if c = 'B' then some (.look (.noWordBoundary f.word), rest)
      else if c = '<' then some (.look (.wordStart f.word), rest)
      else if c = '>' then some (.look (.wordEnd f.word), rest)
      else match controlOf? c with
        | some d => some (.char d false, rest)
        | none =>
            if c ≤ '\x7f' ∧ ¬ c.isAlpha then some (.char c false, rest) else none

/-- A character outside of brackets, unless it is a byte that is none of ASCII. -/
def plainChar? (f : Flags) (c : Char) (byte : Bool) : Option CharClass :=
  if byte ∧ ¬ f.allScripts ∧ '\x7f' < c then none else some (f.foldSet (.single c))

end Escapes

section Brackets

/-- A set and how deep its notation is nested. -/
structure SetPiece where
  set : CharClass
  depth : Nat

/-- The operations on sets. -/
inductive SetOp
  | intersection
  | difference
  | symmetricDifference

def SetOp.apply : SetOp → CharClass → CharClass → CharClass
  | intersection => .intersection
  | difference => .difference
  | symmetricDifference => .symmetricDifference

/-- The classes of ASCII by name. -/
def asciiClasses : List (String × CharClass) :=
  [("alnum", .union .asciiDigit .asciiLetter), ("alpha", .asciiLetter),
    ("ascii", .range '\x00' '\x7f'), ("blank", .union (.single '\t') (.single ' ')),
    ("cntrl", .union (.range '\x00' '\x1f') (.single '\x7f')), ("digit", .asciiDigit),
    ("graph", .range '!' '~'), ("lower", .range 'a' 'z'), ("print", .range ' ' '~'),
    ("punct", .unions [.range '!' '/', .range ':' '@', .range '[' '\x60', .range '\x7b' '~']),
    ("space", .asciiBlank), ("upper", .range 'A' 'Z'), ("word", .asciiWord),
    ("xdigit", .unions [.asciiDigit, .range 'A' 'F', .range 'a' 'f'])]

/-- Reads a class of ASCII behind its bracket: whether it is negated, its set and the rest. -/
def readAsciiClass (cs : List Char) : Option (Bool × CharClass × List Char) := do
  let rest ← expectText ":" cs
  let (negated, rest) : Bool × List Char := match rest with
    | '^' :: rest => (true, rest)
    | rest => (false, rest)
  let name := rest.takeWhile (· != ':')
  let rest ← expectText ":]" (rest.dropWhile (· != ':'))
  let set ← asciiClasses.lookup (String.ofList name)
  return (negated, set, rest)

/-- A member of a set: a character, which may begin or end a range, or a class. -/
inductive Member
  | char (c : Char)
  | set (c : CharClass)

/-- Reads a member of a set. -/
def readMember (f : Flags) (cs : List Char) : Option (Member × List Char) :=
  match cs with
  | '\\' :: rest => do
      let (escape, rest) ← readEscape f rest
      match escape with
      | .char c byte => if byte ∧ ¬ f.allScripts ∧ '\x7f' < c then none else some (.char c, rest)
      | .set c => some (.set c, rest)
      | .look _ => none
  | c :: rest => some (.char c, rest)
  | [] => none

/-- A character as a member: one that is none of ASCII needs all scripts. -/
def memberSet? (f : Flags) (first last : Char) : Option CharClass :=
  if first ≤ last ∧ (f.allScripts ∨ last ≤ '\x7f') then some (.range first last) else none

/-- Reads a member or a range. -/
def readRange (f : Flags) (cs : List Char) : Option (CharClass × List Char) := do
  let (first, rest) ← readMember f cs
  let rest := f.skip rest
  let alone : Option (CharClass × List Char) := match first with
    | .char c => (memberSet? f c c).map fun set => (set, rest)
    | .set c => some (c, rest)
  match rest with
  | [] => none
  | '-' :: behind =>
      match f.skip behind with
      | [] => none
      | c :: behind =>
          if c = ']' ∨ c = '-' then alone
          else do
            let (last, rest) ← readMember f (c :: behind)
            match first, last with
            | .char first, .char last => (memberSet? f first last).map fun set => (set, rest)
            | _, _ => none
  | _ => alone

/-- The union of the members that stand side by side. -/
def unionPiece (members : List SetPiece) : SetPiece :=
  match members with
  | [] => ⟨.none, 0⟩
  | [m] => m
  | members =>
      ⟨.unions (members.map (·.set)), (members.map (·.depth)).foldl max 0 + 1⟩

/-- The operation that waits for its right side, carried out. -/
def applyPending (f : Flags) (pending : Option (SetOp × SetPiece)) (right : SetPiece) : SetPiece :=
  match pending with
  | none => right
  | some (op, left) =>
      ⟨op.apply (f.foldSet left.set) (f.foldSet right.set), max left.depth right.depth + 1⟩

/-- Takes the hyphens at the beginning of a set. -/
def readHyphens (f : Flags) : (steps : Nat) → List Char → Nat × List Char
  | 0, cs => (0, cs)
  | steps + 1, '-' :: rest =>
      let (count, rest) := readHyphens f steps (f.skip rest)
      (count + 1, rest)
  | _ + 1, cs => (0, cs)

/-- Takes an operation on sets. -/
def readSetOp (cs : List Char) : Option (SetOp × List Char) :=
  match cs with
  | '&' :: '&' :: rest => some (.intersection, rest)
  | '-' :: '-' :: rest => some (.difference, rest)
  | '~' :: '~' :: rest => some (.symmetricDifference, rest)
  | _ => none

mutual

/-- Reads a set behind its opening bracket. -/
def readBrackets (f : Flags) : (steps : Nat) → List Char → Option (SetPiece × List Char)
  | 0, _ => none
  | steps + 1, cs => do
      let (negated, rest) : Bool × List Char := match f.skip cs with
        | '^' :: rest => (true, f.skip rest)
        | rest => (false, rest)
      let (hyphens, rest) := readHyphens f steps rest
      let start : List SetPiece := List.replicate hyphens ⟨.single '-', 0⟩
      let (start, rest) : List SetPiece × List Char := match hyphens, rest with
        | 0, ']' :: rest => ([⟨.single ']', 0⟩], f.skip rest)
        | _, rest => (start, rest)
      let (piece, rest) ← readSet f steps none start rest
      let set ← f.negated? negated (f.foldSet piece.set)
      return (⟨set, piece.depth + 1⟩, rest)

/-- Reads the members of a set up to its closing bracket. -/
def readSet (f : Flags) : (steps : Nat) → Option (SetOp × SetPiece) → List SetPiece →
    List Char → Option (SetPiece × List Char)
  | 0, _, _, _ => none
  | steps + 1, pending, members, cs =>
      match f.skip cs with
      | [] => none
      | ']' :: rest => some (applyPending f pending (unionPiece members), rest)
      | '[' :: rest =>
          match readAsciiClass rest with
          | some (negated, set, rest) => do
              let set ← f.negated? negated (f.foldSet set)
              readSet f steps pending (members ++ [⟨set, 0⟩]) rest
          | none => do
              let (piece, rest) ← readBrackets f steps rest
              readSet f steps pending (members ++ [piece]) rest
      | cs =>
          match readSetOp cs with
          | some (op, rest) =>
              readSet f steps (some (op, applyPending f pending (unionPiece members))) [] rest
          | none => do
              let (set, rest) ← readRange f cs
              readSet f steps pending (members ++ [⟨set, 0⟩]) rest

end

end Brackets

section Groups

/-- Sets a flag; it must be a known one. -/
def Flags.set? (f : Flags) (letter : Char) (value : Bool) : Option Flags :=
  if letter = 'i' then some { f with caseless := value }
  else if letter = 'm' then some { f with multiline := value }
  else if letter = 's' then some { f with dotAll := value }
  else if letter = 'U' then some { f with swapGreed := value }
  else if letter = 'x' then some { f with verbose := value }
  else if letter = 'R' then some { f with returns := value }
  else if letter = 'u' then some { f with allScripts := value }
  else none

/-- Reads flags up to a colon or a parenthesis, each of them once; those behind the hyphen are
taken back, and something has to stand there. -/
def readFlags (value : Bool) (seen : List Char) (last : Char) (f : Flags) :
    List Char → Option (Flags × Bool × List Char)
  | [] => none
  | c :: rest =>
      if c = ':' ∨ c = ')' then
        if last = '-' then none else some (f, c = ')', rest)
      else if c = '-' then if value then readFlags false seen '-' f rest else none
      else if seen.contains c then none
      else do
        let next ← f.set? c value
        readFlags value (c :: seen) c next rest

/-- The groups that have begun so far. -/
structure Groups where
  /-- How many groups are counted. -/
  count : Nat := 0
  names : List (List Char) := []

/-- How a group begins. -/
inductive GroupStart
  /-- The group is no group but sets flags for what follows. -/
  | flags (f : Flags)
  /-- A group with flags of its own that is not counted. -/
  | plain (f : Flags)
  /-- A group that is counted. -/
  | counted (known : Groups)

/-- Whether a character may stand in the name of a group. -/
def inGroupName (first : Bool) (c : Char) : Bool :=
  if first then c == '_' || Text.isAlphabetic c
  else c == '_' || c == '.' || c == '[' || c == ']' || Text.isAlphanumeric c

/-- Reads the name of a group up to its closing bracket. -/
def readGroupName (cs : List Char) : Option (List Char × List Char) :=
  let name := cs.takeWhile (· != '>')
  match name, cs.dropWhile (· != '>') with
  | c :: more, _ :: rest =>
      if inGroupName true c && more.all (inGroupName false) then some (name, rest) else none
  | _, _ => none

/-- Counts a group. -/
def Groups.next (known : Groups) : Groups := { known with count := known.count + 1 }

/-- Reads the beginning of a group behind its parenthesis. -/
def readGroupStart (f : Flags) (known : Groups) (cs : List Char) :
    Option (GroupStart × List Char) :=
  let named (cs : List Char) : Option (GroupStart × List Char) := do
    let (name, rest) ← readGroupName cs
    if known.names.contains name then none
    else some (.counted { known.next with names := name :: known.names }, rest)
  match f.skip cs with
  | '?' :: 'P' :: '<' :: rest => named rest
  | '?' :: '<' :: rest => named rest
  | '?' :: rest => do
      let (next, closed, behind) ← readFlags true [] ' ' f rest
      if closed then if rest.head? = some ')' then none else some (.flags next, behind)
      else some (.plain next, behind)
  | rest => some (.counted known.next, rest)

end Groups

section Items

/-- An expression and how deep its notation is nested. -/
structure Piece where
  regex : Regex
  depth : Nat

/-- The depth of several pieces in one. -/
def outerDepth (ps : List Piece) : Nat :=
  match ps with
  | [] => 0
  | [p] => p.depth
  | ps => (ps.map (·.depth)).foldl max 0 + 1

/-- The items of a sequence, which are listed last first; nothing where flags are set. -/
def sequencePiece (items : List (Option Piece)) : Piece :=
  let pieces := items.reverse.map fun item => item.getD ⟨.empty, 0⟩
  ⟨sequence (pieces.map (·.regex)), outerDepth pieces⟩

/-- The branches of a choice, which are listed last first. -/
def choicePiece (branches : List Piece) : Piece :=
  match branches.reverse with
  | [p] => p
  | branches => ⟨choice (branches.map (·.regex)), outerDepth branches⟩

/-- Takes digits; what does not count may stand between them. -/
def readDigits (f : Flags) : (steps : Nat) → List Char → List Char × List Char
  | 0, cs => ([], cs)
  | steps + 1, cs =>
      match cs with
      | c :: rest =>
          if c.isDigit then
            let (digits, rest) := readDigits f steps (f.skip rest)
            (c :: digits, rest)
          else ([], cs)
      | [] => ([], [])

/-- Reads a number, with white space around it. -/
def readCount (f : Flags) (cs : List Char) : Option Nat × List Char :=
  let cs := cs.dropWhile Text.isBlank
  let (digits, rest) := readDigits f (cs.length + 1) cs
  let n := digits.foldl (fun n c => n * 10 + (c.toNat - 48)) 0
  (if digits.isEmpty ∨ Nat.pow 2 32 ≤ n then none else some n,
    f.skip (rest.dropWhile Text.isBlank))

/-- Reads the bounds of a repetition behind the brace. -/
def readBounds (f : Flags) (cs : List Char) : Option ((Nat × Option Nat) × List Char) := do
  let (least, rest) := readCount f (f.skip cs)
  let least ← least
  let (bounds, rest) ← match rest with
    | ',' :: rest =>
        match f.skip rest with
        | '\x7d' :: rest => some ((least, none), '\x7d' :: rest)
        | rest =>
            let (most, rest) := readCount f rest
            most.map fun most => ((least, some most), rest)
    | rest => some ((least, some least), rest)
  match bounds, rest with
  | (least, some most), '\x7d' :: rest =>
      if least ≤ most then some ((least, some most), f.skip rest) else none
  | (least, none), '\x7d' :: rest => some ((least, none), f.skip rest)
  | _, _ => none

/-- Reads the bounds of a repetition, whatever its form. -/
def readRepetition (f : Flags) (cs : List Char) : Option ((Nat × Option Nat) × List Char) :=
  match cs with
  | '*' :: rest => some ((0, none), rest)
  | '+' :: rest => some ((1, none), rest)
  | '?' :: rest => some ((0, some 1), rest)
  | '\x7b' :: rest => readBounds f rest
  | _ => none

/-- Reads a character, a condition or a class outside of brackets. -/
def readAtom (f : Flags) (cs : List Char) : Option (Regex × List Char) :=
  match cs with
  | [] => none
  | '.' :: rest => f.dot?.map fun set => (ofClass set, rest)
  | '^' :: rest =>
      some (.look (if f.multiline then .lineStart f.returns else .textStart), rest)
  | '$' :: rest => some (.look (if f.multiline then .lineEnd f.returns else .textEnd), rest)
  | '\\' :: rest => do
      let (escape, rest) ← readEscape f rest
      match escape with
      | .char c byte => (plainChar? f c byte).map fun set => (ofClass set, rest)
      | .set c => return (ofClass c, rest)
      | .look condition => return (.look condition, rest)
  | c :: rest => (plainChar? f c false).map fun set => (ofClass set, rest)

/-- The first of the items read, which are listed last first, put under a repetition. -/
def repeatLast (bounds : Nat × Option Nat) (greedy : Bool) :
    List (Option Piece) → Option (List (Option Piece))
  | some p :: before =>
      some (some ⟨repetition p.regex bounds.1 bounds.2 greedy, p.depth + 1⟩ :: before)
  | _ => none

/-- Reads a choice up to the end of its group.  The branches and the items of the last branch
that have been read so far are listed last first. -/
def readChoice : (steps : Nat) → Flags → (known : Groups) → (branches : List Piece) →
    (items : List (Option Piece)) → List Char → Option (Piece × Groups × List Char)
  | 0, _, _, _, _, _ => none
  | steps + 1, f, known, branches, items, cs =>
      match f.skip cs with
      | [] => some (choicePiece (sequencePiece items :: branches), known, [])
      | ')' :: rest => some (choicePiece (sequencePiece items :: branches), known, ')' :: rest)
      | '|' :: rest => readChoice steps f known (sequencePiece items :: branches) [] rest
      | '(' :: rest => do
          let (start, rest) ← readGroupStart f known rest
          match start with
          | .flags next => readChoice steps next known branches (none :: items) rest
          | .plain inner =>
              let (piece, known, rest) ← readChoice steps inner known [] [] rest
              let rest ← expectText ")" rest
              readChoice steps f known branches
                (some ⟨piece.regex, piece.depth + 1⟩ :: items) rest
          | .counted begun =>
              let (piece, known, rest) ← readChoice steps f begun [] [] rest
              let rest ← expectText ")" rest
              readChoice steps f known branches
                (some ⟨.group begun.count piece.regex, piece.depth + 1⟩ :: items) rest
      | '[' :: rest => do
          let (piece, rest) ← readBrackets f steps rest
          readChoice steps f known branches
            (some ⟨ofClass piece.set, piece.depth⟩ :: items) rest
      | c :: rest =>
          if c = '*' ∨ c = '+' ∨ c = '?' ∨ c = '\x7b' then do
            let (bounds, rest) ← readRepetition f (c :: rest)
            let (lazy, rest) : Bool × List Char := match rest with
              | '?' :: rest => (true, rest)
              | rest => (false, rest)
            let items ← repeatLast bounds (lazy == f.swapGreed) items
            readChoice steps f known branches items rest
          else do
            let (regex, rest) ← readAtom f (c :: rest)
            readChoice steps f known branches (some ⟨regex, 0⟩ :: items) rest

end Items

/-- How deep the notation of an expression may be nested. -/
def depthLimit : Nat := 250

/-- The expression that a text writes under given flags. -/
def parse (f : Flags) (source : String) : Option Regex :=
  match readChoice (source.length + 1) f {} [] [] source.toList with
  | some (piece, _, []) => if piece.depth ≤ depthLimit then some piece.regex else none
  | _ => none

end SchemaGrammar.Regex
