import SchemaGrammar.Json.Document

/-!
# Reading JSON text

The text is read from left to right into a document.  Blanks are space, tab, line feed and
carriage return.  Numbers without fraction and exponent are integers as long as they fit into
64 bits; all others become doubles: the leading digits that fit into 64 bits are converted,
then scaled once by a power of ten.

**Results.**
* `Document.ofText` reads a whole text.
* Two calls of the reader in a row consume a character, so twice the length of the text bounds
  the depth of the recursion.
-/

namespace SchemaGrammar

namespace JsonText

/-- Whether a character may stand between tokens. -/
def isBlank (c : Char) : Bool := c == ' ' || c == '\t' || c == '\n' || c == '\r'

def skipBlanks (cs : List Char) : List Char := cs.dropWhile isBlank

section Strings

/-- The value of a hexadecimal digit. -/
def hexDigit? (c : Char) : Option Nat :=
  if '0' ≤ c ∧ c ≤ '9' then some (c.toNat - '0'.toNat)
  else if 'a' ≤ c ∧ c ≤ 'f' then some (c.toNat - 'a'.toNat + 10)
  else if 'A' ≤ c ∧ c ≤ 'F' then some (c.toNat - 'A'.toNat + 10)
  else none

/-- The 16-bit unit of four hexadecimal digits. -/
def hexUnit? (a b c d : Char) : Option Nat := do
  let w ← hexDigit? a
  let x ← hexDigit? b
  let y ← hexDigit? c
  let z ← hexDigit? d
  return ((w * 16 + x) * 16 + y) * 16 + z

/-- The character of a one-letter escape. -/
def escaped? (c : Char) : Option Char :=
  if c = '"' then some '"'
  else if c = '\\' then some '\\'
  else if c = '/' then some '/'
  else if c = 'b' then some '\x08'
  else if c = 'f' then some '\x0c'
  else if c = 'n' then some '\n'
  else if c = 'r' then some '\r'
  else if c = 't' then some '\t'
  else none

/-- Whether at least four bytes of text are left. -/
def fourBytesLeft (cs : List Char) : Bool :=
  4 ≤ (cs.take 4).foldr (fun c bytes => c.utf8Size + bytes) 0

/-- Where a hexadecimal escape without four digits stops the string. -/
def hexStop (cs : List Char) : StringStop := if fourBytesLeft cs then .badDigit else .ended

/-- A written string and what follows it.  A string that stops early takes all of the rest. -/
abbrev ReadString := StringLit × List Char

/-- A string with one more piece in front. -/
def withPiece (p : Piece) (r : ReadString) : ReadString := (⟨p :: r.1.pieces, r.1.stop⟩, r.2)

/-- The rest of a string behind its opening quote. -/
def readString : List Char → ReadString
  | [] => (⟨[], .ended⟩, [])
  | c :: cs =>
      if c = '"' then (⟨[], .closed⟩, cs)
      else if c = '\\' then
        match cs with
        | [] => (⟨[], .ended⟩, [])
        | e :: cs =>
            if e = 'u' then
              match cs with
              | w :: x :: y :: z :: rest =>
                  match hexUnit? w x y z with
                  | some n => withPiece (.unit n) (readString rest)
                  | none => (⟨[], hexStop cs⟩, [])
              | cs => (⟨[], hexStop cs⟩, [])
            else match escaped? e with
              | some d => withPiece (.char d) (readString cs)
              | none => (⟨[], .badEscape⟩, [])
      else if c < ' ' then (⟨[], .control⟩, [])
      else withPiece (.char c) (readString cs)

end Strings

section Numbers

def isDigit (c : Char) : Bool := '0' ≤ c && c ≤ '9'

def digitValue (c : Char) : Nat := c.toNat - '0'.toNat

/-- The largest unsigned integer of 64 bits. -/
def maxWord : Nat := Nat.pow 2 64 - 1

/-- The number of a run of digits. -/
def digitsValue (ds : List Char) : Nat := ds.foldl (fun n d => n * 10 + digitValue d) 0

/-- Appends digits to a significand as long as it stays within 64 bits; the digits that are
left over come back. -/
def absorb (significand : Nat) : List Char → Nat × List Char
  | [] => (significand, [])
  | d :: ds =>
      if significand * 10 + digitValue d ≤ maxWord then
        absorb (significand * 10 + digitValue d) ds
      else (significand, d :: ds)

/-- A magnitude divided by a power of ten, in steps of at most `10 ^ 308`. -/
def divideByPowTen (m : Magnitude) (k : Nat) : Magnitude :=
  if k ≤ 308 then (m.div (.powTen k)).getD .zero
  else if m.isZero then m
  else divideByPowTen ((m.div (.powTen 308)).getD .zero) (k - 308)
termination_by k

/-- `significand · 10 ^ exponent`, the significand rounded first and scaled after that. -/
def scaled (significand : Nat) (exponent : Int) : Option Magnitude := do
  let m ← Magnitude.ofNat significand
  if exponent < 0 then return divideByPowTen m exponent.natAbs
  else if exponent ≤ 308 then m.mul (.powTen exponent.toNat)
  else if m.isZero then return m
  else none

/-- The parts of a written number: sign, digits before and after the point, exponent. -/
structure Numeral where
  negative : Bool
  whole : List Char
  fraction : Option (List Char)
  /-- The sign of the exponent, true for minus, and its digits. -/
  exponent : Option (Bool × List Char)

/-- The largest exponent that is told apart from larger ones. -/
def maxExponent : Nat := Nat.pow 2 31 - 1

namespace Numeral

/-- The double of a numeral, or nothing if it is too large. -/
def toDouble? (n : Numeral) : Option Double :=
  let (head, extra) := absorb 0 n.whole
  let fraction := n.fraction.getD []
  let (significand, unread) := absorb head fraction
  let shift : Int := (extra.length : Int) - ((fraction.length - unread.length : Nat) : Int)
  let sized : Option Magnitude := match n.exponent with
    | none => scaled significand shift
    | some (minus, ds) =>
        let e := digitsValue ds
        if e ≤ maxExponent then scaled significand (if minus then shift - e else shift + e)
        else if minus || significand == 0 then some .zero
        else none
  sized.map (.ofMagnitude n.negative)

/-- The number of a numeral: an integer if it is written as one and fits. -/
def toNumber? (n : Numeral) : Option Number :=
  match n.fraction, n.exponent with
  | none, none =>
      let v := digitsValue n.whole
      if !n.negative && decide (v ≤ maxWord) then some (.int v)
      else if n.negative && decide (0 < v ∧ v ≤ Nat.pow 2 63) then some (.int (-(v : Int)))
      else n.toDouble?.map .double
  | _, _ => n.toDouble?.map .double

end Numeral

/-- The fault where a digit is due and `cs` comes. -/
def digitFault (cs : List Char) : Doc := .broken (if cs.isEmpty then .numberEnded else .badNumber)

/-- Reads the exponent of a number, if there is one, and makes the number. -/
def readExponent
    (negative : Bool)
    (whole : List Char)
    (fraction : Option (List Char)) :
    List Char → Doc × List Char
  | [] => (.num (Numeral.mk negative whole fraction none).toNumber?, [])
  | c :: cs =>
      if c = 'e' ∨ c = 'E' then
        let (minus, rest) : Bool × List Char := match cs with
          | '+' :: r => (false, r)
          | '-' :: r => (true, r)
          | r => (false, r)
        let ds := rest.takeWhile isDigit
        let after := rest.dropWhile isDigit
        if ds.isEmpty then (digitFault after, [])
        else (.num (Numeral.mk negative whole fraction (some (minus, ds))).toNumber?, after)
      else (.num (Numeral.mk negative whole fraction none).toNumber?, c :: cs)

/-- Reads a number behind its sign. -/
def readNumber (negative : Bool) (cs : List Char) : Doc × List Char :=
  let ds := cs.takeWhile isDigit
  let after := cs.dropWhile isDigit
  match ds with
  | [] => (digitFault after, [])
  | '0' :: _ :: _ => (.broken .badNumber, [])
  | _ =>
      match after with
      | '.' :: rest =>
          let fs := rest.takeWhile isDigit
          let behind := rest.dropWhile isDigit
          if fs.isEmpty then (digitFault behind, [])
          else readExponent negative ds (some fs) behind
      | _ => readExponent negative ds none after

end Numbers

/-- Reads the rest of a word whose first letter has been seen. -/
def readWord (value : Doc) : (word cs : List Char) → Doc × List Char
  | [], cs => (value, cs)
  | _ :: _, [] => (.broken .wordEnded, [])
  | w :: ws, c :: cs => if w = c then readWord value ws cs else (.broken .badWord, [])

section Values

mutual

/-- Reads a value. -/
def readValue : (steps : Nat) → List Char → Doc × List Char
  | 0, _ => (.broken .ended, [])
  | steps + 1, cs =>
      match skipBlanks cs with
      | [] => (.broken .ended, [])
      | c :: rest =>
          if c = '"' then
            let (lit, after) := readString rest
            (.str lit, after)
          else if c = '[' then
            match skipBlanks rest with
            | [] => (.arr [] .ended, [])
            | d :: after =>
                if d = ']' then (.arr [] .closed, after)
                else
                  let (items, stop, after) := readItems steps (d :: after)
                  (.arr items stop, after)
          else if c = '\x7b' then
            match skipBlanks rest with
            | [] => (.obj [] .ended, [])
            | d :: after =>
                if d = '\x7d' then (.obj [] .closed, after)
                else
                  let (members, stop, after) := readMembers steps (d :: after)
                  (.obj members stop, after)
          else if c = '-' then readNumber true rest
          else if isDigit c then readNumber false (c :: rest)
          else if c = 't' then readWord (.bool true) ['r', 'u', 'e'] rest
          else if c = 'f' then readWord (.bool false) ['a', 'l', 's', 'e'] rest
          else if c = 'n' then readWord .null ['u', 'l', 'l'] rest
          else (.broken .noValue, [])

/-- Reads the items of an array from the first character of an item on. -/
def readItems : (steps : Nat) → List Char → List Doc × ListStop × List Char
  | 0, _ => ([], .ended, [])
  | steps + 1, cs =>
      let (v, rest) := readValue steps cs
      match skipBlanks rest with
      | [] => ([v], .ended, [])
      | c :: after =>
          if c = ']' then ([v], .closed, after)
          else if c = ',' then
            match skipBlanks after with
            | [] => ([v], .commaEnded, [])
            | d :: further =>
                if d = ']' then ([v], .comma, further)
                else
                  let (vs, stop, last) := readItems steps (d :: further)
                  (v :: vs, stop, last)
          else ([v], .junk, [])

/-- Reads the members of an object from the first character of a key on. -/
def readMembers :
    (steps : Nat) → List Char → List (StringLit × Doc) × ObjectStop × List Char
  | 0, _ => ([], .ended, [])
  | _ + 1, [] => ([], .ended, [])
  | steps + 1, c :: cs =>
      if c = '"' then
        let (key, rest) := readString cs
        match skipBlanks rest with
        | [] => ([(key, .broken .colonEnded)], .ended, [])
        | d :: after =>
            if d = ':' then
              let (v, rest) := readValue steps after
              match skipBlanks rest with
              | [] => ([(key, v)], .ended, [])
              | e :: after =>
                  if e = '\x7d' then ([(key, v)], .closed, after)
                  else if e = ',' then
                    match skipBlanks after with
                    | [] => ([(key, v)], .commaEnded, [])
                    | f :: further =>
                        if f = '\x7d' then ([(key, v)], .comma, further)
                        else
                          let (ms, stop, last) := readMembers steps (f :: further)
                          ((key, v) :: ms, stop, last)
                  else ([(key, v)], .junk, [])
            else ([(key, .broken .noColon)], .ended, [])
      else ([], .noKey, [])

end

end Values

end JsonText

/-- The document of a text. -/
def Document.ofText (text : String) : Document :=
  let cs := text.toList
  let (body, rest) := JsonText.readValue (2 * cs.length + 2) cs
  ⟨body, (JsonText.skipBlanks rest).isEmpty⟩

/-- The value of a text, nested to any depth. -/
def Json.ofText (text : String) : Except SyntaxError Json := (Document.ofText text).read none

end SchemaGrammar
