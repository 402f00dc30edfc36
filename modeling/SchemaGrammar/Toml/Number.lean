import SchemaGrammar.Toml.Text

/-!
# Numbers, dates and times of TOML

Integers are decimal, hexadecimal, octal or binary and fit into 64 bits with sign; digits may
be grouped by underscores.  A number with a fraction or an exponent is a double, rounded
once.  Dates and times are checked against the calendar and kept in a standard spelling.

**Results.**
* `Toml.readNumber` and `Toml.readDateTime` read from the first character on.
-/

namespace SchemaGrammar.Toml

section Digits

/-- The value of a digit in a base. -/
def digit? (base : Nat) (c : Char) : Option Nat :=
  match JsonText.hexDigit? c with
  | some d => if d < base then some d else none
  | none => none

/-- Reads digits with single underscores between them. -/
def readDigits (base : Nat) : (afterDigit : Bool) → List Char → Option (List Nat × List Char)
  | afterDigit, [] => if afterDigit then some ([], []) else none
  | afterDigit, c :: cs =>
      match digit? base c with
      | some d => do
          let (ds, rest) ← readDigits base true cs
          return (d :: ds, rest)
      | none =>
          if c = '_' ∧ afterDigit then readDigits base false cs
          else if afterDigit then some ([], c :: cs)
          else none

/-- The number of digits in a base. -/
def ofDigits (base : Nat) (ds : List Nat) : Nat := ds.foldl (fun n d => n * base + d) 0

end Digits

section Numbers

/-- An integer, if it fits into 64 bits with sign. -/
def integer? (i : Int) : Option Json :=
  if -(Nat.pow 2 63 : Int) ≤ i ∧ i < (Nat.pow 2 63 : Int) then some (.num (.int i)) else none

/-- The double nearest to `digits · 10 ^ exponent`. -/
def nearest (digits : Nat) (exponent : Int) : Option Magnitude :=
  if digits = 0 then some .zero
  else if 400 < exponent + (Nat.log2 digits : Int) then none
  else if exponent < -400 - (Nat.log2 digits : Int) then some .zero
  else Magnitude.ofRatio (digits * Nat.pow 10 exponent.toNat) (Nat.pow 10 (-exponent).toNat)

/-- A double, if it is finite.  A number below the lowest double stands for no value. -/
def float? (negative : Bool) (digits : Nat) (exponent : Int) : Option Json :=
  match nearest digits exponent with
  | some m => some (.num (.double (.ofMagnitude negative m)))
  | none => if negative then some .null else none

/-- Reads an exponent behind its letter. -/
def readExponent (cs : List Char) : Option (Int × List Char) :=
  let (negative, rest) : Bool × List Char := match cs with
    | '+' :: r => (false, r)
    | '-' :: r => (true, r)
    | r => (false, r)
  (readDigits 10 false rest).map fun (ds, rest) =>
    let e : Int := ofDigits 10 ds
    (if negative then -e else e, rest)

/-- Reads what follows the whole part of a decimal number. -/
def readFraction (negative : Bool) (whole : List Nat) (cs : List Char) :
    Option (Json × List Char) := do
  let (fraction, rest, pointed) ← match cs with
    | '.' :: rest => (readDigits 10 false rest).map fun (ds, rest) => (ds, rest, true)
    | rest => some ([], rest, false)
  let digits := ofDigits 10 (whole ++ fraction)
  let shift : Int := -(fraction.length : Int)
  match rest with
  | 'e' :: rest | 'E' :: rest =>
      let (e, rest) ← readExponent rest
      let v ← float? negative digits (shift + e)
      return (v, rest)
  | rest =>
      if pointed then
        let v ← float? negative digits shift
        return (v, rest)
      else
        let n : Int := ofDigits 10 whole
        let v ← integer? (if negative then -n else n)
        return (v, rest)

/-- Reads an integer in a base other than ten. -/
def readBased (base : Nat) (cs : List Char) : Option (Json × List Char) := do
  let (ds, rest) ← readDigits base false cs
  let v ← integer? (ofDigits base ds)
  return (v, rest)

/-- Reads a decimal number behind its sign. -/
def readDecimal (negative : Bool) (cs : List Char) : Option (Json × List Char) := do
  let (ds, rest) ← readDigits 10 false cs
  match ds with
  | 0 :: _ :: _ => none
  | ds => readFraction negative ds rest

/-- Takes a word. -/
def word? (word : String) (cs : List Char) : Option (List Char) :=
  if word.toList.isPrefixOf cs then some (cs.drop word.length) else none

/-- Reads infinity or the absence of a number, neither of which has a value. -/
def readSpecial (cs : List Char) : Option (Json × List Char) :=
  match word? "inf" cs, word? "nan" cs with
  | some rest, _ => some (.null, rest)
  | none, some rest => some (.null, rest)
  | none, none => none

/-- Reads a number of any form. -/
def readNumber (cs : List Char) : Option (Json × List Char) :=
  match cs with
  | '0' :: 'x' :: rest => readBased 16 rest
  | '0' :: 'o' :: rest => readBased 8 rest
  | '0' :: 'b' :: rest => readBased 2 rest
  | '+' :: rest => (readSpecial rest).or (readDecimal false rest)
  | '-' :: rest => (readSpecial rest).or (readDecimal true rest)
  | cs => (readSpecial cs).or (readDecimal false cs)

end Numbers

section DateTimes

/-- Reads exactly `count` decimal digits. -/
def readFixed : (count value : Nat) → List Char → Option (Nat × List Char)
  | 0, value, cs => some (value, cs)
  | _ + 1, _, [] => none
  | count + 1, value, c :: cs => do
      let d ← digit? 10 c
      readFixed count (value * 10 + d) cs

/-- Takes one character. -/
def expect (c : Char) : List Char → Option (List Char)
  | d :: rest => if d = c then some rest else none
  | [] => none

/-- The number of days of a month. -/
def daysOfMonth (year month : Nat) : Nat :=
  if month = 2 then
    if year % 4 = 0 ∧ (year % 100 ≠ 0 ∨ year % 400 = 0) then 29 else 28
  else if month = 4 ∨ month = 6 ∨ month = 9 ∨ month = 11 then 30
  else 31

/-- A number with at least `width` digits. -/
def padded (width n : Nat) : String :=
  let ds := Nat.toDigits 10 n
  String.ofList (List.replicate (width - ds.length) '0' ++ ds)

/-- Reads a date. -/
def readDate (cs : List Char) : Option (String × List Char) := do
  let (year, rest) ← readFixed 4 0 cs
  let rest ← expect '-' rest
  let (month, rest) ← readFixed 2 0 rest
  let rest ← expect '-' rest
  let (day, rest) ← readFixed 2 0 rest
  if 1 ≤ month ∧ month ≤ 12 ∧ 1 ≤ day ∧ day ≤ daysOfMonth year month then
    return (padded 4 year ++ "-" ++ padded 2 month ++ "-" ++ padded 2 day, rest)
  else none

/-- Reads the fraction of a second: nine digits count, zeros at the end do not. -/
def readSecondFraction (cs : List Char) : Option (String × List Char) :=
  match cs with
  | '.' :: rest =>
      let ds := rest.takeWhile JsonText.isDigit
      let kept := ((ds.take 9).reverse.dropWhile (· == '0')).reverse
      if ds.isEmpty then none
      else
        some (if kept.isEmpty then "" else "." ++ String.ofList kept,
          rest.dropWhile JsonText.isDigit)
  | cs => some ("", cs)

/-- Reads a time of day. -/
def readTime (cs : List Char) : Option (String × List Char) := do
  let (hour, rest) ← readFixed 2 0 cs
  let rest ← expect ':' rest
  let (minute, rest) ← readFixed 2 0 rest
  let rest ← expect ':' rest
  let (second, rest) ← readFixed 2 0 rest
  let (fraction, rest) ← readSecondFraction rest
  if hour ≤ 23 ∧ minute ≤ 59 ∧ second ≤ 60 then
    return (padded 2 hour ++ ":" ++ padded 2 minute ++ ":" ++ padded 2 second ++ fraction, rest)
  else none

/-- Reads the offset of a time, if one stands here. -/
def readOffset (cs : List Char) : Option (String × List Char) :=
  match cs with
  | 'Z' :: rest | 'z' :: rest => some ("Z", rest)
  | '+' :: rest => offset false rest
  | '-' :: rest => offset true rest
  | cs => some ("", cs)
where
  /-- Reads hours and minutes behind the sign; an offset of nothing counts as positive. -/
  offset (negative : Bool) (cs : List Char) : Option (String × List Char) := do
    let (hour, rest) ← readFixed 2 0 cs
    let rest ← expect ':' rest
    let (minute, rest) ← readFixed 2 0 rest
    if hour ≤ 23 ∧ minute ≤ 59 then
      let sign := if negative ∧ 0 < hour + minute then "-" else "+"
      return (sign ++ padded 2 hour ++ ":" ++ padded 2 minute, rest)
    else none

/-- The time behind a date, if one stands here. -/
def readTimeOfDate (cs : List Char) : Option (String × List Char) :=
  match cs with
  | c :: rest =>
      if (c = 'T' ∨ c = 't' ∨ c = ' ') ∧ (readFixed 2 0 rest).isSome then do
        let (time, rest) ← readTime rest
        let (offset, rest) ← readOffset rest
        return ("T" ++ time ++ offset, rest)
      else some ("", c :: rest)
  | [] => some ("", [])

/-- The key under which a date or time stands in place of a value. -/
def dateTimeKey : String := "$__toml_private_datetime"

/-- Whether the text starts like a date or a time rather than a number. -/
def startsDateTime (cs : List Char) : Bool :=
  let run := (cs.takeWhile JsonText.isDigit).length
  match cs.drop run with
  | '-' :: _ => run == 4
  | ':' :: _ => run == 2
  | _ => false

/-- Reads the text of a date, a time or both. -/
def readMoment (cs : List Char) : Option (String × List Char) :=
  if (cs.drop 2).head? = some ':' then readTime cs
  else do
    let (date, rest) ← readDate cs
    let (time, rest) ← readTimeOfDate rest
    return (date ++ time, rest)

/-- Reads a date, a time or both. -/
def readDateTime (cs : List Char) : Option (Json × List Char) :=
  (readMoment cs).map fun (text, rest) => (.obj [(dateTimeKey, .str text)], rest)

end DateTimes

end SchemaGrammar.Toml
