import SchemaGrammar.Decimal.Double

/-!
# The shortest decimal of a double

Of all decimals that round to a double, the ones with the fewest digits are taken, and of
those the nearest.  The search tries one digit, then two, up to seventeen; on each grid only
the two neighbours of the exact value can qualify.

**Results.**
* `Decimal.shortest` gives the digits and the power of ten of their last place.
* `Decimal.positional` and `Decimal.scientific` are the two written forms.
-/

namespace SchemaGrammar

/-- A decimal `digits · 10 ^ place`. -/
structure Decimal where
  digits : Nat
  place : Int
  deriving DecidableEq, Inhabited

namespace Decimal

/-- The exponent of the highest power of ten that is at most `num / den`. -/
def decade (num den : Nat) : Int :=
  let low := Int.fdiv (((Nat.log2 num : Int) - Nat.log2 den) * 30103) 100000 - 1
  let reaches (k : Int) : Bool := den * Nat.pow 10 k.toNat ≤ num * Nat.pow 10 (-k).toNat
  if reaches (low + 2) then low + 2 else if reaches (low + 1) then low + 1 else low

/-- The candidate of a magnitude on the grid of multiples of `10 ^ place`: of the two
neighbours the one that rounds to the magnitude and is nearer, a tie going to the even one. -/
def candidate (m : Magnitude) (place : Int) : Option Nat :=
  -- In quarters of the last binary place the value is `4 · significand`.
  let scale := Nat.pow 2 (m.exponent - 2).toNat * Nat.pow 10 (-place).toNat
  let unit := Nat.pow 2 (2 - m.exponent).toNat * Nat.pow 10 place.toNat
  let value := 4 * m.significand * scale
  let narrow := m.significand = Nat.pow 2 52 ∧ m.exponent ≠ Magnitude.lowestExponent
  let low := (if narrow then 4 * m.significand - 1 else 4 * m.significand - 2) * scale
  let high := (4 * m.significand + 2) * scale
  let closed := m.significand % 2 = 0
  let rounds (d : Nat) : Bool :=
    if closed then decide (low ≤ d * unit ∧ d * unit ≤ high)
    else decide (low < d * unit ∧ d * unit < high)
  let below := value / unit
  let above := below + 1
  match rounds below, rounds above with
  | true, true =>
      let down := value - below * unit
      let up := above * unit - value
      if down < up ∨ (down = up ∧ below % 2 = 0) then some below else some above
  | true, false => some below
  | false, true => some above
  | false, false => none

/-- The first grid from `count` digits on, at most `tries` of them, that has a candidate. -/
def search (m : Magnitude) (top : Int) : (tries count : Nat) → Decimal
  | 0, _ => ⟨0, 0⟩
  | tries + 1, count =>
      let place := top - (count : Int) + 1
      match candidate m place with
      | some d => ⟨d, place⟩
      | none => search m top tries (count + 1)

/-- The decimal without the zeros at its end. -/
def stripZeros : (fuel : Nat) → Decimal → Decimal
  | 0, d => d
  | fuel + 1, d =>
      if d.digits ≠ 0 ∧ d.digits % 10 = 0 then stripZeros fuel ⟨d.digits / 10, d.place + 1⟩ else d

/-- The shortest decimal that rounds to a magnitude. -/
def shortest (m : Magnitude) : Decimal :=
  if m.isZero then ⟨0, 0⟩
  else stripZeros 18 (search m (decade m.numerator m.denominator) 17 1)

/-- The digits of the decimal, first digit first. -/
def digitChars (d : Decimal) : List Char := Nat.toDigits 10 d.digits

/-- The power of ten of the first digit. -/
def leading (d : Decimal) : Int := d.place + d.digitChars.length - 1

def zeros (n : Nat) : List Char := List.replicate n '0'

/-- Written without an exponent, with at least one digit after the point. -/
def positional (d : Decimal) : List Char :=
  let ds := d.digitChars
  if 0 ≤ d.place then ds ++ zeros d.place.toNat ++ ['.', '0']
  else if 0 ≤ d.leading then
    let whole := (d.leading + 1).toNat
    ds.take whole ++ ['.'] ++ ds.drop whole
  else ['0', '.'] ++ zeros (-d.leading - 1).toNat ++ ds

/-- Written with one digit before the point, if any follow, and a signed exponent. -/
def scientific (d : Decimal) : List Char :=
  let mantissa := match d.digitChars with
    | [] => []
    | [c] => [c]
    | c :: rest => c :: '.' :: rest
  let exponent := d.leading
  let sign := if exponent < 0 then '-' else '+'
  mantissa ++ ['e', sign] ++ Nat.toDigits 10 exponent.natAbs

end Decimal

namespace Double

/-- The text of a double, positional where `plain` says so of the power of ten of its first
digit, scientific elsewhere. -/
def text (plain : Int → Bool) (d : Double) : List Char :=
  let decimal := Decimal.shortest d.magnitude
  let body := if plain decimal.leading then decimal.positional else decimal.scientific
  if d.negative then '-' :: body else body

/-- The text of a double in JSON: positional from `10 ^ -5` up to below `10 ^ 16`. -/
def jsonText (d : Double) : List Char := d.text fun e => decide (-5 ≤ e ∧ e < 16)

/-- The text of a double without an exponent, however long. -/
def plainText (d : Double) : List Char := d.text fun _ => true

end Double

end SchemaGrammar
