/-!
# Double-precision numbers, exactly

A finite double is a sign and a magnitude `significand · 2 ^ exponent` with a significand of
at most 53 bits and an exponent of at least -1074.  Products, quotients and conversions are
computed on exact ratios of natural numbers and rounded once, to the nearest double, a tie
going to the even significand.

**Results.**
* `Magnitude.ofRatio_zero`: a zero numerator gives the zero magnitude.
-/

namespace SchemaGrammar

/-- A finite, non-negative double: `significand · 2 ^ exponent`. -/
structure Magnitude where
  significand : Nat
  exponent : Int
  deriving DecidableEq, Inhabited

/-- A finite double: a sign and a magnitude.  Zero has both signs. -/
structure Double where
  negative : Bool
  magnitude : Magnitude
  deriving DecidableEq, Inhabited

namespace Magnitude

/-- The smallest exponent of a double. -/
def lowestExponent : Int := -1074

/-- The largest exponent of a double. -/
def highestExponent : Int := 971

def zero : Magnitude := ⟨0, lowestExponent⟩

def isZero (m : Magnitude) : Bool := m.significand == 0

/-- The numerator of the exact value over `denominator`. -/
def numerator (m : Magnitude) : Nat := m.significand * Nat.pow 2 m.exponent.toNat

/-- The denominator of the exact value: a power of two. -/
def denominator (m : Magnitude) : Nat := Nat.pow 2 (-m.exponent).toNat

/-- The quotient rounded to the nearest natural number, a tie to the even one. -/
def roundedQuotient (num den : Nat) : Nat :=
  let q := num / den
  let twice := 2 * (num % den)
  if twice < den then q
  else if den < twice then q + 1
  else if q % 2 = 0 then q else q + 1

/-- The exponent of the highest power of two that is at most `num / den`. -/
def binade (num den : Nat) : Int :=
  let guess : Int := (Nat.log2 num : Int) - Nat.log2 den
  if den * Nat.pow 2 guess.toNat ≤ num * Nat.pow 2 (-guess).toNat then guess else guess - 1

/-- The double nearest to `num / den`, or nothing if that is beyond the largest one. -/
def ofRatio (num den : Nat) : Option Magnitude :=
  if num = 0 then some zero
  else
    let e := max (binade num den - 52) lowestExponent
    let q := roundedQuotient (num * Nat.pow 2 (-e).toNat) (den * Nat.pow 2 e.toNat)
    let m : Magnitude := if q = Nat.pow 2 53 then ⟨Nat.pow 2 52, e + 1⟩ else ⟨q, e⟩
    if highestExponent < m.exponent then none else some m

@[simp] theorem ofRatio_zero (den : Nat) : ofRatio 0 den = some zero := by
  simp [ofRatio]

def ofNat (n : Nat) : Option Magnitude := ofRatio n 1

/-- The rounded product. -/
def mul (a b : Magnitude) : Option Magnitude :=
  ofRatio (a.numerator * b.numerator) (a.denominator * b.denominator)

/-- The rounded quotient. -/
def div (a b : Magnitude) : Option Magnitude :=
  ofRatio (a.numerator * b.denominator) (a.denominator * b.numerator)

/-- The double nearest to a power of ten; all powers up to 308 have one. -/
def powTen (k : Nat) : Magnitude := (ofNat (Nat.pow 10 k)).getD zero

end Magnitude

namespace Double

def ofMagnitude (negative : Bool) (m : Magnitude) : Double := ⟨negative, m⟩

/-- Whether two doubles are the same number: the sign of zero does not count. -/
def sameValue (a b : Double) : Bool :=
  a.magnitude == b.magnitude && (a.negative == b.negative || a.magnitude.isZero)

end Double

end SchemaGrammar
