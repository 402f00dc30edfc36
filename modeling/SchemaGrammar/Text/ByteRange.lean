/-!
# Ranges of characters as ranges of bytes

A range of code points is cut into parts such that the encodings of a part are all sequences
that take one byte out of each of some ranges.  A part has one length of encoding, and its
code points run through whole blocks of 64, 4096 or 262144 but for their last bytes.

**Results.**
* `Utf8.cut?_bounds`: a cut leaves something on both sides.
* `Utf8.sequences` lists the parts in order.
-/

namespace SchemaGrammar

/-- A range of bytes. -/
structure ByteRange where
  first : Nat
  last : Nat
  deriving DecidableEq, Inhabited

namespace Utf8

/-- The bytes of a code point. -/
def encode (n : Nat) : List Nat :=
  if n < 0x80 then [n]
  else if n < 0x800 then [0xc0 + n / 64, 0x80 + n % 64]
  else if n < 0x10000 then [0xe0 + n / 4096, 0x80 + n / 64 % 64, 0x80 + n % 64]
  else [0xf0 + n / 262144, 0x80 + n / 4096 % 64, 0x80 + n / 64 % 64, 0x80 + n % 64]

/-- Where a range may be cut so that neither side breaks a block on its own account: behind the
block in which it begins, and before the block in which it ends. -/
def blockCuts (first last block : Nat) : List Nat :=
  (if first % block = 0 then [] else [first / block * block + (block - 1)]) ++
    (if last % block = block - 1 then [] else [last / block * block - 1])

/-- The places for cuts, the most urgent one first. -/
def cuts (first last : Nat) : List Nat :=
  [0x7f, 0x7ff, 0xffff] ++
    if last < 0x80 then [] else [64, 4096, 262144].flatMap (blockCuts first last)

/-- The last code point before the cut, if a range has to be cut. -/
def cut? (first last : Nat) : Option Nat :=
  (cuts first last).find? fun n => first ≤ n && n < last

theorem cut?_bounds
    {first last n : Nat}
    (h : cut? first last = some n) :
    first ≤ n ∧ n < last := by
  simpa using List.find?_some h

/-- The parts of a range, each as the ranges of its bytes. -/
def sequences (first last : Nat) : List (List ByteRange) :=
  match h : cut? first last with
  | some n =>
      have := cut?_bounds h
      sequences first n ++ sequences (n + 1) last
  | none => [(encode first).zipWith ByteRange.mk (encode last)]
termination_by last - first

end Utf8

end SchemaGrammar
