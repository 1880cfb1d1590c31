import SecureElement.Crypto.Aes

/-!
The field GF(2^128) with modulus x^128 + x^7 + x^2 + x + 1, in the notation of
the polynomial hash of GCM: the coefficient of x^0 is the most significant bit
of the first byte.

An element is two words, so the arithmetic is that of words. Addition is
exclusive or.
-/

namespace SecureElement.Crypto

open Aes (Block)

/-- A field element: the coefficients of x^0 to x^63 and those of x^64 to x^127. -/
structure Field128 where
  high : UInt64
  low : UInt64
deriving DecidableEq, Repr

namespace Field128

/-- The element zero. -/
def zero : Field128 := ⟨0, 0⟩

/-- The sum of two elements. -/
def add (a b : Field128) : Field128 := ⟨a.high ^^^ b.high, a.low ^^^ b.low⟩

/-- The lower terms of the modulus, in the first word of an element. -/
def lowerTerms : UInt64 := 0xE100000000000000

/-- An element times x. The coefficient that leaves at x^127 comes back as the
lower terms of the modulus. -/
def timesX (a : Field128) : Field128 :=
  let shifted := a.high >>> 1
  { high := if a.low &&& 1 = 0 then shifted else shifted ^^^ lowerTerms
    low := a.low >>> 1 ||| a.high <<< 63 }

/-- Goes through the `count` highest bits of a word: a set bit adds the current
multiple to the sum, and each bit multiplies the multiple by x. Returns the
multiple and the sum. -/
def addMultiples : (count : Nat) → (bits : UInt64) → (multiple sum : Field128) →
    Field128 × Field128
  | 0, _, multiple, sum => (multiple, sum)
  | count + 1, bits, multiple, sum =>
    addMultiples count (bits <<< 1) multiple.timesX
      (if bits >>> 63 = 0 then sum else sum.add multiple)

/-- The product of two elements. -/
def multiply (a b : Field128) : Field128 :=
  let (multiple, sum) := addMultiples 64 b.high a zero
  (addMultiples 64 b.low multiple sum).2

/-- The element that a block is. -/
def ofBlock (block : Block) : Field128 :=
  ⟨block.c0.toUInt64 <<< 32 ||| block.c1.toUInt64, block.c2.toUInt64 <<< 32 ||| block.c3.toUInt64⟩

/-- The block that an element is. -/
def toBlock (a : Field128) : Block :=
  ⟨(a.high >>> 32).toUInt32, a.high.toUInt32, (a.low >>> 32).toUInt32, a.low.toUInt32⟩

end Field128

end SecureElement.Crypto
