import SecureElement.Bytes

/-!
Arithmetic modulo the prime 2^255 - 19, on representatives below it.
-/

namespace SecureElement.Crypto.Field25519

/-- The modulus. -/
def prime : Nat := 1 <<< 255 - 19

/-- The sum of two elements. -/
def add (a b : Nat) : Nat := (a + b) % prime

/-- The difference of two elements. -/
def sub (a b : Nat) : Nat := (a + (prime - b)) % prime

/-- The product of two elements. -/
def mul (a b : Nat) : Nat := a * b % prime

/-- The power of an element, for exponents below 2^256: squared for each bit
from the highest down, and multiplied where the bit is set. -/
def pow (a exponent : Nat) : Nat :=
  (List.range 256).foldr
    (fun i power =>
      let squared := mul power power
      if exponent.testBit i then mul squared a else squared) 1

/-- The inverse of an element, with zero for zero. -/
def inverse (a : Nat) : Nat := pow a (prime - 2)

/-- Reads an element from 32 bytes: the top bit is ignored, and a number that is
not below the modulus is reduced. -/
def ofBytes (bytes : Octets 32) : Nat :=
  Bytes.ofLittleEndian bytes.val % (1 <<< 255) % prime

/-- The 32 bytes of an element. -/
def toBytes (a : Nat) : Octets 32 :=
  ⟨Bytes.littleEndian 32 a, Bytes.length_littleEndian 32 a⟩

end SecureElement.Crypto.Field25519
