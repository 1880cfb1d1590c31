import SecureElement.Bytes

/-!
The hash functions SHA-256 and SHA-512.

Both are one construction over words of different width, so the construction is
written once over a `Variant`. The round constants are the leading fractional
bits of cube roots of primes and the initial registers those of square roots;
they are computed here from the primes, and the 32-bit ones are the upper
halves of the 64-bit ones.
-/

namespace SecureElement.Crypto

/-! ### Constants -/

/-- The greatest number with at most `bits` bits whose `degree`-th power does
not exceed `value`. -/
def rootFloor (degree bits value : Nat) : Nat :=
  (List.range bits).foldr
    (fun i root => if Nat.pow (root + 1 <<< i) degree ≤ value then root + 1 <<< i else root) 0

/-- The first eighty primes. -/
def firstPrimes : List Nat :=
  (List.range 410).filter fun n =>
    2 ≤ n ∧ (List.range n).all fun k => k < 2 ∨ n % k ≠ 0

/-- The first 64 fractional bits of the cube root of `n`. -/
def cubeRootBits (n : Nat) : Nat := rootFloor 3 70 (n <<< 192) % UInt64.size

/-- The first 64 fractional bits of the square root of `n`. -/
def squareRootBits (n : Nat) : Nat := rootFloor 2 70 (n <<< 128) % UInt64.size

/-! ### The construction -/

/-- What tells the functions of the family apart: the word, the length of a
block, the number of rounds and the mixing functions. -/
structure Variant (Word : Type) where
  wordLength : Nat
  constants : List Word
  initial : List Word
  ofNat : Nat → Word
  toNat : Word → Nat
  add : Word → Word → Word
  choose : Word → Word → Word → Word
  majority : Word → Word → Word → Word
  sumLow : Word → Word
  sumHigh : Word → Word
  mixEarly : Word → Word
  mixLate : Word → Word

/-- The eight working registers. -/
structure Registers (Word : Type) where
  a : Word
  b : Word
  c : Word
  d : Word
  e : Word
  f : Word
  g : Word
  h : Word

namespace Variant

variable {Word : Type} (v : Variant Word)

/-- The length of a block: sixteen words. -/
def blockLength : Nat := 16 * v.wordLength

/-- The message, a set bit, zeros up to the end of a block, and the length of
the message in bits in the last two words. -/
def pad (message : Bytes) : Bytes :=
  let block := v.blockLength
  let counted := message.length + 1 + 2 * v.wordLength
  message ++ 0x80 :: List.replicate ((block - counted % block) % block) 0 ++
    Bytes.bigEndian (2 * v.wordLength) (8 * message.length)

/-- Splits a byte string into `count` pieces of `length` bytes. -/
def pieces (length : Nat) : (count : Nat) → Bytes → List Bytes
  | 0, _ => []
  | count + 1, bytes => bytes.take length :: pieces length count (bytes.drop length)

/-- The words of a block. -/
def words (block : Bytes) : List Word :=
  (pieces v.wordLength 16 block).map fun bytes => v.ofNat (Bytes.ofBigEndian bytes)

/-- One round with the constant `k` and the word `w` of the schedule. -/
def step (r : Registers Word) (k w : Word) : Registers Word :=
  let t := v.add (v.add (v.add r.h (v.sumHigh r.e)) (v.add (v.choose r.e r.f r.g) k)) w
  let u := v.add (v.sumLow r.a) (v.majority r.a r.b r.c)
  { a := v.add t u, b := r.a, c := r.b, d := r.c
    e := v.add r.d t, f := r.e, g := r.f, h := r.g }

/-- The sixteen words of the schedule that follow after one round. -/
def slide (window : List Word) : List Word :=
  match window with
  | w :: rest =>
    let early := v.mixEarly (rest.getD 0 w)
    let late := v.mixLate (rest.getD 13 w)
    rest ++ [v.add (v.add w early) (v.add (rest.getD 8 w) late)]
  | [] => []

/-- Runs a round for every constant, the schedule sliding along. -/
def rounds : List Word → List Word → Registers Word → Registers Word
  | k :: ks, w :: window, r => rounds ks (v.slide (w :: window)) (v.step r k w)
  | _, _, r => r

/-- The registers after a block. -/
def compress (state : List Word) (block : Bytes) : List Word :=
  match state with
  | [a, b, c, d, e, f, g, h] =>
    let r := rounds v v.constants (v.words block) ⟨a, b, c, d, e, f, g, h⟩
    [v.add a r.a, v.add b r.b, v.add c r.c, v.add d r.d,
      v.add e r.e, v.add f r.f, v.add g r.g, v.add h r.h]
  | other => other

/-- The hash of a message. -/
def digest (message : Bytes) : Bytes :=
  let padded := v.pad message
  let blocks := pieces v.blockLength (padded.length / v.blockLength) padded
  (blocks.foldl v.compress v.initial).flatMap fun word =>
    Bytes.bigEndian v.wordLength (v.toNat word)

end Variant

/-! ### The two functions -/

/-- Rotation to the right. -/
def rotateRight32 (count word : UInt32) : UInt32 :=
  word >>> count ||| word <<< (32 - count)

/-- Rotation to the right. -/
def rotateRight64 (count word : UInt64) : UInt64 :=
  word >>> count ||| word <<< (64 - count)

/-- SHA-256: words of 32 bits, 64 rounds. -/
def sha256Variant : Variant UInt32 where
  wordLength := 4
  constants := (firstPrimes.take 64).map fun n => UInt32.ofNat (cubeRootBits n >>> 32)
  initial := (firstPrimes.take 8).map fun n => UInt32.ofNat (squareRootBits n >>> 32)
  ofNat := UInt32.ofNat
  toNat := UInt32.toNat
  add := (· + ·)
  choose x y z := x &&& y ^^^ ~~~x &&& z
  majority x y z := x &&& y ^^^ x &&& z ^^^ y &&& z
  sumLow x := rotateRight32 2 x ^^^ rotateRight32 13 x ^^^ rotateRight32 22 x
  sumHigh x := rotateRight32 6 x ^^^ rotateRight32 11 x ^^^ rotateRight32 25 x
  mixEarly x := rotateRight32 7 x ^^^ rotateRight32 18 x ^^^ x >>> 3
  mixLate x := rotateRight32 17 x ^^^ rotateRight32 19 x ^^^ x >>> 10

/-- SHA-512: words of 64 bits, 80 rounds. -/
def sha512Variant : Variant UInt64 where
  wordLength := 8
  constants := firstPrimes.map fun n => UInt64.ofNat (cubeRootBits n)
  initial := (firstPrimes.take 8).map fun n => UInt64.ofNat (squareRootBits n)
  ofNat := UInt64.ofNat
  toNat := UInt64.toNat
  add := (· + ·)
  choose x y z := x &&& y ^^^ ~~~x &&& z
  majority x y z := x &&& y ^^^ x &&& z ^^^ y &&& z
  sumLow x := rotateRight64 28 x ^^^ rotateRight64 34 x ^^^ rotateRight64 39 x
  sumHigh x := rotateRight64 14 x ^^^ rotateRight64 18 x ^^^ rotateRight64 41 x
  mixEarly x := rotateRight64 1 x ^^^ rotateRight64 8 x ^^^ x >>> 7
  mixLate x := rotateRight64 19 x ^^^ rotateRight64 61 x ^^^ x >>> 6

/-- The 32-byte hash of a message. -/
def sha256 (message : Bytes) : Octets 32 :=
  Octets.fit 32 (sha256Variant.digest message)

/-- The 64-byte hash of a message. -/
def sha512 (message : Bytes) : Octets 64 :=
  Octets.fit 64 (sha512Variant.digest message)

end SecureElement.Crypto
