import SecureElement.Bytes

/-!
The block cipher AES with a 256-bit key, in the forward direction, which is all
that counter modes need.

A block is four columns of 32 bits. The substitution of a byte and the mixing of
its column are one table look-up (`roundTable`), and the tables are computed
from the field GF(2^8) with modulus x^8 + x^4 + x^3 + x + 1.
-/

namespace SecureElement.Crypto.Aes

/-! ### The field and the substitution -/

/-- A field element times x. -/
def double (a : UInt8) : UInt8 :=
  if a &&& 0x80 = 0 then a <<< 1 else a <<< 1 ^^^ 0x1B

/-- The product of two field elements. -/
def multiply (a b : UInt8) : UInt8 :=
  (List.range 8).foldr
    (fun i product =>
      let shifted := double product
      if b.toNat.testBit i then shifted ^^^ a else shifted) 0

/-- The inverse of a field element, with zero for zero: the power 254. -/
def inverse (a : UInt8) : UInt8 :=
  (List.range 254).foldl (fun power _ => multiply power a) 1

/-- Rotation to the left. -/
def rotateLeft8 (a : UInt8) (count : UInt8) : UInt8 :=
  a <<< count ||| a >>> (8 - count)

/-- The substitution of a byte: an affine image of its inverse. -/
def substitute (a : UInt8) : UInt8 :=
  let b := inverse a
  b ^^^ rotateLeft8 b 1 ^^^ rotateLeft8 b 2 ^^^ rotateLeft8 b 3 ^^^ rotateLeft8 b 4 ^^^ 0x63

/-- Four bytes as a word, the first the most significant. -/
def column (a b c d : UInt8) : UInt32 :=
  a.toUInt32 <<< 24 ||| b.toUInt32 <<< 16 ||| c.toUInt32 <<< 8 ||| d.toUInt32

/-- The values of the substitution. -/
def substitution : Array UInt8 :=
  (Array.range 256).map fun i => substitute (UInt8.ofNat i)

/-- For each byte, the column that it contributes to a round from the first row
of the block. -/
def roundTable : Array UInt32 :=
  substitution.map fun s => column (double s) s s (double s ^^^ s)

/-- Rotation to the right. -/
def rotateRight (word count : UInt32) : UInt32 :=
  word >>> count ||| word <<< (32 - count)

/-- The byte `index` of a word, counted from the most significant. -/
def byteOf (word : UInt32) (index : Nat) : UInt8 :=
  (word >>> UInt32.ofNat (24 - 8 * index)).toUInt8

/-- The substitution by table. -/
def lookUp (byte : UInt8) : UInt8 := substitution.getD byte.toNat 0

/-- The substitution of each byte of a word. -/
def substituteWord (word : UInt32) : UInt32 :=
  column (lookUp (byteOf word 0)) (lookUp (byteOf word 1)) (lookUp (byteOf word 2))
    (lookUp (byteOf word 3))

/-! ### Blocks and rounds -/

/-- A block of four columns. -/
structure Block where
  c0 : UInt32
  c1 : UInt32
  c2 : UInt32
  c3 : UInt32
deriving DecidableEq

namespace Block

/-- Exclusive or, column by column. -/
def xor (x y : Block) : Block :=
  ⟨x.c0 ^^^ y.c0, x.c1 ^^^ y.c1, x.c2 ^^^ y.c2, x.c3 ^^^ y.c3⟩

/-- The word in the first four bytes. -/
def firstWord (bytes : Bytes) : UInt32 :=
  column (bytes.getD 0 0) (bytes.getD 1 0) (bytes.getD 2 0) (bytes.getD 3 0)

/-- The block in the first sixteen bytes, zeros standing in for missing ones. -/
def ofBytes (bytes : Bytes) : Block :=
  ⟨firstWord bytes, firstWord (bytes.drop 4), firstWord (bytes.drop 8),
    firstWord (bytes.drop 12)⟩

/-- The bytes of a word, the most significant first. -/
def wordBytes (word : UInt32) : Bytes :=
  [byteOf word 0, byteOf word 1, byteOf word 2, byteOf word 3]

/-- The sixteen bytes of a block. -/
def toBytes (block : Block) : Bytes :=
  wordBytes block.c0 ++ wordBytes block.c1 ++ wordBytes block.c2 ++ wordBytes block.c3

@[simp] theorem length_toBytes (block : Block) : block.toBytes.length = 16 := rfl

end Block

/-- The column that the bytes in the four rows of `a`, `b`, `c` and `d` make in
an inner round. -/
def roundColumn (a b c d : UInt32) : UInt32 :=
  roundTable.getD (byteOf a 0).toNat 0 ^^^
    rotateRight (roundTable.getD (byteOf b 1).toNat 0) 8 ^^^
    rotateRight (roundTable.getD (byteOf c 2).toNat 0) 16 ^^^
    rotateRight (roundTable.getD (byteOf d 3).toNat 0) 24

/-- The column of the last round, which does not mix. -/
def lastColumn (a b c d : UInt32) : UInt32 :=
  column (lookUp (byteOf a 0)) (lookUp (byteOf b 1)) (lookUp (byteOf c 2)) (lookUp (byteOf d 3))

/-- A round: each row moves left by its index before its bytes are combined. -/
def applyRound (combine : UInt32 → UInt32 → UInt32 → UInt32 → UInt32) (s key : Block) : Block :=
  Block.xor key
    ⟨combine s.c0 s.c1 s.c2 s.c3, combine s.c1 s.c2 s.c3 s.c0,
      combine s.c2 s.c3 s.c0 s.c1, combine s.c3 s.c0 s.c1 s.c2⟩

/-! ### Keys -/

/-- The two round keys that follow two round keys, with round constant `rcon`. -/
def nextKeys (x y : Block) (rcon : UInt8) : Block × Block :=
  let a0 := x.c0 ^^^ substituteWord (rotateRight y.c3 24) ^^^ column rcon 0 0 0
  let a1 := x.c1 ^^^ a0
  let a2 := x.c2 ^^^ a1
  let a3 := x.c3 ^^^ a2
  let b0 := y.c0 ^^^ substituteWord a3
  let b1 := y.c1 ^^^ b0
  let b2 := y.c2 ^^^ b1
  (⟨a0, a1, a2, a3⟩, ⟨b0, b1, b2, y.c3 ^^^ b2⟩)

/-- `count` pairs of round keys from the pair `x`, `y` on. -/
def expand : (count : Nat) → Block → Block → UInt8 → List Block
  | 0, _, _, _ => []
  | count + 1, x, y, rcon =>
    let next := nextKeys x y rcon
    x :: y :: expand count next.1 next.2 (double rcon)

/-- The round keys: one to begin with, thirteen for the inner rounds and one for
the last. -/
structure Schedule where
  first : Block
  inner : List Block
  last : Block

/-- The round keys of a 256-bit key. -/
def Schedule.ofKey (key : Octets 32) : Schedule :=
  let keys := expand 8 (Block.ofBytes key.val) (Block.ofBytes (key.val.drop 16)) 1
  { first := keys.getD 0 ⟨0, 0, 0, 0⟩
    inner := (keys.drop 1).take 13
    last := keys.getD 14 ⟨0, 0, 0, 0⟩ }

/-- Enciphers a block. -/
def encipher (keys : Schedule) (block : Block) : Block :=
  applyRound lastColumn (keys.inner.foldl (applyRound roundColumn) (block.xor keys.first)) keys.last

end SecureElement.Crypto.Aes
