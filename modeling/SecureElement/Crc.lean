import SecureElement.Bytes

/-!
The checksum of frames: a 16-bit cyclic redundancy check.

The polynomial is x^16 + x^15 + x^2 + 1, the register starts at zero, the bits
of a byte enter from the most significant on, and the two bytes of the checksum
follow the content with the most significant first.
-/

namespace SecureElement.Crc

/-- The polynomial without its leading term. -/
def polynomial : UInt16 := 0x8005

/-- Shifts the register by one bit and reduces it. -/
def shift (register : UInt16) : UInt16 :=
  if register &&& 0x8000 = 0 then register <<< 1 else register <<< 1 ^^^ polynomial

/-- Shifts the register by `count` bits. -/
def shifts : (count : Nat) → UInt16 → UInt16
  | 0, register => register
  | count + 1, register => shifts count (shift register)

/-- Takes a byte into the register. -/
def absorb (register : UInt16) (byte : UInt8) : UInt16 :=
  shifts 8 (register ^^^ byte.toUInt16 <<< 8)

/-- The checksum of a byte string. -/
def checksum (bytes : Bytes) : UInt16 :=
  bytes.foldl absorb 0

/-- A checksum as it is sent. -/
def encode (sum : UInt16) : Bytes :=
  Bytes.bigEndian 2 sum.toNat

/-- A checksum as it is received. -/
def decode (bytes : Bytes) : UInt16 :=
  UInt16.ofNat (Bytes.ofBigEndian bytes)

/-- Writes the checksum of the first `length` bytes behind them. -/
def append (buffer : Bytes) (length : Nat) : Bytes :=
  buffer.overlay length (encode (checksum (buffer.take length)))

/-- Checks that the first `length` bytes are followed by their checksum; if not,
returns the computed and the received one. -/
def check (buffer : Bytes) (length : Nat) : Except (UInt16 × UInt16) Unit :=
  let expected := checksum (buffer.take length)
  let received := decode (buffer.slice length 2)
  if expected = received then .ok () else .error (expected, received)

@[simp] theorem length_encode (sum : UInt16) : (encode sum).length = 2 := by
  simp [encode]

/-- The check value of the algorithm. -/
theorem checksum_digits : checksum (Bytes.ofText "123456789") = 0xFEE8 := by decide +kernel

end SecureElement.Crc
