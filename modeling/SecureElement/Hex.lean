import SecureElement.Bytes

/-!
Hexadecimal text.

`encode` writes byte strings in lower case and `decode?` reads either case.
`word` is the fixed-width upper-case form, with its mark in front, in which
error texts give codes.
-/

namespace SecureElement.Hex

/-- The value of a digit of either case. -/
def digit? (c : Char) : Option UInt8 :=
  if '0' ≤ c ∧ c ≤ '9' then some (UInt8.ofNat (c.toNat - 48))
  else if 'a' ≤ c ∧ c ≤ 'f' then some (UInt8.ofNat (c.toNat - 87))
  else if 'A' ≤ c ∧ c ≤ 'F' then some (UInt8.ofNat (c.toNat - 55))
  else none

/-- The lower-case digit of a value below sixteen. -/
def lower (value : Nat) : Char := Nat.digitChar value

/-- The upper-case digit of a value below sixteen. -/
def upper (value : Nat) : Char := (Nat.digitChar value).toUpper

/-- Two lower-case digits for each byte. -/
def encode (bytes : Bytes) : String :=
  String.ofList (bytes.flatMap fun byte =>
    [lower (byte.toNat / 16), lower (byte.toNat % 16)])

/-- Reads pairs of digits; anything else, a single digit at the end included,
is refused. -/
def decodeDigits? : List Char → Option Bytes
  | [] => some []
  | [_] => none
  | high :: low :: rest => do
    let high ← digit? high
    let low ← digit? low
    let bytes ← decodeDigits? rest
    return (high * 16 + low) :: bytes

/-- Reads a byte string from pairs of digits. -/
def decode? (text : String) : Option Bytes :=
  decodeDigits? text.toList

/-- A number of at most `width` hexadecimal digits, marked as such, in `width`
upper-case digits. -/
def word (width value : Nat) : String :=
  String.ofList ('0' :: 'x' ::
    ((List.range width).map fun i => upper ((value >>> (4 * (width - 1 - i))) % 16)))

end SecureElement.Hex
