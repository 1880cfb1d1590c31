import SecureElement.Crypto.Field25519

/-!
X25519: Diffie-Hellman on the Montgomery form of the curve, by u-coordinate.

Any 32 bytes are a private key (its bits are set to a fixed shape) and any 32
bytes are a public key; a shared secret of all zeros is not refused.
-/

namespace SecureElement.Crypto.X25519

open Field25519

/-- The scalar of a private key: the three lowest bits and the top bit are
cleared and the bit below the top is set. -/
def scalar (key : Octets 32) : Nat :=
  Bytes.ofLittleEndian key.val % (1 <<< 254) / 8 * 8 + 1 <<< 254

/-- Two points with known difference, by their projective u-coordinates. -/
structure Ladder where
  x2 : Nat
  z2 : Nat
  x3 : Nat
  z3 : Nat

/-- Doubles the first point and puts the sum of both in place of the second; `u`
is their difference. -/
def Ladder.step (u : Nat) (l : Ladder) : Ladder :=
  let a := add l.x2 l.z2
  let b := sub l.x2 l.z2
  let aa := mul a a
  let bb := mul b b
  let e := sub aa bb
  let da := mul (sub l.x3 l.z3) a
  let cb := mul (add l.x3 l.z3) b
  let s := add da cb
  let d := sub da cb
  { x2 := mul aa bb
    z2 := mul e (add aa (mul 121665 e))
    x3 := mul s s
    z3 := mul u (mul d d) }

/-- The two points exchanged. -/
def Ladder.swap (l : Ladder) : Ladder := ⟨l.x3, l.z3, l.x2, l.z2⟩

/-- The u-coordinate of a multiple of the point with u-coordinate `u`. -/
def multiply (k u : Nat) : Nat :=
  let l := (List.range 255).foldr
    (fun i l => if k.testBit i then (l.swap.step u).swap else l.step u)
    (⟨1, 0, u, 1⟩ : Ladder)
  mul l.x2 (inverse l.z2)

/-- The public key of a private key. -/
def publicKey (key : Octets 32) : Octets 32 :=
  toBytes (multiply (scalar key) 9)

/-- The secret shared with the owner of a public key. -/
def agree (key peer : Octets 32) : Octets 32 :=
  toBytes (multiply (scalar key) (ofBytes peer))

end SecureElement.Crypto.X25519
