import SecureElement.Crypto.Field25519
import SecureElement.Crypto.Sha2

/-!
Ed25519 signatures.

Signing is deterministic. Verification is strict: beside the equation it refuses
a scalar that is not reduced and points of small order, and it compares the
encoding of the recomputed point with the bytes of the signature. Reading a
point is lenient: a coordinate that is not reduced is reduced, and the sign of
zero is ignored.
-/

namespace SecureElement.Crypto.Ed25519

open Field25519

/-! ### The curve -/

/-- The order of the base point. -/
def order : Nat := 1 <<< 252 + 27742317777372353535851937790883648493

/-- The constant of the curve. -/
def curveConstant : Nat := mul (sub 0 121665) (inverse 121666)

/-- A square root of -1. -/
def rootOfMinusOne : Nat := pow 2 ((prime - 1) / 4)

/-- A point in extended coordinates: x = X/Z, y = Y/Z and xy = T/Z. -/
structure Point where
  x : Nat
  y : Nat
  z : Nat
  t : Nat

namespace Point

/-- The neutral point. -/
def neutral : Point := ⟨0, 1, 1, 0⟩

/-- The sum of two points. -/
def add (p q : Point) : Point :=
  let a := mul (sub p.y p.x) (sub q.y q.x)
  let b := mul (Field25519.add p.y p.x) (Field25519.add q.y q.x)
  let c := mul (mul p.t (mul 2 curveConstant)) q.t
  let d := mul (mul 2 p.z) q.z
  let e := sub b a
  let f := sub d c
  let g := Field25519.add d c
  let h := Field25519.add b a
  ⟨mul e f, mul g h, mul f g, mul e h⟩

/-- The negative of a point. -/
def negate (p : Point) : Point := ⟨sub 0 p.x, p.y, p.z, sub 0 p.t⟩

/-- The multiple of a point by a scalar below 2^256. -/
def multiply (k : Nat) (p : Point) : Point :=
  (List.range 256).foldr
    (fun i sum =>
      let doubled := sum.add sum
      if k.testBit i then doubled.add p else doubled) neutral

/-- Whether eight times the point is the neutral point. -/
def hasSmallOrder (p : Point) : Bool :=
  let q := multiply 8 p
  q.x = 0 ∧ q.y = q.z

/-- A point as 32 bytes: y, with the lowest bit of x on top. -/
def encode (p : Point) : Octets 32 :=
  let scale := inverse p.z
  toBytes (mul p.y scale + (mul p.x scale % 2) <<< 255)

/-- The square root of a quotient, if it has one. -/
def quotientRoot? (u v : Nat) : Option Nat :=
  let v3 := mul (mul v v) v
  let candidate := mul (mul u v3) (pow (mul u (mul (mul v3 v3) v)) ((prime - 5) / 8))
  let check := mul v (mul candidate candidate)
  if check = u then some candidate
  else if check = sub 0 u then some (mul candidate rootOfMinusOne)
  else none

/-- Reads a point from 32 bytes. -/
def decode? (bytes : Octets 32) : Option Point := do
  let number := Bytes.ofLittleEndian bytes.val
  let y := ofBytes bytes
  let yy := mul y y
  let root ← quotientRoot? (sub yy 1) (Field25519.add (mul curveConstant yy) 1)
  let x := if root % 2 = number >>> 255 then root else sub 0 root
  return ⟨x, y, 1, mul x y⟩

/-- The base point, of y-coordinate 4/5 and even x. -/
def base : Point :=
  (decode? (toBytes (mul 4 (inverse 5)))).getD neutral

end Point

/-! ### Keys and signatures -/

/-- The number in a hash, modulo the order. -/
def hashScalar (message : Bytes) : Nat :=
  Bytes.ofLittleEndian (sha512 message).val % order

/-- The secret scalar of a private key, in the shape of an X25519 scalar. -/
def secretScalar (key : Octets 32) : Nat :=
  Bytes.ofLittleEndian ((sha512 key.val).val.take 32) % (1 <<< 254) / 8 * 8 + 1 <<< 254

/-- The public key of a private key. -/
def publicKey (key : Octets 32) : Octets 32 :=
  (Point.base.multiply (secretScalar key)).encode

/-- The signature of a message: a point and a scalar. -/
def sign (key : Octets 32) (message : Bytes) : Octets 64 :=
  let a := secretScalar key
  let r := hashScalar ((sha512 key.val).val.drop 32 ++ message)
  let point := (Point.base.multiply r).encode
  let k := hashScalar (point.val ++ (publicKey key).val ++ message)
  point.append (toBytes ((r + k * a) % order))

/-- Why a signature is refused. -/
inductive Refusal where
  | undecodableKey
  | unreducedScalar
  | equationFails
deriving DecidableEq

/-- Whether the point `R` of a signature is the one that its scalar and the
challenge lead back to. -/
def equationHolds (key : Octets 32) (keyPoint : Point) (message : Bytes) (commitment : Octets 32)
    (scalar : Nat) : Bool :=
  match Point.decode? commitment with
  | none => false
  | some point =>
    let k := hashScalar (commitment.val ++ key.val ++ message)
    let back := (Point.base.multiply scalar).add (keyPoint.negate.multiply k)
    !point.hasSmallOrder && !keyPoint.hasSmallOrder && back.encode = commitment

/-- Verifies a signature. -/
def verify (key : Octets 32) (message : Bytes) (signature : Octets 64) : Except Refusal Unit :=
  let commitment := Octets.fit 32 signature.val
  let scalar := Bytes.ofLittleEndian (signature.val.drop 32)
  match Point.decode? key with
  | none => .error .undecodableKey
  | some keyPoint =>
    if order ≤ scalar then .error .unreducedScalar
    else if equationHolds key keyPoint message commitment scalar then .ok ()
    else .error .equationFails

end SecureElement.Crypto.Ed25519
