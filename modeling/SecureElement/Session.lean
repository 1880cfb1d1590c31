import SecureElement.Error
import SecureElement.Primitives

/-!
The encrypted exchange of an established session.

A packet travels as `[size][ciphertext][tag]` with the size in two bytes. Nonces
are not transmitted: both parties count the packets of each direction, so a
frame that is replayed, reordered or left out does not open. A call that fails
returns no session, so its caller keeps the one it had.
-/

namespace SecureElement

/-- The keys of the two directions. -/
structure SessionKeys where
  /-- Protects what the host sends. -/
  command : Key
  /-- Protects what the chip sends. -/
  result : Key
deriving DecidableEq

namespace Session

/-- The length of the size field. -/
def sizeLength : Nat := 2

/-- The length of the tag. -/
def tagLength : Nat := 16

/-- The bytes of a frame beside its packet. -/
def overhead : Nat := sizeLength + tagLength

/-- The most data of a command: a signing request. -/
def maxCommandData : Nat := 2 + 13 + 4096

/-- The longest packet: a command byte and its data. -/
def maxPacket : Nat := 1 + maxCommandData

/-- The longest frame. -/
def maxFrame : Nat := maxPacket + overhead

/-- The greatest size that the size field can give. -/
def maxSize : Nat := 65535

/-- The nonce of a counter value. -/
def nonce (counter : UInt32) : Nonce :=
  ⟨Bytes.littleEndian 4 counter.toNat ++ List.replicate 8 0, by simp⟩

end Session

/-! ### Encryption with the session's errors -/

namespace Aead

variable [Primitives]

/-- Encrypts a text. -/
def encrypt (suite : CipherSuite) (key : Key) (nonce : Nonce) (additional plain : Bytes) :
    Except SessionError (Bytes × Tag) :=
  match Primitives.encrypt? suite key nonce additional plain with
  | some encrypted => .ok encrypted
  | none => .error .aead

/-- Decrypts a text; a tag of the wrong length is a malformed frame. -/
def decrypt (suite : CipherSuite) (key : Key) (nonce : Nonce) (additional cipher tag : Bytes) :
    Except SessionError Bytes :=
  match Octets.ofBytes? Session.tagLength tag with
  | none => .error .malformedFrame
  | some tag =>
    match Primitives.decrypt? suite key nonce additional cipher tag with
    | some plain => .ok plain
    | none => .error .authentication

end Aead

/-! ### Sessions -/

/-- One direction of a session: its key and how many packets went that way. -/
structure Direction where
  key : Key
  counter : UInt32
deriving DecidableEq

namespace Direction

/-- A direction without traffic. -/
def start (key : Key) : Direction := ⟨key, 0⟩

/-- The nonce of the next packet; the last counter value is never used. -/
def nextNonce (direction : Direction) : Except SessionError Nonce :=
  if direction.counter = 0xFFFFFFFF then .error .counterExhausted
  else .ok (Session.nonce direction.counter)

/-- The direction after one more packet. -/
def advance (direction : Direction) : Direction :=
  { direction with counter := direction.counter + 1 }

end Direction

/-- One party's side of a session. -/
structure Session where
  suite : CipherSuite
  sending : Direction
  receiving : Direction
deriving DecidableEq

namespace Session

/-- The host's side of a new session. -/
def forHost (suite : CipherSuite) (keys : SessionKeys) : Session :=
  ⟨suite, .start keys.command, .start keys.result⟩

/-- The chip's side of a new session. -/
def forChip (suite : CipherSuite) (keys : SessionKeys) : Session :=
  ⟨suite, .start keys.result, .start keys.command⟩

variable [Primitives]

/-- Turns the packet of `length` bytes behind the size field of a buffer into a
frame; returns the frame's length, the buffer and the session. -/
def protect (session : Session) (buffer : Bytes) (length : Nat) :
    Except SessionError (Nat × Bytes × Session) :=
  if maxSize < length ∨ buffer.length < length + overhead then .error .malformedFrame
  else do
    let nonce ← session.sending.nextNonce
    let (cipher, tag) ←
      Aead.encrypt session.suite session.sending.key nonce [] (buffer.slice sizeLength length)
    let frame := Bytes.littleEndian sizeLength length ++ cipher ++ tag.val
    return (length + overhead, buffer.overlay 0 frame,
      { session with sending := session.sending.advance })

/-- Verifies and decrypts a frame; returns the packet and the session. -/
def unprotect (session : Session) (frame : Bytes) : Except SessionError (Bytes × Session) :=
  if frame.length < overhead then .error .malformedFrame
  else
    let size := Bytes.ofLittleEndian (frame.take sizeLength)
    if frame.length ≠ size + overhead then .error .malformedFrame
    else do
      let nonce ← session.receiving.nextNonce
      let packet ← Aead.decrypt session.suite session.receiving.key nonce []
        (frame.slice sizeLength size) (frame.drop (sizeLength + size))
      return (packet, { session with receiving := session.receiving.advance })

end Session

end SecureElement
