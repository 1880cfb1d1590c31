import SecureElement.Handshake.KeySchedule
import SecureElement.PairingSlot

/-!
The handshake that establishes a session.

The host knows the chip's static public key and the chip knows the host's, in a
pairing slot. The host sends its ephemeral public key and the slot; the chip
answers with its ephemeral public key and a tag over the transcript. Only parties
that hold both private keys derive the same keys, so a tag that verifies
authenticates both.
-/

namespace SecureElement

variable [Primitives]

/-! ### The host -/

/-- What the host brings to a handshake. -/
structure Initiator where
  suite : CipherSuite
  ephemeral : Key
  hostPrivate : Key
  hostPublic : Key
  chipPublic : Key
  slot : PairingSlot

namespace Initiator

/-- The host's ephemeral public key. -/
def ephemeralPublic (host : Initiator) : Key :=
  Primitives.publicKey host.ephemeral

/-- The request. -/
def request (host : Initiator) : Bytes :=
  host.ephemeralPublic.val ++ [host.slot.byte]

/-- The transcript as the host sees it, given the chip's ephemeral public key. -/
def transcript (host : Initiator) (chipEphemeral : Key) : Transcript where
  hostStatic := host.hostPublic
  chipStatic := host.chipPublic
  hostEphemeral := host.ephemeralPublic
  slot := host.slot.byte
  chipEphemeral := chipEphemeral

/-- The shared secrets, given the chip's ephemeral public key. -/
def sharedSecrets (host : Initiator) (chipEphemeral : Key) : SharedSecrets where
  ephemeral := Primitives.agree host.ephemeral chipEphemeral
  hostStatic := Primitives.agree host.hostPrivate chipEphemeral
  chipStatic := Primitives.agree host.ephemeral host.chipPublic

/-- Verifies a response and returns the session keys. -/
def finish (host : Initiator) (response : Bytes) : Except HandshakeError SessionKeys :=
  if response.length ≠ Handshake.responseLength then .error .malformedMessage
  else do
    let chipEphemeral := Octets.fit 32 response
    let transcript := (host.transcript chipEphemeral).hash host.suite
    let (authentication, keys) := (host.sharedSecrets chipEphemeral).keys host.suite
    Handshake.verifyTag host.suite authentication transcript (response.drop 32)
    return keys

end Initiator

/-! ### The chip -/

/-- What the chip brings to a handshake. -/
structure Responder where
  suite : CipherSuite
  static : Key
  ephemeral : Key

namespace Responder

/-- The transcript as the chip sees it. -/
def transcript (chip : Responder) (hostStatic hostEphemeral : Key) (slot : PairingSlot) :
    Transcript where
  hostStatic := hostStatic
  chipStatic := Primitives.publicKey chip.static
  hostEphemeral := hostEphemeral
  slot := slot.byte
  chipEphemeral := Primitives.publicKey chip.ephemeral

/-- The shared secrets. -/
def sharedSecrets (chip : Responder) (hostStatic hostEphemeral : Key) : SharedSecrets where
  ephemeral := Primitives.agree chip.ephemeral hostEphemeral
  hostStatic := Primitives.agree chip.ephemeral hostStatic
  chipStatic := Primitives.agree chip.static hostEphemeral

/-- Answers a request, given the usable pairing keys; returns the response and the
session keys. -/
def answer (chip : Responder) (request : Bytes) (pairing : PairingSlot → Option Key) :
    Except HandshakeError (Bytes × SessionKeys) :=
  if request.length ≠ Handshake.requestLength then .error .malformedMessage
  else do
    let slot ← PairingSlot.ofByte (request.getD 32 0)
    match pairing slot with
    | none => .error .authentication
    | some hostStatic =>
      let hostEphemeral := Octets.fit 32 request
      let transcript := (chip.transcript hostStatic hostEphemeral slot).hash chip.suite
      let (authentication, keys) :=
        (chip.sharedSecrets hostStatic hostEphemeral).keys chip.suite
      let tag ← Handshake.tag chip.suite authentication transcript
      return ((Primitives.publicKey chip.ephemeral).val ++ tag.val, keys)

end Responder

end SecureElement
