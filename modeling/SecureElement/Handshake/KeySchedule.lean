import SecureElement.Session

/-!
The transcript of a handshake, the keys derived from the shared secrets, and the
tag that proves knowledge of them.
-/

namespace SecureElement

variable [Primitives]

/-- What both parties saw of each other. -/
structure Transcript where
  hostStatic : Key
  chipStatic : Key
  hostEphemeral : Key
  slot : UInt8
  chipEphemeral : Key
deriving DecidableEq

/-- The parts of a transcript in the order in which they are hashed. -/
def Transcript.parts (t : Transcript) : List Bytes :=
  [t.hostStatic.val, t.chipStatic.val, t.hostEphemeral.val, [t.slot], t.chipEphemeral.val]

/-- The hash of a transcript: a chain that starts with the protocol name and takes
in one part after the other. -/
def Transcript.hash (suite : CipherSuite) (t : Transcript) : Octets 32 :=
  t.parts.foldl (fun chain part => Primitives.hash (chain.val ++ part))
    (Primitives.hash suite.protocolName.val)

/-- The secrets shared by the two parties: of both ephemeral keys, of the host's
static with the chip's ephemeral key, and the reverse. -/
structure SharedSecrets where
  ephemeral : Key
  hostStatic : Key
  chipStatic : Key
deriving DecidableEq

/-- The authentication key and the session keys of the shared secrets. -/
def SharedSecrets.keys (suite : CipherSuite) (shared : SharedSecrets) : Key × SessionKeys :=
  let chain := (Primitives.derive suite.protocolName shared.ephemeral.val).1
  let chain := (Primitives.derive chain shared.hostStatic.val).1
  let (chain, authentication) := Primitives.derive chain shared.chipStatic.val
  let (command, result) := Primitives.derive chain []
  (authentication, ⟨command, result⟩)

namespace Handshake

/-- The length of a request: the host's ephemeral key and a slot. -/
def requestLength : Nat := 33

/-- The length of a response: the chip's ephemeral key and a tag. -/
def responseLength : Nat := 48

/-- The tag of a transcript hash. -/
def tag (suite : CipherSuite) (authentication : Key) (transcript : Octets 32) :
    Except HandshakeError Tag :=
  match Aead.encrypt suite authentication (Session.nonce 0) transcript.val [] with
  | .ok (_, tag) => .ok tag
  | .error _ => .error .aead

/-- Checks the tag of a transcript hash. -/
def verifyTag (suite : CipherSuite) (authentication : Key) (transcript : Octets 32)
    (tag : Bytes) : Except HandshakeError Unit :=
  match Aead.decrypt suite authentication (Session.nonce 0) transcript.val [] tag with
  | .ok _ => .ok ()
  | .error .authentication => .error .authentication
  | .error _ => .error .malformedMessage

end Handshake

end SecureElement
