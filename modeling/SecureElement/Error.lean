import SecureElement.Hex
import SecureElement.ResultCode
import SecureElement.Status

/-!
What can go wrong, layer by layer, and how it is worded.

Each layer has a type of its own causes; `Error` collects them and adds the
refusals that belong to no layer. The text of a collected cause is that of the
layer behind the name of the layer.
-/

namespace SecureElement

/-! ### Causes -/

/-- Failures of the link that carries the bytes. -/
inductive TransportError where
  /-- The transfer did not complete in its time. -/
  | timeout
  /-- The end of a transfer lies past the longest frame or past the buffer. -/
  | lengthExceeded (length maximum : Nat)
  /-- The chip was polled as often as allowed and never was ready. -/
  | notReady
  /-- The adapter answered something that its protocol does not provide for. -/
  | unexpectedReply
  /-- The bus or the device below failed. -/
  | bus (reason : String)
deriving DecidableEq, Repr

/-- Frames that are malformed or damaged. -/
inductive FrameError where
  | crc (expected received : UInt16)
  | length (count : Nat)
  | unknownStatus (byte : UInt8)
deriving DecidableEq, Repr

/-- Failures of the encrypted exchange. -/
inductive SessionError where
  | authentication
  | counterExhausted
  | malformedFrame
  | rejectedByChip
  | aead
deriving DecidableEq, Repr

/-- Failures of the handshake. -/
inductive HandshakeError where
  | rejected
  | authentication
  | malformedMessage
  | invalidSlot (index : UInt8)
  | noStaticKey
  | weakEntropy
  | kdf
  | aead
deriving DecidableEq, Repr

/-- Well-formed answers of the chip that report a failure. -/
inductive ProtocolError where
  | status (answer : Status)
  | result (code : ResultCode)
  | unknownResult (byte : UInt8)
  | chipAlarm
  | chipInStartup
  | malformedResponse
deriving DecidableEq, Repr

/-- Everything that an operation can end in. -/
inductive Error where
  | transport (cause : TransportError)
  | frame (cause : FrameError)
  | handshake (cause : HandshakeError)
  | session (cause : SessionError)
  | protocol (cause : ProtocolError)
  /-- A payload is longer than the buffer meant to carry it. -/
  | capacity (needed available : Nat)
  /-- The operation needs a secure session. -/
  | noSession
  /-- The operation needs that there is no secure session. -/
  | sessionActive
deriving DecidableEq, Repr

/-- The class of an error. -/
inductive ErrorKind where
  | transport
  | frame
  | handshake
  | session
  | protocol
  | capacity
  | state
deriving DecidableEq, Repr

/-! ### Wording -/

/-- The text of a cause. -/
def TransportError.message : TransportError → String
  | timeout => "Transfer timed out"
  | lengthExceeded length maximum =>
    s!"Transfer of {length} bytes exceeds the maximum of {maximum}"
  | notReady => "Chip never became ready"
  | unexpectedReply => "Adapter sent an unexpected reply"
  | bus reason => "Bus error: " ++ reason

/-- The text of a cause. -/
def FrameError.message : FrameError → String
  | crc expected received =>
    "CRC mismatch: expected " ++ Hex.word 4 expected.toNat ++
      ", received " ++ Hex.word 4 received.toNat
  | .length count => s!"Invalid frame length {count}"
  | unknownStatus byte => "Unknown L2 status " ++ Hex.word 2 byte.toNat

/-- The text of a cause. -/
def SessionError.message : SessionError → String
  | authentication => "Response failed authentication"
  | counterExhausted => "Nonce counter exhausted"
  | malformedFrame => "Malformed L3 frame"
  | rejectedByChip => "Chip rejected the session"
  | aead => "Error using AEAD"

/-- The text of a cause. -/
def HandshakeError.message : HandshakeError → String
  | rejected => "Chip rejected the handshake"
  | authentication => "Handshake tag doesn't verify"
  | malformedMessage => "Malformed handshake message"
  | invalidSlot index => s!"Invalid pairing key slot {index.toNat}"
  | noStaticKey => "Certificate doesn't contain an X25519 key"
  | weakEntropy => "Refusing to handshake with weak entropy"
  | kdf => "Error using HKDF"
  | aead => "Error using AEAD"

/-- The text of a cause. -/
def ProtocolError.message : ProtocolError → String
  | .status answer => "L2 status " ++ answer.name
  | .result code => "L3 result " ++ code.name
  | unknownResult byte => "Unknown L3 result " ++ Hex.word 2 byte.toNat
  | chipAlarm => "Chip is in alarm mode"
  | chipInStartup => "Chip is in startup mode"
  | malformedResponse => "Malformed response"

namespace Error

/-- The class of an error. -/
def kind : Error → ErrorKind
  | transport _ => .transport
  | frame _ => .frame
  | handshake _ => .handshake
  | session _ => .session
  | protocol _ => .protocol
  | capacity _ _ => .capacity
  | noSession => .state
  | sessionActive => .state

/-- The text of the cause in a layer, where there is one. -/
def source? : Error → Option String
  | transport cause => some cause.message
  | frame cause => some cause.message
  | handshake cause => some cause.message
  | session cause => some cause.message
  | protocol cause => some cause.message
  | capacity _ _ => none
  | noSession => none
  | sessionActive => none

/-- The text of an error. -/
def message : Error → String
  | transport cause => "Transport error: " ++ cause.message
  | frame cause => "Frame error: " ++ cause.message
  | handshake cause => "Handshake error: " ++ cause.message
  | session cause => "Session error: " ++ cause.message
  | protocol cause => "Protocol error: " ++ cause.message
  | capacity needed available =>
    s!"Payload of {needed} bytes exceeds the capacity of {available}"
  | noSession => "No secure session established"
  | sessionActive => "A secure session is already established"

end Error

/-- The name of a class of errors. -/
def ErrorKind.name : ErrorKind → String
  | transport => "Transport"
  | frame => "Frame"
  | handshake => "Handshake"
  | session => "Session"
  | protocol => "Protocol"
  | capacity => "Capacity"
  | state => "State"

end SecureElement
