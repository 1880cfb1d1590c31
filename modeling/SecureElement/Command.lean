import SecureElement.Error
import SecureElement.PairingSlot
import SecureElement.Primitives

/-!
Commands, their layouts, and the readings of their results.

A command packet is `[id][data]` and a result packet `[result code][data]`.
Numbers have their least significant byte first, and most layouts pad their
header. The type of what a command returns depends on the command.
-/

namespace SecureElement

/-! ### Keys on the chip -/

/-- The curve of a key slot. -/
inductive Curve where
  | p256
  | ed25519
deriving DecidableEq, Repr

namespace Curve

/-- The byte of a curve. -/
def byte : Curve → UInt8
  | p256 => 0x01
  | ed25519 => 0x02

/-- The length of a public key as the chip returns it. -/
def publicLength : Curve → Nat
  | p256 => 64
  | ed25519 => 32

/-- Reads the byte of a curve. -/
def ofByte : UInt8 → Except ProtocolError Curve
  | 0x01 => .ok p256
  | 0x02 => .ok ed25519
  | _ => .error .malformedResponse

/-- The name of a curve. -/
def name : Curve → String
  | p256 => "P256"
  | ed25519 => "Ed25519"

theorem ofByte_byte (curve : Curve) : ofByte curve.byte = .ok curve := by
  cases curve <;> rfl

end Curve

/-- How a key got into its slot. -/
inductive KeyOrigin where
  | generated
  | stored
deriving DecidableEq, Repr

namespace KeyOrigin

/-- The byte of an origin. -/
def byte : KeyOrigin → UInt8
  | generated => 0x01
  | stored => 0x02

/-- Reads the byte of an origin. -/
def ofByte : UInt8 → Except ProtocolError KeyOrigin
  | 0x01 => .ok generated
  | 0x02 => .ok stored
  | _ => .error .malformedResponse

/-- The name of an origin. -/
def name : KeyOrigin → String
  | generated => "Generated"
  | stored => "Stored"

theorem ofByte_byte (origin : KeyOrigin) : ofByte origin.byte = .ok origin := by
  cases origin <;> rfl

end KeyOrigin

/-- What is known of a key slot. -/
structure EccKey where
  curve : Curve
  origin : KeyOrigin
  publicKey : Bytes
deriving DecidableEq, Repr

/-! ### Limits -/

namespace Limit

/-- The longest ping. -/
def ping : Nat := 4096

/-- The longest message to sign. -/
def message : Nat := 4096

/-- The longest content of a memory slot. -/
def memory : Nat := 444

/-- The number of memory slots. -/
def memorySlots : Nat := 512

/-- The number of key slots. -/
def eccSlots : Nat := 32

/-- The number of counters. -/
def counters : Nat := 16

/-- The most random bytes at a time. -/
def random : Nat := 255

end Limit

/-! ### Commands -/

/-! The bytes that name the commands. -/

namespace CommandId

@[match_pattern] def ping : UInt8 := 0x01
@[match_pattern] def pairingKeyWrite : UInt8 := 0x10
@[match_pattern] def pairingKeyRead : UInt8 := 0x11
@[match_pattern] def pairingKeyInvalidate : UInt8 := 0x12
@[match_pattern] def rMemDataWrite : UInt8 := 0x40
@[match_pattern] def rMemDataRead : UInt8 := 0x41
@[match_pattern] def rMemDataErase : UInt8 := 0x42
@[match_pattern] def randomValueGet : UInt8 := 0x50
@[match_pattern] def eccKeyGenerate : UInt8 := 0x60
@[match_pattern] def eccKeyStore : UInt8 := 0x61
@[match_pattern] def eccKeyRead : UInt8 := 0x62
@[match_pattern] def eccKeyErase : UInt8 := 0x63
@[match_pattern] def ecdsaSign : UInt8 := 0x70
@[match_pattern] def eddsaSign : UInt8 := 0x71
@[match_pattern] def mCounterInit : UInt8 := 0x80
@[match_pattern] def mCounterUpdate : UInt8 := 0x81
@[match_pattern] def mCounterGet : UInt8 := 0x82

end CommandId

/-- A command to the chip. -/
inductive Command where
  /-- Asks for the same data back. -/
  | ping (data : Bytes)
  /-- Writes a pairing key to a blank slot. -/
  | pairingKeyWrite (slot : PairingSlot) (key : Key)
  | pairingKeyRead (slot : PairingSlot)
  | pairingKeyInvalidate (slot : PairingSlot)
  /-- Writes to an empty memory slot. -/
  | rMemDataWrite (slot : UInt16) (data : Bytes)
  | rMemDataRead (slot : UInt16)
  | rMemDataErase (slot : UInt16)
  /-- Asks for random bytes. -/
  | randomValueGet (count : UInt8)
  /-- Generates a key in an empty slot. -/
  | eccKeyGenerate (slot : UInt16) (curve : Curve)
  /-- Stores a private key in an empty slot. -/
  | eccKeyStore (slot : UInt16) (curve : Curve) (key : Key)
  | eccKeyRead (slot : UInt16)
  | eccKeyErase (slot : UInt16)
  /-- Signs a message with the Ed25519 key of a slot. -/
  | eddsaSign (slot : UInt16) (message : Bytes)
  /-- Sets a counter. -/
  | mCounterInit (index : UInt16) (value : UInt32)
  /-- Counts down. -/
  | mCounterUpdate (index : UInt16)
  | mCounterGet (index : UInt16)
deriving DecidableEq

namespace Command

/-- The byte of a command. -/
def id : Command → UInt8
  | ping .. => CommandId.ping
  | pairingKeyWrite .. => CommandId.pairingKeyWrite
  | pairingKeyRead .. => CommandId.pairingKeyRead
  | pairingKeyInvalidate .. => CommandId.pairingKeyInvalidate
  | rMemDataWrite .. => CommandId.rMemDataWrite
  | rMemDataRead .. => CommandId.rMemDataRead
  | rMemDataErase .. => CommandId.rMemDataErase
  | randomValueGet .. => CommandId.randomValueGet
  | eccKeyGenerate .. => CommandId.eccKeyGenerate
  | eccKeyStore .. => CommandId.eccKeyStore
  | eccKeyRead .. => CommandId.eccKeyRead
  | eccKeyErase .. => CommandId.eccKeyErase
  | eddsaSign .. => CommandId.eddsaSign
  | mCounterInit .. => CommandId.mCounterInit
  | mCounterUpdate .. => CommandId.mCounterUpdate
  | mCounterGet .. => CommandId.mCounterGet

/-- The most data that commands of the kind have. -/
def maxDataLength : Command → Nat
  | ping .. => Limit.ping
  | pairingKeyWrite .. => 2 + 1 + 32
  | rMemDataWrite .. => 3 + Limit.memory
  | randomValueGet .. => 1
  | eccKeyGenerate .. => 3
  | eccKeyStore .. => 2 + 1 + 12 + 32
  | eddsaSign .. => 15 + Limit.message
  | mCounterInit .. => 2 + 1 + 4
  | _ => 2

/-- The most data that results of the kind have. -/
def maxResponseLength : Command → Nat
  | ping .. => Limit.ping
  | pairingKeyRead .. => 3 + 32
  | rMemDataRead .. => 3 + Limit.memory
  | randomValueGet .. => 3 + Limit.random
  | eccKeyRead .. => 15 + 64
  | eddsaSign .. => 15 + 64
  | mCounterGet .. => 3 + 4
  | _ => 0

/-- The length of the data. -/
def dataLength : Command → Nat
  | ping data => data.length
  | rMemDataWrite _ data => 3 + data.length
  | eddsaSign _ message => 15 + message.length
  | c => c.maxDataLength

/-- The most data that the result can have. -/
def responseLength : Command → Nat
  | ping data => data.length
  | randomValueGet count => 3 + count.toNat
  | c => c.maxResponseLength

/-! ### Layouts -/

/-- A slot or an index in two bytes. -/
def word (value : UInt16) : Bytes :=
  Bytes.littleEndian 2 value.toNat

/-- The data of a command. -/
def encode : Command → Bytes
  | ping data => data
  | pairingKeyWrite slot key => word (UInt16.ofNat slot.val) ++ 0 :: key.val
  | pairingKeyRead slot => word (UInt16.ofNat slot.val)
  | pairingKeyInvalidate slot => word (UInt16.ofNat slot.val)
  | rMemDataWrite slot data => word slot ++ 0 :: data
  | rMemDataRead slot => word slot
  | rMemDataErase slot => word slot
  | randomValueGet count => [count]
  | eccKeyGenerate slot curve => word slot ++ [curve.byte]
  | eccKeyStore slot curve key => word slot ++ curve.byte :: List.replicate 12 0 ++ key.val
  | eccKeyRead slot => word slot
  | eccKeyErase slot => word slot
  | eddsaSign slot message => word slot ++ List.replicate 13 0 ++ message
  | mCounterInit index value => word index ++ 0 :: Bytes.littleEndian 4 value.toNat
  | mCounterUpdate index => word index
  | mCounterGet index => word index

theorem length_encode (c : Command) : c.encode.length = c.dataLength := by
  cases c with
  | pairingKeyWrite slot key => simp [encode, word, dataLength, maxDataLength, key.property]
  | eccKeyStore slot curve key => simp [encode, word, dataLength, maxDataLength, key.property]
  | _ => simp [encode, word, dataLength, maxDataLength] <;> omega

/-- The packet of a command. -/
def packet (c : Command) : Bytes := c.id :: c.encode

/-! ### Results -/

/-- What a command returns. -/
abbrev Response : Command → Type
  | ping .. => Bytes
  | pairingKeyRead .. => Key
  | rMemDataRead .. => Bytes
  | randomValueGet .. => Bytes
  | eccKeyRead .. => EccKey
  | eddsaSign .. => Octets 64
  | mCounterGet .. => UInt32
  | pairingKeyWrite .. => Unit
  | pairingKeyInvalidate .. => Unit
  | rMemDataWrite .. => Unit
  | rMemDataErase .. => Unit
  | eccKeyGenerate .. => Unit
  | eccKeyStore .. => Unit
  | eccKeyErase .. => Unit
  | mCounterInit .. => Unit
  | mCounterUpdate .. => Unit

/-- The error for a result that does not have the layout of its command. -/
def malformed : Error := .protocol .malformedResponse

/-- Accepts no data. -/
def decodeEmpty (data : Bytes) : Except Error Unit :=
  if data = [] then .ok () else .error malformed

/-- Skips padding that has to be there. -/
def decodePadded (padding : Nat) (data : Bytes) : Except Error Bytes :=
  if data.length < padding then .error malformed else .ok (data.drop padding)

/-- Skips padding in front of exactly `length` bytes. -/
def decodeOctets (padding length : Nat) (data : Bytes) : Except Error (Octets length) :=
  if data.length = padding + length then
    match Octets.ofBytes? length (data.drop padding) with
    | some octets => .ok octets
    | none => .error malformed
  else .error malformed

/-- Reads `[curve][origin]`, padding up to 15 bytes, and a public key of the
curve. -/
def decodeEccKey (data : Bytes) : Except Error EccKey := do
  let publicKey ← decodePadded 15 data
  let curve ← (Curve.ofByte (data.getD 0 0)).mapError .protocol
  let origin ← (KeyOrigin.ofByte (data.getD 1 0)).mapError .protocol
  if publicKey.length = curve.publicLength then .ok { curve, origin, publicKey }
  else .error malformed

/-- Reads the data of a command's result. -/
def decode : (c : Command) → Bytes → Except Error c.Response
  | ping .., data => .ok data
  | pairingKeyRead .., data => decodeOctets 3 32 data
  | rMemDataRead .., data => decodePadded 3 data
  | randomValueGet .., data => decodePadded 3 data
  | eccKeyRead .., data => decodeEccKey data
  | eddsaSign .., data => decodeOctets 15 64 data
  | mCounterGet .., data =>
    (decodeOctets 3 4 data).map fun value => UInt32.ofNat (Bytes.ofLittleEndian value.val)
  | pairingKeyWrite .., data => decodeEmpty data
  | pairingKeyInvalidate .., data => decodeEmpty data
  | rMemDataWrite .., data => decodeEmpty data
  | rMemDataErase .., data => decodeEmpty data
  | eccKeyGenerate .., data => decodeEmpty data
  | eccKeyStore .., data => decodeEmpty data
  | eccKeyErase .., data => decodeEmpty data
  | mCounterInit .., data => decodeEmpty data
  | mCounterUpdate .., data => decodeEmpty data

/-- Reads a result byte. -/
def readResult (byte : UInt8) : Except ProtocolError ResultCode :=
  match ResultCode.ofByte? byte with
  | some code => .ok code
  | none => .error (.unknownResult byte)

/-- Fails on any result but success. -/
def checkResult (byte : UInt8) : Except Error Unit :=
  match readResult byte with
  | .error cause => .error (.protocol cause)
  | .ok .ok => .ok ()
  | .ok code => .error (.protocol (.result code))

/-- Reads a result packet. -/
def decodePacket (c : Command) : Bytes → Except Error c.Response
  | [] => .error malformed
  | result :: data => do
    checkResult result
    c.decode data

/-- Checks that as many random bytes came as were asked for. -/
def checkCount (requested : UInt8) (bytes : Bytes) : Except Error Unit :=
  if bytes.length = requested.toNat then .ok () else .error malformed

end Command

end SecureElement
