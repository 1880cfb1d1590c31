import SecureElement.Command
import SecureElement.Handshake
import SecureElement.Info
import SecureElement.Link

/-!
A device: one chip, the connection to it, and the secure session.

A command is refused before anything is sent if it or its longest result does not
fit the packet buffer or if there is no session. After that every failure up to
the decryption of the result ends the session; a result that reports a failure
does not, since both sides are still in step.

The number of responses that a result comes in is up to the chip. Operations that
execute commands therefore take a bound `frames` on the responses that are read;
where it is reached before the result is complete, they have no outcome.
-/

namespace SecureElement

/-- Where a device is in the life of a session. -/
inductive SessionState where
  /-- There is no session. -/
  | awaitingHandshake
  | established
  /-- The last session ended in a failure. -/
  | aborted
deriving DecidableEq, Repr

/-- A connection to a chip over a transport in state `σ`. -/
structure Device (σ : Type) where
  bus : Bus σ
  /-- Holds one packet at a time. -/
  buffer : Bytes
  config : Config
  state : SessionState
  session : Option Session

/-- Actions on a device that may fail. -/
abbrev DeviceM (σ : Type) := ExceptT Error (StateM (Device σ))

/-- Actions on a device that may fail, or have no outcome within their bound. -/
abbrev DeviceRun (σ : Type) := ExceptT Error (StateT (Device σ) Option)

namespace Device

variable {σ : Type}

/-- The smallest packet buffer: a frame with one byte. -/
def minCapacity : Nat := Session.overhead + 1

/-- How many packets were encrypted in the session. -/
def sendCounter? (device : Device σ) : Option UInt32 :=
  device.session.map fun session => session.sending.counter

/-- How many packets were decrypted in the session. -/
def receiveCounter? (device : Device σ) : Option UInt32 :=
  device.session.map fun session => session.receiving.counter

/-- Drops the session and moves to a state. -/
def endSession (device : Device σ) (state : SessionState) : Device σ :=
  { device with session := none, state }

/-- Runs an action on the bus. -/
def onBus {α : Type} (act : Config → BusM σ α) : DeviceM σ α :=
  ExceptT.mk fun device =>
    let (result, bus) := (act device.config).run.run device.bus
    pure (result, { device with bus })

/-- An action that always has an outcome. -/
def bounded {α : Type} (act : DeviceM σ α) : DeviceRun σ α :=
  ExceptT.mk fun device => some (act.run.run device)

variable [Transport σ]

/-! ### Life of a device -/

/-- Takes a transport into use. If that fails the transport is released and
returned with the error. -/
def init (transport : σ) (config : Config) : Except (Error × σ) (Device σ) :=
  let capacity := config.packetCapacity.toNat
  if capacity < minCapacity then
    .error (.capacity minCapacity capacity, (Transport.release.run.run transport).2)
  else
    match Transport.init.run.run transport with
    | (.error cause, transport) =>
      .error (.transport cause, (Transport.release.run.run transport).2)
    | (.ok (), transport) =>
      .ok {
        bus := Link.start transport
        buffer := List.replicate capacity 0
        config
        state := .awaitingHandshake
        session := none }

/-- Releases the transport; returns how that went and the transport. -/
def deinit (device : Device σ) : Except Error Unit × σ :=
  let (result, transport) := Transport.release.run.run device.bus.transport
  (result.mapError .transport, transport)

/-! ### Information -/

/-- Reads `count` blocks of the certificate from `block` on. -/
def certificateBlocks : (count : Nat) → (block : UInt8) → DeviceM σ Bytes
  | 0, _ => return []
  | count + 1, block => do
    let data ← onBus fun c => Link.getInfo c Info.Object.certificate.byte block
    if data.length ≠ Info.blockLength then
      throw Command.malformed
    return data ++ (← certificateBlocks count (block + 1))

/-- Reads the certificate. -/
def certificate : DeviceM σ Bytes :=
  certificateBlocks (Info.certificateLength / Info.blockLength) 0

/-- Reads the identity. -/
def chipId : DeviceM σ ChipId := do
  let data ← onBus fun c => Link.getInfo c Info.Object.chipId.byte 0
  match Octets.ofBytes? Info.chipIdLength data with
  | some id => return id
  | none => throw Command.malformed

/-- Reads a version. -/
def version (object : Info.Object) : DeviceM σ FirmwareVersion := do
  let data ← onBus fun c => Link.getInfo c object.byte 0
  match FirmwareVersion.ofBytes? data with
  | some version => return version
  | none => throw Command.malformed

/-- Reads the version of the main firmware. -/
def riscvVersion : DeviceM σ FirmwareVersion := version .riscvVersion

/-- Reads the version of the coprocessor's firmware. -/
def spectVersion : DeviceM σ FirmwareVersion := version .spectVersion

/-! ### Sessions -/

/-- What the host authenticates with: its pairing key pair and the slot that holds
the public half. -/
structure Pairing where
  slot : PairingSlot
  secret : Key
  publicKey : Key

/-- Fails if there is a session. -/
def expectNoSession : DeviceM σ Unit := do
  if (← get).state = .established then
    throw .sessionActive

/-- Fails if the random source is weak and that is not allowed. -/
def checkEntropy : DeviceM σ Unit := do
  let device ← get
  if Transport.entropy device.bus.transport = .weak ∧ device.config.allowWeakEntropy = false then
    throw (.handshake .weakEntropy)

/-- Reports a refused handshake as a failure of the handshake. -/
def rejectedHandshake : Error → Error
  | .protocol (.status .handshakeErr) => .handshake .rejected
  | e => e

/-- Runs the handshake with a chip of known static public key. -/
def sessionStart [Primitives] (chipPublic : Key) (pairing : Pairing) : DeviceM σ Unit := do
  expectNoSession
  modify fun device => { device with state := .awaitingHandshake }
  checkEntropy
  let ephemeral ← onBus fun _ => Bus.random 32
  let suite := (← get).config.suite
  let host : Initiator :=
    { suite, ephemeral, chipPublic
      hostPrivate := pairing.secret
      hostPublic := pairing.publicKey
      slot := pairing.slot }
  let response ← tryCatch
    (onBus fun c => Link.handshake c host.ephemeralPublic pairing.slot.byte)
    fun e => throw (rejectedHandshake e)
  match host.finish response with
  | .error cause => throw (.handshake cause)
  | .ok keys =>
    modify fun device =>
      { device with session := some (Session.forHost suite keys), state := .established }

/-- Reads the chip's static public key from its certificate and runs the
handshake. -/
def verifyAndStart [Primitives] (pairing : Pairing) : DeviceM σ Unit := do
  expectNoSession
  match Info.staticKey (← certificate) with
  | .error cause => throw (.handshake cause)
  | .ok chipPublic => sessionStart chipPublic pairing

/-- Ends the session on both sides; without a session there is nothing to do. The
host's side ends even if the chip cannot be told. -/
def sessionAbort : DeviceM σ Unit := do
  if (← get).session.isSome then
    modify fun device => device.endSession .awaitingHandshake
    onBus Link.sessionAbort

/-- Puts the chip to sleep; deep sleep ends the session. -/
def sleep (kind : SleepKind) : DeviceM σ Unit := do
  if kind = .deepSleep ∧ (← get).session.isSome then
    modify fun device => device.endSession .awaitingHandshake
  onBus fun c => Link.sleep c kind

/-- Restarts the chip, which ends the session. -/
def reboot (kind : StartupKind) : DeviceM σ Unit := do
  if (← get).session.isSome then
    modify fun device => device.endSession .awaitingHandshake
  onBus fun c => Link.startup c kind

/-! ### Commands -/

/-- The length of the longest frame of an exchange: of the command or of its
longest result. -/
def frameLength (command : Command) : Nat :=
  max (1 + command.dataLength) (1 + command.responseLength) + Session.overhead

/-- Why a command is refused before anything is sent. -/
def refusal? (device : Device σ) (command : Command) : Option Error :=
  if command.maxDataLength < command.dataLength then
    some (.capacity command.dataLength command.maxDataLength)
  else if device.buffer.length < frameLength command then
    some (.capacity (frameLength command) device.buffer.length)
  else if device.session.isNone then some .noSession
  else none

/-- Reports the chip's refusal of an encrypted command as a failure of the
session. -/
def rejectedByChip : Error → Error
  | .protocol (.status .tagErr) => .session .rejectedByChip
  | .protocol (.status .noSession) => .session .rejectedByChip
  | e => e

/-- Encrypts a command in the buffer; returns the frame. -/
def protectCommand [Primitives] (command : Command) : DeviceM σ Bytes := do
  let device ← get
  match device.session with
  | none => throw .noSession
  | some session =>
    let written := device.buffer.overlay Session.sizeLength command.packet
    match session.protect written command.packet.length with
    | .error cause =>
      set { device with buffer := written }
      throw (.session cause)
    | .ok (length, buffer, session) =>
      set { device with buffer, session := some session }
      return buffer.take length

/-- Collects a result in the buffer; returns the frame. -/
def collectResult (frames : Nat) : DeviceRun σ Bytes :=
  ExceptT.mk fun device =>
    match (Link.receiveEncrypted device.config frames device.buffer).run device.bus with
    | (none, _) => none
    | (some (result, buffer), bus) =>
      some ((result.map buffer.take).mapError rejectedByChip, { device with bus, buffer })

/-- Decrypts a result; returns the packet. -/
def unprotectResult [Primitives] (frame : Bytes) : DeviceM σ Bytes := do
  match (← get).session with
  | none => throw .noSession
  | some session =>
    match session.unprotect frame with
    | .error cause => throw (.session cause)
    | .ok (packet, session) =>
      modify fun device => { device with session := some session }
      return packet

/-- Sends a command and receives its result; returns the result packet. -/
def exchange [Primitives] (frames : Nat) (command : Command) : DeviceRun σ Bytes := do
  let frame ← bounded (protectCommand command)
  bounded <| tryCatch (onBus fun c => Link.sendEncrypted c frame)
    fun e => throw (rejectedByChip e)
  let result ← collectResult frames
  bounded (unprotectResult result)

/-- Executes a command and reads its result. -/
def execute [Primitives] (frames : Nat) (command : Command) : DeviceRun σ command.Response := do
  match refusal? (← get) command with
  | some e => throw e
  | none =>
    let packet ← tryCatch (exchange frames command) fun e => do
      modify fun device => device.endSession .aborted
      throw e
    modify fun device =>
      { device with buffer :=
          device.buffer.overlay 0 (List.replicate (Session.sizeLength + packet.length) 0) }
    match command.decodePacket packet with
    | .ok response => return response
    | .error e => throw e

/-- Sends data to the chip and expects it back. -/
def ping [Primitives] (frames : Nat) (data : Bytes) : DeviceRun σ Bytes := do
  let echo ← execute frames (.ping data)
  if echo ≠ data then
    throw Command.malformed
  return echo

/-- Returns random bytes from the chip. -/
def randomValueGet [Primitives] (frames : Nat) (count : UInt8) : DeviceRun σ Bytes := do
  let bytes ← execute frames (.randomValueGet count)
  match Command.checkCount count bytes with
  | .ok () => return bytes
  | .error e => throw e

/-- Signs a message with the Ed25519 key of a slot. -/
def eddsaSign [Primitives] (frames : Nat) (slot : UInt16) (message : Bytes) :
    DeviceRun σ (Octets 64) := do
  if Limit.message < message.length then
    throw (.capacity message.length Limit.message)
  execute frames (.eddsaSign slot message)

end Device

end SecureElement
