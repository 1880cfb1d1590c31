import SecureElement.Chip.Store
import SecureElement.Handshake
import SecureElement.Info
import SecureElement.Link

/-!
A model of the chip that speaks the wire protocol byte by byte.

The bytes of a chip-select window are collected as they come in. A window that
starts with the response request is a poll and clocks out a queued response; any
other window is a request, which is processed when the window closes. A window in
which a transfer failed has no effect. Responses wait in a queue until they are
read to the end or until the next request.

Faults can be injected on the wire, and what the chip went through can be
observed.
-/

namespace SecureElement

/-- The current chip-select window. -/
structure Window where
  selected : Bool
  /-- What the host has sent. -/
  received : Bytes
  /-- What the host is sent. -/
  outgoing : Bytes
  /-- In a poll, whether the chip is ready. -/
  poll : Option Bool
  /-- Whether a transfer failed. -/
  failed : Bool
deriving DecidableEq

/-- A window that is closed. -/
def Window.closed : Window := ⟨false, [], [], none, false⟩

/-- A window that was just opened. -/
def Window.opened : Window := ⟨true, [], [], none, false⟩

/-- Faults that wait to happen. -/
structure Faults where
  /-- How many transfers will time out. -/
  failTransfers : Nat
  /-- How many polls will find the chip busy. -/
  busyPolls : Nat
  /-- The byte of the next response in which a bit is flipped on the wire. -/
  corruptResponse : Option Nat
  /-- The byte of the next encrypted result in which a bit is flipped before it
  is framed. -/
  tamperResult : Option Nat
  /-- Whether the previous encrypted result is sent in place of the next. -/
  replayResult : Bool
deriving DecidableEq

/-- No faults. -/
def Faults.none : Faults := ⟨0, 0, .none, .none, false⟩

/-- The chip. -/
structure Chip where
  suite : CipherSuite
  staticKey : Key
  certificate : Bytes
  identity : Bytes
  entropy : Entropy
  store : Store
  session : Option Session
  window : Window
  /-- Responses that were not read, each without chip status. -/
  responses : List Bytes
  /-- The part of an encrypted command that has arrived. -/
  pending : Bytes
  /-- The last encrypted result, as it was before any tampering. -/
  lastResult : Option Bytes
  faults : Faults
  transfers : Nat
  delayed : Nat
  initialized : Bool
  released : Bool
  random : RandomSource

namespace Chip

/-! ### Creation -/

/-- The private half of the pairing key in the first slot of a new chip. -/
def defaultPairingSecret : Key :=
  ⟨[0xD0, 0x99, 0x92, 0xB1, 0xF1, 0x7A, 0xBC, 0x4D, 0xB9, 0x37, 0x17, 0x68,
    0xA2, 0x7D, 0xA0, 0x5B, 0x18, 0xFA, 0xB8, 0x56, 0x13, 0xA7, 0x84, 0x2C,
    0xA6, 0x4C, 0x79, 0x10, 0xF2, 0x2E, 0x71, 0x6B], rfl⟩

/-- The version of the chip's main firmware. -/
def riscvVersion : FirmwareVersion := ⟨1, 0, 2, 0⟩

/-- The version of the firmware of the chip's coprocessor. -/
def spectVersion : FirmwareVersion := ⟨1, 0, 0, 0⟩

/-- Where the structure with the static key begins in the certificate. -/
def keyOffset : Nat := 0x100

/-- A certificate that carries a static public key. -/
def certificateOf (publicKey : Key) : Bytes :=
  let head := Bytes.overlay (List.replicate Info.certificateLength 0) 0 [0x30, 0x82, 0x01, 0xFC]
  head.overlay keyOffset ([0x06, 0x03, 0x2B] ++ Info.keyMark ++ publicKey.val)

/-- The identity, with the serial number 10 11 … 1F. -/
def defaultIdentity : Bytes :=
  Bytes.overlay (List.replicate Info.chipIdLength 0) 16
    ((List.range 16).map fun i => UInt8.ofNat (0x10 + i))

variable [Primitives]

/-- The public half of the pairing key in the first slot of a new chip. -/
def defaultPairingKey : Key := Primitives.publicKey defaultPairingSecret

/-- A chip whose static key is drawn from `random`. -/
def create (suite : CipherSuite) (random : RandomSource) : Chip :=
  let (staticKey, random) := random.draw 32
  { suite, staticKey, random
    certificate := certificateOf (Primitives.publicKey staticKey)
    identity := defaultIdentity
    entropy := .strong
    store := Store.fresh defaultPairingKey
    session := none
    window := .closed
    responses := []
    pending := []
    lastResult := none
    faults := .none
    transfers := 0
    delayed := 0
    initialized := false
    released := false }

/-- The static public key. -/
def publicKey (chip : Chip) : Key := Primitives.publicKey chip.staticKey

/-- Whether the chip considers a session established. -/
def hasSession (chip : Chip) : Bool := chip.session.isSome

/-! ### Knobs -/

/-- Writes a pairing key, whatever the state of the slot. -/
def provision (chip : Chip) (slot : PairingSlot) (key : Key) : Chip :=
  { chip with store.pairing := chip.store.pairing.set slot (.written key) }

/-- Sets the quality that the chip reports for its random bytes. -/
def setEntropy (chip : Chip) (entropy : Entropy) : Chip := { chip with entropy }

/-- Lets the next `count` transfers time out. -/
def failTransfers (chip : Chip) (count : Nat) : Chip :=
  { chip with faults.failTransfers := count }

/-- Lets the next `count` polls find the chip busy. -/
def busyPolls (chip : Chip) (count : Nat) : Chip :=
  { chip with faults.busyPolls := count }

/-- Flips a bit in a byte of the next response on the wire. -/
def corruptNextResponse (chip : Chip) (index : Nat) : Chip :=
  { chip with faults.corruptResponse := some index }

/-- Flips a bit in a byte of the next encrypted result. -/
def tamperNextResult (chip : Chip) (index : Nat) : Chip :=
  { chip with faults.tamperResult := some index }

/-- Sends the previous encrypted result in place of the next. -/
def replayNextResult (chip : Chip) : Chip :=
  { chip with faults.replayResult := true }

/-! ### Responses -/

/-- A response as it is queued. -/
def frameResponse (status : Status) (data : Bytes) : Bytes :=
  match Frame.buildResponse (List.replicate Frame.maxLength 0) status data with
  | .ok (length, buffer) => buffer.take length
  | .error _ => []

/-- Queues a response. -/
def respond (chip : Chip) (status : Status) (data : Bytes) : Chip :=
  { chip with responses := chip.responses ++ [frameResponse status data] }

/-- Queues the pieces of a result; the last one is marked. -/
def respondChunks (chip : Chip) : List Bytes → Chip
  | [] => chip
  | chunk :: rest =>
    respondChunks (chip.respond (if rest = [] then .resultOk else .resultCont) chunk) rest

/-- Ends the session, and with it any command that is arriving. -/
def dropSession (chip : Chip) : Chip :=
  { chip with session := none, pending := [] }

/-! ### Requests -/

/-- The content of an information object. -/
def infoObject? (chip : Chip) (object : UInt8) : Option Bytes :=
  if object = Info.Object.certificate.byte then some chip.certificate
  else if object = Info.Object.chipId.byte then some chip.identity
  else if object = Info.Object.riscvVersion.byte then some riscvVersion.toBytes
  else if object = Info.Object.spectVersion.byte then some spectVersion.toBytes
  else none

/-- Answers with a block of an information object. -/
def getInfo (chip : Chip) (data : Bytes) : Chip :=
  match data with
  | [object, block] =>
    match chip.infoObject? object with
    | none => chip.respond .genErr []
    | some content =>
      let start := block.toNat * Info.blockLength
      if content.length ≤ start then chip.respond .genErr []
      else chip.respond .requestOk (content.slice start Info.blockLength)
  | _ => chip.respond .genErr []

/-- Answers a handshake. The session before it ends and an ephemeral key is drawn,
whatever becomes of the request. -/
def handshake (chip : Chip) (data : Bytes) : Chip :=
  let (ephemeral, random) := chip.random.draw 32
  let chip := { chip.dropSession with random }
  let responder : Responder := ⟨chip.suite, chip.staticKey, ephemeral⟩
  match responder.answer data chip.store.pairingKey? with
  | .ok (response, keys) =>
    { chip with session := some (Session.forChip chip.suite keys) }.respond .requestOk response
  | .error _ => chip.respond .handshakeErr []

/-- Encrypts a result packet and queues it. -/
def sendResult (chip : Chip) (packet : Bytes) : Chip :=
  match chip.session with
  | none => chip.respond .noSession []
  | some session =>
    let buffer := List.replicate Session.sizeLength 0 ++ packet ++
      List.replicate Session.tagLength 0
    match session.protect buffer packet.length with
    | .error _ => chip.dropSession.respond .genErr []
    | .ok (_, genuine, session) =>
      let tampered := match chip.faults.tamperResult with
        | some i =>
          let i := Session.sizeLength + i % (genuine.length - Session.sizeLength)
          genuine.alter i (· ^^^ 0x01)
        | none => genuine
      let sent := if chip.faults.replayResult then chip.lastResult.getD tampered else tampered
      let faults := { chip.faults with tamperResult := none, replayResult := false }
      { chip with session := some session, faults, lastResult := some genuine }.respondChunks
        (Frame.chunks sent)

/-- Runs a command packet and queues its result. -/
def execute (chip : Chip) (packet : Bytes) : Chip :=
  let (result, store, random) := chip.store.execute chip.random packet
  { chip with store, random }.sendResult result

/-- Opens a complete encrypted command and answers it. -/
def openCommand (chip : Chip) (session : Session) (frame : Bytes) : Chip :=
  match session.unprotect frame with
  | .ok (packet, session) =>
    ({ chip with session := some session }.respond .requestOk []).execute packet
  | .error _ => chip.dropSession.respond .tagErr []

/-- Takes in a piece of an encrypted command. -/
def encryptedCommand (chip : Chip) (chunk : Bytes) : Chip :=
  match chip.session with
  | none => { chip with pending := [] }.respond .noSession []
  | some session =>
    let arrived := chip.pending ++ chunk
    let total := Bytes.ofLittleEndian (arrived.take Session.sizeLength) + Session.overhead
    if arrived.length < Session.sizeLength ∨ arrived.length < total then
      { chip with pending := arrived }.respond .requestCont []
    else
      let chip := { chip with pending := [] }
      if total < arrived.length then chip.respond .genErr []
      else chip.openCommand session arrived

/-- Falls asleep; deep sleep ends the session. -/
def sleep (chip : Chip) (data : Bytes) : Chip :=
  if data = [SleepKind.sleep.byte] then chip.respond .requestOk []
  else if data = [SleepKind.deepSleep.byte] then chip.dropSession.respond .requestOk []
  else chip.respond .genErr []

/-- Restarts, which ends the session. -/
def startup (chip : Chip) (data : Bytes) : Chip :=
  if data = [StartupKind.reboot.byte] ∨ data = [StartupKind.maintenanceReboot.byte] then
    chip.dropSession.respond .requestOk []
  else chip.respond .genErr []

/-- Serves a request. -/
def serve (chip : Chip) (request : Frame.Request) : Chip :=
  match request.id with
  | RequestId.getInfo => chip.getInfo request.data
  | RequestId.handshake => chip.handshake request.data
  | RequestId.encryptedCommand => chip.encryptedCommand request.data
  | RequestId.sessionAbort => chip.dropSession.respond .requestOk []
  | RequestId.sleep => chip.sleep request.data
  | RequestId.startup => chip.startup request.data
  | _ => chip.respond .unknownReq []

/-- Processes the bytes of a request window. Whatever was not read is discarded. -/
def processRequest (chip : Chip) (received : Bytes) : Chip :=
  let chip := { chip with responses := [] }
  match Frame.parseRequest received with
  | .ok request => chip.serve request
  | .error (.crc _ _) => chip.respond .crcErr []
  | .error _ => chip.respond .genErr []

/-! ### Windows -/

/-- Prepares what a poll clocks out. -/
def startPoll (chip : Chip) : Chip :=
  if 0 < chip.faults.busyPolls then
    { chip with
      faults.busyPolls := chip.faults.busyPolls - 1
      window.poll := some false
      window.outgoing := [0] }
  else
    let genuine := Bus.readyBit :: chip.responses.headD (frameResponse .noResp [])
    let outgoing := match chip.faults.corruptResponse with
      | some i => Bytes.alter genuine ((i + 1) % UInt64.size) (· ^^^ 0x01)
      | none => genuine
    { chip with
      faults.corruptResponse := none
      window.poll := some true
      window.outgoing := outgoing }

/-- Exchanges bytes in the current window. -/
def clock (chip : Chip) (region : Bytes) : (Except TransportError Unit × Bytes) × Chip :=
  if chip.window.selected = false then
    ((.error (.bus "transfer without chip select"), region), chip)
  else
    let chip := { chip with transfers := chip.transfers + 1 }
    if 0 < chip.faults.failTransfers then
      ((.error .timeout, region),
        { chip with
          faults.failTransfers := chip.faults.failTransfers - 1
          window.failed := true })
    else
      let chip := if chip.window.received = [] ∧ region = [Bus.responseRequest] then
          chip.startPoll
        else chip
      let answer := Octets.fit region.length
        (chip.window.outgoing.drop chip.window.received.length)
      ((.ok (), answer.val), { chip with window.received := chip.window.received ++ region })

/-- Closes the current window and acts on what came in. -/
def close (chip : Chip) : Chip :=
  if chip.window.selected = false then chip
  else
    let window := chip.window
    let chip := { chip with window := { window with
      selected := false, received := [], poll := none, failed := false } }
    if window.failed then chip
    else
      match window.poll with
      | some true =>
        if window.outgoing.length ≤ window.received.length then
          { chip with responses := chip.responses.tail }
        else chip
      | some false => chip
      | none => if window.received = [] then chip else chip.processRequest window.received

/-- A chip is a transport: the host is wired to it directly. -/
instance : Transport Chip where
  init := modify fun chip => { chip with initialized := true }
  release := modify fun chip => { chip with released := true }
  select := do
    if (← get).window.selected then
      throw (.bus "chip select already asserted")
    modify fun chip => { chip with window := .opened }
  deselect := modify close
  exchange _ region _ := fun chip => chip.clock region
  delay duration := modify fun chip => { chip with delayed := chip.delayed + duration.toNat }
  random count := do
    let chip ← get
    match chip.random.tryDraw count with
    | (.ok bytes, random) =>
      set { chip with random }
      return bytes
    | (.error reason, random) =>
      set { chip with random }
      throw (.bus reason)
  entropy chip := chip.entropy
  length_exchange _ region _ chip := by
    unfold clock
    split
    · rfl
    · dsimp only
      split
      · rfl
      · exact (Octets.fit region.length _).property

end Chip

end SecureElement
