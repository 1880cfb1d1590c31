import SecureElement.Bus

/-!
Requests and responses.

A request is built anew for every attempt, since an exchange overwrites it.
Failures of the transport are retried; everything else ends the exchange at
once. Long encrypted packets travel in chunks, one request each, and results in
a sequence of responses.
-/

namespace SecureElement

/-! ### Requests -/

namespace RequestId

/-- Reads a block of chip information. -/
@[match_pattern] def getInfo : UInt8 := 0x01

/-- Starts a handshake. -/
@[match_pattern] def handshake : UInt8 := 0x02

/-- Carries a chunk of an encrypted command. -/
@[match_pattern] def encryptedCommand : UInt8 := 0x04

/-- Ends the secure session. -/
@[match_pattern] def sessionAbort : UInt8 := 0x08

/-- Puts the chip to sleep. -/
@[match_pattern] def sleep : UInt8 := 0x20

/-- Restarts the chip. -/
@[match_pattern] def startup : UInt8 := 0xB3

end RequestId

/-- How deep the chip sleeps. -/
inductive SleepKind where
  | sleep
  | deepSleep
deriving DecidableEq, Repr

/-- The byte of a kind of sleep. -/
def SleepKind.byte : SleepKind → UInt8
  | sleep => 0x05
  | deepSleep => 0x0A

/-- What the chip restarts into. -/
inductive StartupKind where
  | reboot
  | maintenanceReboot
deriving DecidableEq, Repr

/-- The byte of a kind of restart. -/
def StartupKind.byte : StartupKind → UInt8
  | reboot => 0x01
  | maintenanceReboot => 0x03

namespace Link

variable {σ : Type} [Transport σ]

/-- A bus with the buffer of a link. -/
def start (transport : σ) : Bus σ :=
  ⟨transport, List.replicate Frame.maxLength 0⟩

/-! ### One exchange -/

/-- Whether an error is a failure of the transport, after which an attempt may be
repeated. -/
def isRetried : Error → Bool
  | .transport _ => true
  | _ => false

/-- Makes an attempt and, as long as the transport fails, up to `retries` more,
with a wait before each. -/
def withRetries {α : Type} (c : Config) (attempt : BusM σ α) : (retries : Nat) → BusM σ α
  | 0 => attempt
  | retries + 1 =>
    tryCatch attempt fun e => do
      if isRetried e then
        Bus.delay c.retryDelay
        withRetries c attempt retries
      else throw e

/-- Builds a request in the buffer and writes it. -/
def sendOnce (c : Config) (id : UInt8) (data : Bytes) : BusM σ Unit := do
  match Frame.buildRequest (← get).frame id data with
  | .error cause => throw (.frame cause)
  | .ok (length, frame) =>
    Bus.modifyFrame fun _ => frame
    Bus.write c length

/-- Writes a request. -/
def send (c : Config) (id : UInt8) (data : Bytes) : BusM σ Unit :=
  withRetries c (sendOnce c id data) c.transportRetries.toNat

/-- Reads a response. -/
def receive (c : Config) : BusM σ Frame.Reply := do
  let length ← withRetries c (Bus.read c) c.transportRetries.toNat
  match Frame.parseResponse ((← get).frame.take length) with
  | .error cause => throw (.frame cause)
  | .ok reply => return reply

/-- Fails on any status but the expected one. -/
def expectStatus (reply : Frame.Reply) (expected : Status) : BusM σ Unit :=
  if reply.status = expected then pure ()
  else throw (.protocol (.status reply.status))

/-- Sends a request and returns the data of the positive answer. -/
def transceive (c : Config) (id : UInt8) (data : Bytes) : BusM σ Bytes := do
  send c id data
  let reply ← receive c
  expectStatus reply .requestOk
  return reply.data

/-! ### Plain requests -/

/-- Reads a block of an information object. -/
def getInfo (c : Config) (object block : UInt8) : BusM σ Bytes :=
  transceive c RequestId.getInfo [object, block]

/-- Sends the host's ephemeral public key and the pairing slot. -/
def handshake (c : Config) (ephemeral : Octets 32) (slot : UInt8) : BusM σ Bytes :=
  transceive c RequestId.handshake (ephemeral.val ++ [slot])

/-- Asks the chip to end its session. -/
def sessionAbort (c : Config) : BusM σ Unit := do
  let _ ← transceive c RequestId.sessionAbort []

/-- Puts the chip to sleep. -/
def sleep (c : Config) (kind : SleepKind) : BusM σ Unit := do
  let _ ← transceive c RequestId.sleep [kind.byte]

/-- Restarts the chip. -/
def startup (c : Config) (kind : StartupKind) : BusM σ Unit := do
  let _ ← transceive c RequestId.startup [kind.byte]

/-! ### Encrypted packets -/

/-- Sends pieces; the chip asks for more after each but the last. -/
def sendChunks (c : Config) : List Bytes → BusM σ Unit
  | [] => pure ()
  | chunk :: rest => do
    send c RequestId.encryptedCommand chunk
    let reply ← receive c
    expectStatus reply (if rest = [] then .requestOk else .requestCont)
    sendChunks c rest

/-- Sends an encrypted packet. -/
def sendEncrypted (c : Config) (packet : Bytes) : BusM σ Unit :=
  sendChunks c (Frame.chunks packet)

/-- Collects an encrypted result into the buffer `out`, which holds `length` bytes
of it already; returns how it went and the buffer. At most `frames` responses are
read: if the result is not complete then, there is no answer. -/
def collect (c : Config) : (frames : Nat) → (out : Bytes) → (length : Nat) →
    StateM (Bus σ) (Option (Except Error Nat × Bytes))
  | 0, _, _ => return none
  | frames + 1, out, length => do
    match ← (receive c).run with
    | .error e => return some (.error e, out)
    | .ok reply =>
      if reply.status = .resultCont ∨ reply.status = .resultOk then
        let total := length + reply.data.length
        if out.length < total then
          return some (.error (.capacity total out.length), out)
        else if reply.status = .resultOk then
          return some (.ok total, out.overlay length reply.data)
        else
          collect c frames (out.overlay length reply.data) total
      else
        return some (.error (.protocol (.status reply.status)), out)

/-- Collects an encrypted result into a buffer, from at most `frames` responses. -/
def receiveEncrypted (c : Config) (frames : Nat) (out : Bytes) :
    StateM (Bus σ) (Option (Except Error Nat × Bytes)) :=
  collect c frames out 0

end Link

end SecureElement
