import SecureElement.Dongle
import SecureElement.RandomSource
import SecureElement.Transport

/-!
The dongle as a transport over a serial line.

The line is open exactly while the transport is in use. Chip select is asserted
by the first transfer of a window, so `select` has nothing to do. Each transfer
and each release of chip select writes a line and reads a reply of known length.
-/

namespace SecureElement

/-- The operations of a serial line in state `π`. -/
class SerialLine (π : Type) where
  /-- Opens the line of a device. -/
  connect (device : String) (baudRate : UInt32) : ExceptT TransportError (StateM π) Unit
  /-- Drops what waits on the line; whether that works is not reported. -/
  clear : StateM π Unit
  /-- Writes bytes. -/
  write (bytes : Bytes) : ExceptT TransportError (StateM π) Unit
  /-- Reads exactly so many bytes. -/
  read (count : Nat) : ExceptT TransportError (StateM π) (Octets count)
  /-- Closes the line. -/
  disconnect : StateM π Unit

/-- A dongle on a serial line. -/
structure SerialDongle (π : Type) where
  device : String
  baudRate : UInt32
  isOpen : Bool
  line : π
  random : RandomSource

namespace SerialDongle

variable {π : Type} [SerialLine π]

/-- The dongle at a device; the line is not yet open. -/
def create (device : String) (baudRate : UInt32) (line : π) (random : RandomSource) :
    SerialDongle π :=
  { device, baudRate, isOpen := false, line, random }

/-- Lets the line act. -/
def onLine {α : Type} (act : StateM π α) : StateM (SerialDongle π) α := fun dongle =>
  let (result, line) := act.run dongle.line
  (result, { dongle with line })

/-- Fails if the line is closed. -/
def expectOpen : ExceptT TransportError (StateM (SerialDongle π)) Unit := do
  if (← get).isOpen = false then
    throw (.bus "Port is closed")

/-- Opens the line, unless it is open, and drops what waits on it. -/
def connect : ExceptT TransportError (StateM (SerialDongle π)) Unit := do
  let dongle ← get
  if dongle.isOpen = false then
    ExceptT.mk (onLine (SerialLine.connect dongle.device dongle.baudRate).run)
    ExceptT.lift (onLine SerialLine.clear)
    modify fun dongle => { dongle with isOpen := true }

/-- Closes the line, if it is open. -/
def disconnect : ExceptT TransportError (StateM (SerialDongle π)) Unit := do
  if (← get).isOpen then
    ExceptT.lift (onLine SerialLine.disconnect)
    modify fun dongle => { dongle with isOpen := false }

/-- Writes a line and reads a reply of `length` bytes. -/
def exchange (line : Bytes) (length : Nat) :
    ExceptT TransportError (StateM (SerialDongle π)) (Octets length) := do
  expectOpen
  ExceptT.mk (onLine (SerialLine.write line).run)
  ExceptT.mk (onLine (SerialLine.read length).run)

/-- Releases chip select. -/
def releaseChip : ExceptT TransportError (StateM (SerialDongle π)) Unit := do
  let reply ← exchange Dongle.releaseLine Dongle.acknowledgement.length
  match Dongle.checkAcknowledgement reply.val with
  | .ok () => return
  | .error cause => throw cause

/-- Transfers bytes. -/
def transfer (region : Bytes) : StateM (SerialDongle π) (Except TransportError Unit × Bytes) :=
  fun dongle =>
    let line := Dongle.encodeTransfer region []
    match (exchange line (Dongle.replyLength region.length)).run.run dongle with
    | (.error cause, dongle) => ((.error cause, region), dongle)
    | (.ok reply, dongle) => (Dongle.decodeReply reply.val region, dongle)

theorem length_transfer (region : Bytes) (dongle : SerialDongle π) :
    (transfer region dongle).1.2.length = region.length := by
  unfold transfer
  dsimp only
  split
  · rfl
  · exact Dongle.length_decodeReply _ region

instance : Transport (SerialDongle π) where
  init := connect
  release := disconnect
  select := pure ()
  deselect := releaseChip
  exchange _ region _ := transfer region
  delay _ := pure ()
  random count := do
    let dongle ← get
    match dongle.random.tryDraw count with
    | (.ok bytes, random) =>
      set { dongle with random }
      return bytes
    | (.error reason, random) =>
      set { dongle with random }
      throw (.bus reason)
  entropy _ := .strong
  length_exchange _ region _ dongle := length_transfer region dongle

end SerialDongle

end SecureElement
