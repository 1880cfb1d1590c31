import SecureElement.Config
import SecureElement.Transport

/-!
Chip-select windows: writing a request and polling for a response.

A write is one window that carries a whole request. A read opens a window per
poll: it clocks out `responseRequest` and receives the chip status at the same
time. Once the chip is ready, the header and the rest of the frame follow in the
same window, and the buffer then holds
`[chip status][length][status][data][checksum]`.

Every window is closed on every path. Where a transfer or the chip status is
the reason to stop, a failure to close is not reported in its place.
-/

namespace SecureElement

/-- A transport and the buffer that is exchanged over it. -/
structure Bus (σ : Type) where
  transport : σ
  frame : Bytes

/-- Actions on a bus that may fail. -/
abbrev BusM (σ : Type) := ExceptT Error (StateM (Bus σ))

namespace Bus

/-- Clocked out to ask for the chip status and a response. -/
def responseRequest : UInt8 := 0xAA

/-- Chip status bit: a response can be read. -/
def readyBit : UInt8 := 0x01

/-- Chip status bit: the chip is in alarm mode. -/
def alarmBit : UInt8 := 0x02

/-- Chip status bit: the chip runs its startup firmware. -/
def startupBit : UInt8 := 0x04

/-- The shortest write. -/
def minLength : Nat := 1

variable {σ : Type} [Transport σ]

/-! ### Steps of a window -/

/-- Lets the transport act. -/
def lift {α : Type} (act : ExceptT TransportError (StateM σ) α) : BusM σ α :=
  ExceptT.mk fun bus =>
    let (result, transport) := act.run.run bus.transport
    pure (result.mapError .transport, { bus with transport })

/-- Changes the buffer. -/
def modifyFrame (change : Bytes → Bytes) : BusM σ Unit :=
  modify fun bus => { bus with frame := change bus.frame }

/-- Checks the bounds of a transfer. -/
def checkBounds (offset length : Nat) : BusM σ Unit := do
  match Transport.checkBounds (← get).frame offset length with
  | .ok () => return
  | .error cause => throw (.transport cause)

/-- Exchanges `length` bytes of the buffer from `offset` on. -/
def transfer (c : Config) (offset length : Nat) : BusM σ Unit :=
  ExceptT.mk fun bus =>
    let ((result, frame), transport) :=
      (Transport.transfer bus.frame offset length c.transferTimeout).run bus.transport
    pure (result.mapError .transport, { transport, frame })

/-- Closes the window and reports nothing. -/
def closeQuietly : BusM σ Unit :=
  tryCatch (lift Transport.deselect) fun _ => pure ()

/-- Closes the window and fails. -/
def abandon {α : Type} (e : Error) : BusM σ α := do
  closeQuietly
  throw e

/-- Exchanges a part of the buffer; if that fails, the window is closed. -/
def transferOrClose (c : Config) (offset length : Nat) : BusM σ Unit :=
  tryCatch (transfer c offset length) abandon

/-- Waits. -/
def delay (duration : UInt32) : BusM σ Unit :=
  lift (ExceptT.lift (Transport.delay duration))

/-- Draws random bytes. -/
def random (count : Nat) : BusM σ (Octets count) :=
  lift (Transport.random count)

/-! ### Writing -/

/-- Sends the first `length` bytes of the buffer in one window. What comes in
meanwhile replaces them and means nothing. -/
def write (c : Config) (length : Nat) : BusM σ Unit := do
  if length < minLength then
    throw (.frame (.length length))
  checkBounds 0 length
  lift Transport.select
  transferOrClose c 0 length
  lift Transport.deselect
  if 0 < c.turnaroundDelay then
    delay c.turnaroundDelay

/-! ### Reading -/

/-- Reads the header and the rest of a frame in the window of its chip status;
returns how many bytes of the buffer are valid. -/
def readFrame (c : Config) : BusM σ Nat := do
  modifyFrame fun frame => frame.overlay 1 [0, 0]
  transferOrClose c 1 2
  let length := ((← get).frame.getD 1 0).toNat
  if Frame.maxData < length then
    abandon (.frame (.length length))
  modifyFrame fun frame => frame.overlay 3 (List.replicate (length + 2) 0)
  transferOrClose c 3 (length + 2)
  lift Transport.deselect
  return length + 5

/-- One poll: a window that asks for the chip status and, if the chip is ready,
reads the frame; `none` if it is busy. -/
def poll (c : Config) : BusM σ (Option Nat) := do
  modifyFrame fun frame => frame.overlay 0 [responseRequest]
  lift Transport.select
  transferOrClose c 0 1
  let status := (← get).frame.getD 0 0
  if status &&& alarmBit ≠ 0 then
    abandon (.protocol .chipAlarm)
  else if status &&& startupBit ≠ 0 then
    abandon (.protocol .chipInStartup)
  else if status &&& readyBit = 0 then
    lift Transport.deselect
    return none
  else
    return some (← readFrame c)

/-- Polls up to `tries` times, with a wait after each poll of a busy chip. -/
def pollUpTo (c : Config) : (tries : Nat) → BusM σ Nat
  | 0 => throw (.transport .notReady)
  | tries + 1 => do
    match ← poll c with
    | some length => return length
    | none =>
      delay c.readRetryDelay
      pollUpTo c tries

/-- Polls until the chip has a response and reads it; returns how many bytes of
the buffer are valid. -/
def read (c : Config) : BusM σ Nat := do
  checkBounds 0 Frame.maxLength
  pollUpTo c c.readMaxTries.toNat

end Bus

end SecureElement
