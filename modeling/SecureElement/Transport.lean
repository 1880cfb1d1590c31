import SecureElement.Frame

/-!
What the stack needs from the link to the chip.

A transport is a type of states with operations on it; nothing is assumed of it
beyond that an exchange returns as many bytes as it was given. Bytes are
exchanged in windows between `select` and `deselect`. `transfer` is the exchange
of a part of a buffer: it refuses what runs past the buffer or past the longest
frame before the transport sees anything of it, and touches nothing outside the
part.
-/

namespace SecureElement

/-- How far the random bytes of a transport can be trusted. -/
inductive Entropy where
  | strong
  | weak
deriving DecidableEq, Repr

/-- The operations of a link in state `σ`. -/
class Transport (σ : Type) where
  /-- Takes the link into use. -/
  init : ExceptT TransportError (StateM σ) Unit
  /-- Gives the link up. -/
  release : ExceptT TransportError (StateM σ) Unit
  /-- Asserts chip select. -/
  select : ExceptT TransportError (StateM σ) Unit
  /-- Deasserts chip select. -/
  deselect : ExceptT TransportError (StateM σ) Unit
  /-- Exchanges bytes that stand at an offset of a frame, within a time in
  milliseconds; returns how it went and what the bytes are afterwards. -/
  exchange (offset : Nat) (region : Bytes) (timeout : UInt32) :
    StateM σ (Except TransportError Unit × Bytes)
  /-- Waits for a number of milliseconds. -/
  delay (duration : UInt32) : StateM σ Unit
  /-- Draws random bytes. -/
  random (count : Nat) : ExceptT TransportError (StateM σ) (Octets count)
  /-- The quality of the random bytes. -/
  entropy : σ → Entropy
  length_exchange (offset : Nat) (region : Bytes) (timeout : UInt32) (s : σ) :
    (exchange offset region timeout s).1.2.length = region.length

namespace Transport

/-- The greatest number that an offset or a length can be. -/
def maxSize : Nat := UInt64.size - 1

/-- Checks that a transfer stays within the buffer and within a frame. -/
def checkBounds (frame : Bytes) (offset length : Nat) : Except TransportError Unit :=
  if offset + length ≤ min Frame.maxLength frame.length then .ok ()
  else .error (.lengthExceeded (min (offset + length) maxSize) (min Frame.maxLength frame.length))

variable {σ : Type} [Transport σ]

/-- Exchanges `length` bytes of a frame from `offset` on; returns how it went and
the frame afterwards. -/
def transfer (frame : Bytes) (offset length : Nat) (timeout : UInt32) :
    StateM σ (Except TransportError Unit × Bytes) := do
  match checkBounds frame offset length with
  | .error cause => return (.error cause, frame)
  | .ok () =>
    let (result, region) ← exchange offset (frame.slice offset length) timeout
    return (result, frame.overlay offset region)

theorem checkBounds_eq_ok_iff {frame : Bytes} {offset length : Nat} :
    checkBounds frame offset length = .ok () ↔
      offset + length ≤ Frame.maxLength ∧ offset + length ≤ frame.length := by
  unfold checkBounds
  split <;> simp <;> omega

/-- A transfer keeps the length of the frame. -/
theorem length_transfer (frame : Bytes) (offset length : Nat) (timeout : UInt32) (s : σ) :
    (transfer frame offset length timeout s).1.2.length = frame.length := by
  unfold transfer
  cases bounds : checkBounds frame offset length with
  | error cause => rfl
  | ok =>
    have inside := (checkBounds_eq_ok_iff.mp bounds).2
    have kept := length_exchange offset (frame.slice offset length) timeout s
    rw [Bytes.length_slice inside] at kept
    apply Bytes.length_overlay
    exact kept.symm ▸ inside

end Transport

end SecureElement
