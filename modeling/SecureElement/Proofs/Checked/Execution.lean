import SecureElement.Proofs.Checked.Command
import SecureElement.Proofs.Checked.Device

/-!
Accesses while a command is executed.

A command is written into the packet buffer, sealed there, and its result is collected
and opened there. That it fits is decided in the refusal, before anything is written;
how much of the buffer a result fills is decided by the chip. Where something fails,
other bytes are left in the buffer than where results are kept apart from it
(`Device.Same`); that is the only difference (`Device.checkedExecute_endsAs`).
-/

namespace SecureElement

open Checked CheckedM

/-! ### Buffers -/

namespace Bytes

/-- A piece that is written into the front of a buffer is written into the buffer. -/
theorem overlay_front {buffer piece : Bytes} {offset count : Nat}
    (inside : offset + piece.length ≤ count) (fits : count ≤ buffer.length) :
    overlay buffer 0 (overlay (buffer.take count) offset piece) = overlay buffer offset piece := by
  have front : (buffer.take count).length = count := List.length_take_of_le fits
  have kept : (overlay (buffer.take count) offset piece).length = count :=
    (length_overlay (front.symm ▸ inside)).trans front
  have behind : (buffer.take count).drop (offset + piece.length) ++ buffer.drop count =
      buffer.drop (offset + piece.length) := by
    rw [← List.drop_append_of_le_length (front.symm ▸ inside), List.take_append_drop]
  rw [overlay, kept, Nat.zero_add, List.take_zero, List.nil_append, overlay, List.take_take,
    Nat.min_eq_left (by omega), List.append_assoc, behind, overlay]

/-- What is written over a piece replaces it. -/
theorem overlay_covered {buffer piece front : Bytes} {offset : Nat}
    (within : offset + piece.length ≤ buffer.length)
    (covers : offset + piece.length ≤ front.length) :
    (buffer.overlay offset piece).overlay 0 front = buffer.overlay 0 front := by
  have before : (buffer.take offset ++ piece).length = offset + piece.length := by
    rw [List.length_append, List.length_take, Nat.min_eq_left (by omega)]
  have behind : (buffer.overlay offset piece).drop (0 + front.length) =
      buffer.drop (0 + front.length) := by
    rw [overlay, List.drop_append, List.drop_eq_nil_of_le (by omega), List.nil_append, before,
      List.drop_drop]
    congr 1
    omega
  rw [overlay, behind]
  rfl

end Bytes

section

variable [Primitives] {spoil : Bytes → Bytes}

/-- A buffer keeps its length when a packet in it is sealed. -/
theorem Session.length_protectInPlace (session : Session) (buffer : Bytes) (length : Nat) :
    (session.protectInPlace buffer length).2.1.length = buffer.length := by
  obtain ⟨two, sixteen, eighteen⟩ := sizes
  unfold protectInPlace
  split
  · rfl
  rename_i fits
  split
  · rfl
  have sized : (buffer.overlay 0 (Bytes.littleEndian sizeLength length)).length = buffer.length :=
    Bytes.length_overlay (by rw [Bytes.length_littleEndian]; omega)
  dsimp only
  split
  · exact sized
  · rename_i cipher tag encrypted
    have count : cipher.length = length :=
      (Aead.length_encrypt encrypted).trans (Bytes.length_slice (by omega))
    have kept : ((buffer.overlay 0 (Bytes.littleEndian sizeLength length)).overlay sizeLength
        cipher).length = buffer.length := (Bytes.length_overlay (by omega)).trans sized
    exact (Bytes.length_overlay (by rw [tag.property]; omega)).trans kept

/-- A frame keeps its length when it is opened. -/
theorem Session.length_unprotectInPlace (session : Session)
    (spoils : ∀ frame, (spoil frame).length = frame.length) (frame : Bytes) :
    (session.unprotectInPlace spoil frame).2.1.length = frame.length := by
  cases opens : session.unprotect frame with
  | ok outcome =>
    rw [unprotectInPlace_of_ok spoil opens]
    exact Bytes.length_overlay (length_le_of_unprotect opens)
  | error cause =>
    unfold unprotectInPlace
    dsimp only
    split
    · rfl
    split
    · rfl
    split
    · rfl
    split
    · exact spoils frame
    · rename_i decrypted
      refine Bytes.length_overlay ?_
      rw [Aead.length_decrypt decrypted, Bytes.length_slice] <;> (unfold overhead at *; omega)

/-- Opens the frame in the first `count` bytes of a buffer. -/
def Session.checkedOpen (spoil : Bytes → Bytes) (session : Session) (buffer : Bytes) (count : Nat) :
    Checked (Except SessionError Nat × Bytes × Session) := do
  let frame ← part buffer 0 count
  let (result, frame, session) ← session.checkedUnprotect spoil frame
  return (result, ← copy buffer 0 count frame, session)

variable {session after : Session} {buffer packet : Bytes} {count : Nat} {cause : SessionError}

theorem Session.checkedOpen_eq (spoils : ∀ frame, (spoil frame).length = frame.length)
    (inside : count ≤ buffer.length) :
    session.checkedOpen spoil buffer count =
      let (result, frame, after) := session.unprotectInPlace spoil (buffer.take count)
      .ok (result, buffer.overlay 0 frame, after) := by
  have kept := session.length_unprotectInPlace spoils (buffer.take count)
  rw [List.length_take_of_le inside] at kept
  rw [checkedOpen, part_eq (Nat.zero_le _) inside, ok_bind, Nat.sub_zero, Bytes.slice,
    List.drop_zero, checkedUnprotect_eq, ok_bind]
  dsimp only
  rw [copy_eq kept (Nat.zero_le _) inside, ok_bind]
  rfl

theorem Session.checkedOpen_of_ok (spoils : ∀ frame, (spoil frame).length = frame.length)
    (inside : count ≤ buffer.length)
    (opens : session.unprotect (buffer.take count) = .ok (packet, after)) :
    session.checkedOpen spoil buffer count =
      .ok (.ok packet.length, buffer.overlay sizeLength packet, after) := by
  have within := length_le_of_unprotect opens
  rw [List.length_take_of_le inside] at within
  rw [checkedOpen_eq spoils inside, unprotectInPlace_of_ok spoil opens]
  dsimp only
  rw [Bytes.overlay_front within inside]

theorem Session.checkedOpen_of_error (spoils : ∀ frame, (spoil frame).length = frame.length)
    (inside : count ≤ buffer.length)
    (opens : session.unprotect (buffer.take count) = .error cause) :
    ∃ left, left.length = buffer.length ∧
      session.checkedOpen spoil buffer count = .ok (.error cause, left, session) := by
  obtain ⟨left, same⟩ := unprotectInPlace_of_error spoil opens
  have kept := session.length_unprotectInPlace spoils (buffer.take count)
  rw [same, List.length_take_of_le inside] at kept
  refine ⟨buffer.overlay 0 left, Bytes.length_overlay (by dsimp only at kept; omega), ?_⟩
  rw [checkedOpen_eq spoils inside, same]

end

namespace Device

variable {σ : Type}

/-! ### Refusals -/

/-- Why a command is refused before anything is sent. -/
def checkedRefusal (device : Device σ) (command : Command) : Checked (Option Error) := do
  let length ← command.checkedDataLength
  if command.maxDataLength < length then
    return some (.capacity length command.maxDataLength)
  else
    let packetLength ← add 64 1 length
    let frameLength ← add 64 (← add 64 Session.sizeLength packetLength) Session.tagLength
    let result ← add 64 (Session.sizeLength + 1) (← command.checkedResponseLength)
    let resultLength ← add 64 result Session.tagLength
    let needed := max frameLength resultLength
    if device.buffer.length < needed then return some (.capacity needed device.buffer.length)
    else if device.session.isNone then return some .noSession
    else return none

theorem checkedRefusal_eq (device : Device σ) {command : Command}
    (short : command.payload.length < 2 ^ 63) :
    checkedRefusal device command = .ok (refusal? device command) := by
  obtain ⟨two, sixteen, eighteen⟩ := Session.sizes
  unfold checkedRefusal refusal?
  rw [Command.checkedDataLength_eq short, ok_bind]
  by_cases long : command.maxDataLength < command.dataLength
  · rw [if_pos long, if_pos long]
    rfl
  have few := command.maxDataLength_le
  have few' := Command.responseLength_le (Nat.le_of_not_lt long)
  simp only [Limit.message] at few
  simp only [Limit.ping] at few'
  have needed : max (2 + (1 + command.dataLength) + 16) (3 + command.responseLength + 16) =
      frameLength command := by
    rw [frameLength]
    omega
  rw [if_neg long, if_neg long, add_eq (by omega), ok_bind, add_eq (by omega), ok_bind,
    add_eq (by omega), ok_bind, Command.checkedResponseLength_eq, ok_bind, add_eq (by omega),
    ok_bind, add_eq (by omega), ok_bind, two, sixteen, needed]
  dsimp only
  split
  · rfl
  · split <;> rfl

/-! ### Exchanges -/

/-- Writes the packet of a command into the packet buffer. -/
def checkedWrite (command : Command) (buffer : Bytes) (packetLength : Nat) : Checked Bytes := do
  let buffer ← put buffer Session.sizeLength command.id
  let start ← add 64 Session.sizeLength 1
  let stop ← add 64 Session.sizeLength packetLength
  let data ← command.checkedEncode (← part buffer start stop)
  copy buffer start stop data

theorem checkedWrite_eq {command : Command} {buffer : Bytes} (small : buffer.length < 2 ^ 63)
    (room : Session.sizeLength + command.packet.length ≤ buffer.length) :
    checkedWrite command buffer command.packet.length =
      .ok (buffer.overlay Session.sizeLength command.packet) := by
  have two : Session.sizeLength = 2 := rfl
  have length := command.length_packet
  have data := command.length_encode
  have kept : (buffer.overlay Session.sizeLength [command.id]).length = buffer.length :=
    Bytes.length_overlay (by rw [List.length_singleton]; omega)
  have joined : (buffer.overlay Session.sizeLength [command.id]).overlay
      (Session.sizeLength + [command.id].length) command.encode =
        buffer.overlay Session.sizeLength ([command.id] ++ command.encode) :=
    Bytes.overlay_overlay (by rw [List.length_singleton]; omega)
  rw [checkedWrite, put_eq (by omega), ok_bind, add_eq (by omega), ok_bind, add_eq (by omega),
    ok_bind, part_eq (by omega) (by omega), ok_bind,
    Command.checkedEncode_eq (by rw [Bytes.length_slice] <;> omega), ok_bind,
    copy_eq (by omega) (by omega) (by omega)]
  exact congrArg _ joined

variable [Transport σ] [Primitives] (spoil : Bytes → Bytes) (frames : Nat)

/-- Sends a command and receives its result; returns the length of the result packet,
which is then found in the packet buffer. -/
def checkedExchange (command : Command) (packetLength : Nat) (device : Device σ) :
    Checked (Option (Except Error Nat × Device σ)) :=
  match device.session with
  | none => return some (.error .noSession, device)
  | some session => do
    let written ← checkedWrite command device.buffer packetLength
    match ← session.checkedProtect written packetLength with
    | (.error cause, buffer, session) =>
      return some (.error (.session cause), { device with buffer, session := some session })
    | (.ok length, buffer, session) =>
      let frame ← part buffer 0 length
      match ← trial (Link.checkedSendEncrypted device.config frame) device.bus with
      | (.error e, bus) =>
        return some
          (.error (rejectedByChip e), { device with bus, buffer, session := some session })
      | (.ok (), bus) =>
        match ← Link.checkedCollect device.config frames buffer 0 bus with
        | (none, _) => return none
        | (some (.error e, buffer), bus) =>
          return some
            (.error (rejectedByChip e), { device with bus, buffer, session := some session })
        | (some (.ok count, buffer), bus) =>
          let (result, buffer, session) ← session.checkedOpen spoil buffer count
          return some
            (result.mapError .session, { device with bus, buffer, session := some session })

/-- An exchange in the packet buffer ends as the exchange does: a packet that was
opened stands in the buffer; where something failed, other bytes may stand there. -/
inductive Opened : Option (Except Error Bytes × Device σ) → Option (Except Error Nat × Device σ) →
    Prop
  | endless : Opened none none
  | failed {e : Error} {after : Device σ} {buffer : Bytes}
      (same : buffer.length = after.buffer.length) :
      Opened (some (.error e, after)) (some (.error e, { after with buffer }))
  | opened {packet : Bytes} {after : Device σ} :
      Opened (some (.ok packet, after)) (some (.ok packet.length,
        { after with buffer := after.buffer.overlay Session.sizeLength packet }))

variable {spoil} {device : Device σ} {command : Command}

theorem checkedExchange_opened (framed : device.bus.Framed) (small : device.buffer.length < 2 ^ 63)
    (spoils : ∀ frame, (spoil frame).length = frame.length)
    (accepted : refusal? device command = none) :
    ∃ outcome, checkedExchange spoil frames command command.packet.length device = .ok outcome ∧
      Opened (attempt (exchange frames command) device) outcome := by
  obtain ⟨host, held⟩ := session_of_refusal accepted
  have room := (room_for_command accepted).2
  rw [Session.overhead] at room
  have written : (device.buffer.overlay Session.sizeLength command.packet).length =
      device.buffer.length := Bytes.length_overlay (by omega)
  rw [attempt_exchange_phases held, checkedExchange, held]
  dsimp only
  rw [checkedWrite_eq small (by omega), ok_bind, Session.checkedProtect_eq (by omega), ok_bind]
  cases sealed : host.protect (device.buffer.overlay Session.sizeLength command.packet)
      command.packet.length with
  | error cause =>
    obtain ⟨left, same⟩ := Session.protectInPlace_of_error sealed
    have length := host.length_protectInPlace
      (device.buffer.overlay Session.sizeLength command.packet) command.packet.length
    rw [same] at length ⊢
    refine ⟨_, rfl, ?_⟩
    rw [← held]
    exact .failed length
  | ok outcome =>
    obtain ⟨length, buffer, sealing⟩ := outcome
    have kept := (Session.length_of_protect sealed).trans written
    obtain ⟨-, fits, -, -, -, -, rfl, -⟩ := Session.of_protect_eq_ok sealed
    rw [Session.protectInPlace_of_ok sealed]
    dsimp only
    rw [part_eq (Nat.zero_le _) (by omega), ok_bind, Nat.sub_zero, Bytes.slice, List.drop_zero,
      Link.agrees_sendEncrypted _ (by rw [List.length_take]; omega) _ framed, ok_bind]
    rcases sends : perform (Link.sendEncrypted device.config
        (buffer.take (command.packet.length + Session.overhead))) device.bus with ⟨e | _, sent⟩
    · exact ⟨_, rfl, .failed rfl⟩
    have framed' := (Link.behaves_sendEncrypted _ _).kept framed sends
    dsimp only
    rw [Link.checkedCollect_eq _ framed' (Nat.zero_le _) (by omega), ok_bind, Link.receiveEncrypted]
    rcases collects : (Link.collect device.config frames buffer 0).run sent with
      ⟨_ | ⟨e | count, collected⟩, bus⟩
    · exact ⟨_, rfl, .endless⟩
    · exact ⟨_, rfl, .failed rfl⟩
    obtain ⟨-, kept', inside⟩ := Link.collect_behaves framed' collects
    have inside := inside count rfl
    dsimp only
    cases opens : sealing.unprotect (collected.take count) with
    | error cause =>
      obtain ⟨left, same, opened⟩ := Session.checkedOpen_of_error spoils (by omega) opens
      rw [opened, ok_bind]
      exact ⟨_, rfl, .failed same⟩
    | ok outcome =>
      obtain ⟨packet, opening⟩ := outcome
      rw [Session.checkedOpen_of_ok spoils (by omega) opens, ok_bind]
      exact ⟨_, rfl, .opened⟩

/-! ### Commands -/

/-- Executes a command and reads its result. -/
def checkedExecute (spoil : Bytes → Bytes) (frames : Nat) (command : Command) (device : Device σ) :
    Checked (Option (Except Error command.Response × Device σ)) := do
  match ← checkedRefusal device command with
  | some e => return some (.error e, device)
  | none =>
    let packetLength ← add 64 1 (← command.checkedDataLength)
    match ← checkedExchange spoil frames command packetLength device with
    | none => return none
    | some (.error e, device) => return some (.error e, device.endSession .aborted)
    | some (.ok length, device) =>
      let stop ← add 64 Session.sizeLength length
      let packet ← part device.buffer Session.sizeLength stop
      let result ← command.checkedDecodePacket packet
      let buffer ← fill device.buffer 0 stop 0
      return some (result, { device with buffer })

/-- The outcomes of two runs are the same but for the bytes that are left in the packet
buffer. -/
inductive Same {α : Type} :
    Option (Except Error α × Device σ) → Option (Except Error α × Device σ) → Prop
  | endless : Same none none
  | ended {result : Except Error α} {after : Device σ} {buffer : Bytes}
      (same : buffer.length = after.buffer.length) :
      Same (some (result, after)) (some (result, { after with buffer }))

/-- The checked run does not fault, and ends as the plain run does. -/
def EndsAs {α : Type} (checked : Checked (Option (Except Error α × Device σ)))
    (plain : Option (Except Error α × Device σ)) : Prop :=
  ∃ outcome, checked = .ok outcome ∧ Same plain outcome

/-- A command is executed without a fault. -/
theorem checkedExecute_endsAs (framed : device.bus.Framed) (small : device.buffer.length < 2 ^ 63)
    (spoils : ∀ frame, (spoil frame).length = frame.length)
    (short : command.payload.length < 2 ^ 63) :
    EndsAs (checkedExecute spoil frames command device)
      (attempt (execute frames command) device) := by
  rw [EndsAs, checkedExecute, checkedRefusal_eq device short, ok_bind]
  cases accepted : refusal? device command with
  | some e =>
    rw [attempt_execute_of_refusal accepted]
    exact ⟨_, rfl, .ended rfl⟩
  | none =>
    have two : Session.sizeLength = 2 := rfl
    have length := command.length_packet
    have room := (room_for_command accepted).2
    rw [Session.overhead] at room
    obtain ⟨outcome, exchanged, opened⟩ :=
      checkedExchange_opened frames framed small spoils accepted
    dsimp only
    rw [Command.checkedDataLength_eq short, ok_bind, add_eq (by omega), ok_bind, ← length,
      exchanged, ok_bind, attempt_execute accepted]
    generalize ran : attempt (exchange frames command) device = plain at opened
    cases opened with
    | endless => exact ⟨_, rfl, .endless⟩
    | failed same => exact ⟨_, rfl, .ended same⟩
    | @opened packet after =>
      obtain ⟨host, held⟩ := session_of_refusal accepted
      have exchange := exchange_cases held ran
      have inside := exchange.packet_le rfl
      obtain ⟨-, kept⟩ := exchange.kept framed (by omega)
      have placed : (after.buffer.overlay Session.sizeLength packet).length = after.buffer.length :=
        Bytes.length_overlay inside
      have blanks : (List.replicate (Session.sizeLength + packet.length) (0 : UInt8)).length =
          Session.sizeLength + packet.length := List.length_replicate
      -- The blanks cover the packet that stands in the buffer, so it leaves no trace.
      dsimp only
      rw [add_eq (by omega), ok_bind, part_eq (by omega) (by omega), ok_bind,
        Nat.add_sub_cancel_left, Bytes.slice_overlay (by omega), Command.checkedDecodePacket_eq,
        ok_bind, fill_eq (by omega) (by omega), ok_bind, Nat.sub_zero,
        Bytes.overlay_covered inside (Nat.le_of_eq blanks.symm)]
      exact ⟨_, rfl, .ended rfl⟩

end Device

end SecureElement
