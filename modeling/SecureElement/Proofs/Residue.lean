import SecureElement.Proofs.Checked.Execution
import SecureElement.Proofs.Outcomes

/-!
What earlier packets leave in the packet buffer.

The packet buffer holds one packet after the other, and nothing clears it before the
next. Encoding a command writes every byte of its data, protecting a packet writes
every byte of its frame, and what is opened are the bytes that were collected. So two
runs of a command that find other bytes in the buffer send the same and return the
same (`Device.execute_holding`).
-/

namespace SecureElement

open Checked

/-! ### Packets -/

namespace Session

variable [Primitives] (session : Session) {buffer other : Bytes} {length : Nat}

/-- The frame of a packet, for which there has to be room, and the session after it. -/
def enclose (room : Nat) (packet : Bytes) (length : Nat) : Except SessionError (Bytes × Session) :=
  if maxSize < length ∨ room < length + overhead then .error .malformedFrame
  else do
    let nonce ← session.sending.nextNonce
    let (cipher, tag) ← Aead.encrypt session.suite session.sending.key nonce [] packet
    return (Bytes.littleEndian sizeLength length ++ cipher ++ tag.val,
      { session with sending := session.sending.advance })

/-- Of the buffer, protecting a packet looks at the packet and at the room. -/
theorem protect_eq (buffer : Bytes) (length : Nat) :
    session.protect buffer length =
      (session.enclose buffer.length (buffer.slice sizeLength length) length).map
        fun (frame, after) => (length + overhead, buffer.overlay 0 frame, after) := by
  unfold protect enclose
  split
  · rfl
  cases session.sending.nextNonce with
  | error cause => rfl
  | ok nonce =>
    dsimp only [bind, Except.bind]
    cases Aead.encrypt session.suite session.sending.key nonce []
      (buffer.slice sizeLength length) <;> rfl

/-- The frame of a packet depends on the packet, not on what else is in the buffer. -/
theorem protect_alike (same : other.length = buffer.length)
    (packet : other.slice sizeLength length = buffer.slice sizeLength length) :
    (∃ cause, session.protect buffer length = .error cause ∧
      session.protect other length = .error cause) ∨
    ∃ frame after, frame.length = length + overhead ∧
      session.protect buffer length = .ok (length + overhead, buffer.overlay 0 frame, after) ∧
      session.protect other length = .ok (length + overhead, other.overlay 0 frame, after) := by
  cases sealed : session.protect buffer length with
  | error cause =>
    refine .inl ⟨cause, rfl, ?_⟩
    rw [protect_eq] at sealed ⊢
    rw [same, packet]
    cases enclosed : session.enclose buffer.length (buffer.slice sizeLength length) length with
    | error other =>
      rw [enclosed] at sealed
      cases sealed
      rfl
    | ok made =>
      rw [enclosed] at sealed
      cases sealed
  | ok outcome =>
    obtain ⟨size, written, after⟩ := outcome
    obtain ⟨short, room, more, cipher, tag, encrypted, rfl, rfl, rfl⟩ := of_protect_eq_ok sealed
    have count : cipher.length = length := by
      rw [Primitives.length_encrypt? encrypted]
      exact Bytes.length_slice (by unfold overhead at room; omega)
    rw [← packet] at encrypted
    refine .inr ⟨Session.sealed cipher tag, _, ?_, rfl,
      protect_eq_ok short (same ▸ room) more encrypted⟩
    rw [length_sealed, count]

/-- Behind the frame nothing is written. -/
theorem drop_protectInPlace (buffer : Bytes) (length : Nat) :
    (session.protectInPlace buffer length).2.1.drop (length + overhead) =
      buffer.drop (length + overhead) := by
  obtain ⟨two, sixteen, eighteen⟩ := sizes
  unfold protectInPlace
  split
  · rfl
  rename_i fits
  split
  · rfl
  have field : (Bytes.littleEndian sizeLength length).length = sizeLength := by simp
  have kept : (buffer.overlay 0 (Bytes.littleEndian sizeLength length)).length = buffer.length :=
    Bytes.length_overlay (by omega)
  have sized : (buffer.overlay 0 (Bytes.littleEndian sizeLength length)).drop
      (length + overhead) = buffer.drop (length + overhead) :=
    Bytes.drop_overlay (Nat.zero_le _) (by omega)
  dsimp only
  split
  · exact sized
  · rename_i cipher tag encrypted
    have count : cipher.length = length :=
      (Aead.length_encrypt encrypted).trans (Bytes.length_slice (by omega))
    have kept' : ((buffer.overlay 0 (Bytes.littleEndian sizeLength length)).overlay sizeLength
        cipher).length = buffer.length := (Bytes.length_overlay (by omega)).trans kept
    dsimp only
    rw [Bytes.drop_overlay (by omega) (by rw [tag.property]; omega),
      Bytes.drop_overlay (by omega) (by omega), sized]

/-- What is written in front is the frame, whatever stood there. -/
theorem protectInPlace_alike (same : other.length = buffer.length)
    (packet : other.slice sizeLength length = buffer.slice sizeLength length) :
    (session.protectInPlace other length).1 = (session.protectInPlace buffer length).1 ∧
      (session.protectInPlace other length).2.2 = (session.protectInPlace buffer length).2.2 ∧
      ∀ size, (session.protectInPlace buffer length).1 = .ok size → size = length + overhead ∧
        (session.protectInPlace other length).2.1.take size =
          (session.protectInPlace buffer length).2.1.take size := by
  obtain ⟨cause, failed, failed'⟩ | ⟨frame, after, size, sealed, sealed'⟩ :=
    session.protect_alike same packet
  · obtain ⟨left, written⟩ := protectInPlace_of_error failed
    obtain ⟨left', written'⟩ := protectInPlace_of_error failed'
    rw [written, written']
    exact ⟨rfl, rfl, nofun⟩
  · rw [protectInPlace_of_ok sealed, protectInPlace_of_ok sealed']
    refine ⟨rfl, rfl, ?_⟩
    rintro _ ⟨⟩
    rw [← size, Bytes.take_overlay_zero, Bytes.take_overlay_zero]
    exact ⟨rfl, rfl⟩

/-- What is opened are the first `count` bytes of the buffer, and behind them nothing is
read or written. -/
theorem checkedOpen_alike {spoil : Bytes → Bytes} {count : Nat}
    (spoils : ∀ frame, (spoil frame).length = frame.length) (inside : count ≤ buffer.length)
    (inside' : count ≤ other.length) (front : other.take count = buffer.take count) :
    ∃ result left left' after,
      session.checkedOpen spoil buffer count = .ok (result, left, after) ∧
      session.checkedOpen spoil other count = .ok (result, left', after) ∧
      left'.take count = left.take count ∧ left.drop count = buffer.drop count ∧
      left'.drop count = other.drop count := by
  have kept := session.length_unprotectInPlace spoils (buffer.take count)
  rw [checkedOpen_eq spoils inside, checkedOpen_eq spoils inside', front]
  rw [List.length_take_of_le inside] at kept
  generalize session.unprotectInPlace spoil (buffer.take count) = opened at kept ⊢
  obtain ⟨result, frame, after⟩ := opened
  dsimp only at kept ⊢
  refine ⟨_, _, _, _, rfl, rfl, ?_, Bytes.drop_overlay (Nat.zero_le _) (by omega),
    Bytes.drop_overlay (Nat.zero_le _) (by omega)⟩
  rw [← kept, Bytes.take_overlay_zero, Bytes.take_overlay_zero]

end Session

/-! ### Collecting -/

namespace Link

variable {σ : Type} [Transport σ]

/-- Two runs of collecting a result: the same was read and the same is reported, and the
buffers agree where they hold a result. -/
inductive AlikeResults :
    Option (Except Error Nat × Bytes) × Bus σ → Option (Except Error Nat × Bytes) × Bus σ → Prop
  | endless {after : Bus σ} : AlikeResults (none, after) (none, after)
  | ended {result : Except Error Nat} {buffer other : Bytes} {after : Bus σ}
      (same : other.length = buffer.length)
      (front : ∀ count, result = .ok count → other.take count = buffer.take count) :
      AlikeResults (some (result, buffer), after) (some (result, other), after)

/-- What is collected does not depend on what the buffer holds where nothing has been
collected. -/
theorem collect_alikeResults {out other : Bytes} {length : Nat} (c : Config) (frames : Nat)
    (bus : Bus σ) (same : other.length = out.length) (inside : length ≤ out.length)
    (front : other.take length = out.take length) :
    AlikeResults ((collect c frames out length).run bus)
      ((collect c frames other length).run bus) := by
  induction frames generalizing out other length bus with
  | zero => exact .endless
  | succ frames ih =>
    rw [run_collect, run_collect, same]
    rcases perform (receive c) bus with ⟨e | reply, after⟩
    · exact .ended same nofun
    dsimp only
    have lengths := Bytes.length_overlay_alike same length reply.data
    have fronts : (other.overlay length reply.data).take (length + reply.data.length) =
        (out.overlay length reply.data).take (length + reply.data.length) := by
      rw [Bytes.take_overlay (same ▸ inside), Bytes.take_overlay inside, front]
    split
    case isFalse => exact .ended same nofun
    split
    case isTrue => exact .ended same nofun
    case isFalse fits =>
      have fits := Nat.le_of_not_lt fits
      split
      case isTrue =>
        refine .ended lengths ?_
        rintro _ ⟨⟩
        exact fronts
      case isFalse => exact ih after lengths (by rw [Bytes.length_overlay fits]; exact fits) fronts

end Link

/-! ### Commands -/

namespace Device

variable {σ : Type}

/-- The device with other bytes left in its packet buffer. -/
def holding (device : Device σ) (residue : Octets device.buffer.length) : Device σ :=
  { device with buffer := residue.val }

theorem Same.symm {α : Type} {left right : Option (Except Error α × Device σ)}
    (alike : Same left right) : Same right left := by
  cases alike with
  | endless => exact .endless
  | ended same => exact .ended same.symm

theorem Same.trans {α : Type} {left middle right : Option (Except Error α × Device σ)}
    (first : Same left middle) (second : Same middle right) : Same left right := by
  cases first with
  | endless => exact second
  | ended same =>
    cases second with
    | ended same' => exact .ended (same'.trans same)

section

variable {device : Device σ} {command : Command} {host : Session}

/-- The packet of a command is written the same whatever is left in the buffer. -/
theorem packet_holding (command : Command)
    (room : Session.sizeLength + command.packet.length ≤ device.buffer.length)
    (residue : Octets device.buffer.length) :
    (residue.val.overlay Session.sizeLength command.packet).length =
        (device.buffer.overlay Session.sizeLength command.packet).length ∧
      (residue.val.overlay Session.sizeLength command.packet).slice Session.sizeLength
          command.packet.length =
        (device.buffer.overlay Session.sizeLength command.packet).slice Session.sizeLength
          command.packet.length := by
  refine ⟨Bytes.length_overlay_alike residue.property _ _, ?_⟩
  rw [Bytes.slice_overlay (by rw [residue.property]; omega), Bytes.slice_overlay (by omega)]

theorem refusal?_holding (residue : Octets device.buffer.length) :
    refusal? (device.holding residue) command = refusal? device command := by
  rw [refusal?, refusal?, holding, residue.property]

variable [Primitives]

theorem protectCommand_holding (accepted : refusal? device command = none)
    (residue : Octets device.buffer.length) :
    (perform (protectCommand command) (device.holding residue)).1 =
      (perform (protectCommand command) device).1 := by
  obtain ⟨host, held⟩ := session_of_refusal accepted
  have room := (room_for_command accepted).2
  rw [Session.overhead] at room
  obtain ⟨lengths, packets⟩ := packet_holding command (by omega) residue
  have held' : (device.holding residue).session = some host := held
  rw [perform_protectCommand_eq held, perform_protectCommand_eq held']
  dsimp only [holding]
  obtain ⟨cause, failed, failed'⟩ | ⟨frame, after, size, sealed, sealed'⟩ :=
    host.protect_alike lengths packets
  · rw [failed, failed']
  · rw [sealed, sealed', ← size]
    dsimp only
    rw [Bytes.take_overlay_zero, Bytes.take_overlay_zero]

variable [Transport σ]

theorem exchange_holding (frames : Nat) (held : device.session = some host)
    (room : Session.sizeLength + command.packet.length ≤ device.buffer.length)
    (residue : Octets device.buffer.length) :
    Same (attempt (exchange frames command) device)
      (attempt (exchange frames command) (device.holding residue)) := by
  obtain ⟨lengths, packets⟩ := packet_holding command room residue
  have held' : (device.holding residue).session = some host := held
  rw [attempt_exchange_phases held, attempt_exchange_phases held']
  dsimp only [holding]
  obtain ⟨cause, failed, failed'⟩ | ⟨frame, after, size, sealed, sealed'⟩ :=
    host.protect_alike lengths packets
  · rw [failed, failed']
    exact .ended lengths
  rw [sealed, sealed', ← size]
  dsimp only
  rw [Bytes.take_overlay_zero, Bytes.take_overlay_zero]
  have kept := Bytes.length_overlay_alike lengths 0 frame
  rcases perform (Link.sendEncrypted device.config frame) device.bus with ⟨e | _, sent⟩
  · exact .ended kept
  dsimp only [Link.receiveEncrypted]
  have collected := Link.collect_alikeResults device.config frames sent kept (Nat.zero_le _)
    (List.take_zero.trans List.take_zero.symm)
  generalize (Link.collect device.config frames _ 0).run sent = run at collected ⊢
  generalize (Link.collect device.config frames _ 0).run sent = run' at collected ⊢
  cases collected with
  | endless => exact .endless
  | @ended result _ _ _ same front =>
    cases result with
    | error e => exact .ended same
    | ok count =>
      dsimp only
      rw [front count rfl]
      rcases after.unprotect _ with cause | ⟨packet, opening⟩
      · exact .ended same
      · exact .ended same

theorem attempt_execute_holding (frames : Nat) (command : Command)
    (residue : Octets device.buffer.length) :
    Same (attempt (execute frames command) device)
      (attempt (execute frames command) (device.holding residue)) := by
  cases accepted : refusal? device command with
  | some e =>
    rw [attempt_execute_of_refusal accepted,
      attempt_execute_of_refusal ((refusal?_holding residue).trans accepted)]
    exact .ended residue.property
  | none =>
    obtain ⟨host, held⟩ := session_of_refusal accepted
    have room := (room_for_command accepted).2
    rw [Session.overhead] at room
    rw [attempt_execute accepted, attempt_execute ((refusal?_holding residue).trans accepted)]
    have exchanged := exchange_holding frames held
      (show Session.sizeLength + command.packet.length ≤ _ by omega) residue
    generalize attempt (exchange frames command) device = run at exchanged ⊢
    generalize attempt (exchange frames command) (device.holding residue) = run' at exchanged ⊢
    cases exchanged with
    | endless => exact .endless
    | @ended result after buffer same =>
      cases result with
      | error e => exact .ended same
      | ok packet => exact .ended (Bytes.length_overlay_alike same _ _)

/-- Nothing that is left in the packet buffer has an effect on a command: with other
bytes there it hands on the same frame to be sent, returns the same result and leaves the
transport in the same state, also where it is sealed and opened in the buffer. For a
command is encoded into every byte of its data; a packet is sealed into every byte of its
frame, and into no other; and a frame is opened from its own bytes. -/
theorem execute_holding (frames : Nat) (command : Command) {spoil : Bytes → Bytes}
    (framed : device.bus.Framed)
    (small : device.buffer.length < 2 ^ 63) (spoils : ∀ frame, (spoil frame).length = frame.length)
    (short : command.payload.length < 2 ^ 63) (residue : Octets device.buffer.length) :
    Same (attempt (execute frames command) device)
        (attempt (execute frames command) (device.holding residue)) ∧
      (refusal? device command = none →
        (perform (protectCommand command) (device.holding residue)).1 =
          (perform (protectCommand command) device).1) ∧
      (∃ outcome outcome', checkedExecute spoil frames command device = .ok outcome ∧
        checkedExecute spoil frames command (device.holding residue) = .ok outcome' ∧
        Same outcome outcome') ∧
      (∀ region : Octets command.dataLength,
        command.checkedEncode region.val = .ok command.encode) ∧
      (∀ (session : Session) (buffer : Bytes) (length : Nat),
        (session.protectInPlace buffer length).2.1.drop (length + Session.overhead) =
          buffer.drop (length + Session.overhead) ∧
        ∀ other : Bytes, other.length = buffer.length →
          other.slice Session.sizeLength length = buffer.slice Session.sizeLength length →
          (session.protectInPlace other length).1 = (session.protectInPlace buffer length).1 ∧
          (session.protectInPlace other length).2.2 =
            (session.protectInPlace buffer length).2.2 ∧
          ∀ size, (session.protectInPlace buffer length).1 = .ok size →
            size = length + Session.overhead ∧
            (session.protectInPlace other length).2.1.take size =
              (session.protectInPlace buffer length).2.1.take size) ∧
      ∀ (session : Session) (buffer other : Bytes) (count : Nat), count ≤ buffer.length →
        count ≤ other.length → other.take count = buffer.take count →
        ∃ result left left' after,
          session.checkedOpen spoil buffer count = .ok (result, left, after) ∧
          session.checkedOpen spoil other count = .ok (result, left', after) ∧
          left'.take count = left.take count ∧ left.drop count = buffer.drop count ∧
          left'.drop count = other.drop count := by
  have alike := attempt_execute_holding frames command residue
  refine ⟨alike, fun accepted => protectCommand_holding accepted residue, ?_,
    fun region => Command.checkedEncode_eq region.property,
    fun session buffer length => ⟨session.drop_protectInPlace buffer length,
      fun other same packet => session.protectInPlace_alike same packet⟩,
    fun session buffer other count inside inside' front =>
      session.checkedOpen_alike spoils inside inside' front⟩
  obtain ⟨outcome, ran, ends⟩ := checkedExecute_endsAs frames framed small spoils short
  have framed' : (device.holding residue).bus.Framed := framed
  have small' : (device.holding residue).buffer.length < 2 ^ 63 := by
    rw [holding, residue.property]
    exact small
  obtain ⟨outcome', ran', ends'⟩ := checkedExecute_endsAs frames framed' small' spoils short
  exact ⟨outcome, outcome', ran, ran', (ends.symm.trans alike).trans ends'⟩

end

/-- A ping is answered in a session also if the packet buffer was full of other bytes. -/
theorem counting_holding : ∃ device after : Device Chip,
    attempt (execute 17 (.ping [7])) (device.holding (Octets.replicate _ 0xFF)) =
      some (.ok [7], after) := by
  obtain ⟨-, device, after, started, ran, -⟩ := counting_pings
  obtain ⟨keys, device', started', begun⟩ := counting_begins
  cases started.symm.trans started'
  have small : device.buffer.length < 2 ^ 63 := by
    rw [counting_room begun]
    decide
  have spoils (frame : Bytes) : (id frame).length = frame.length := rfl
  obtain ⟨alike, -⟩ := execute_holding 17 (.ping [7]) (counting_started started).intact.framed
    small spoils (by decide) (Octets.replicate _ 0xFF)
  rw [ran] at alike
  generalize other : attempt (execute 17 (.ping [7])) (device.holding _) = outcome at alike
  cases alike with
  | ended => exact ⟨device, _, other⟩

end Device

end SecureElement
