import SecureElement.Proofs.Changes
import SecureElement.Proofs.Contracts

/-!
What operations do to a device, whatever its transport.

Reading information and light sleep use the bus and change nothing else
(`Device.OnBus`). An attempt to start a session is refused, ends without a session
or begins one (`Device.sessionStart_cases`). A command that is not refused ends the
session or counts one packet in each direction (`Device.execute_cases`).
-/

namespace SecureElement

/-! ### Buffers -/

namespace Session

variable [Primitives] {session after : Session} {buffer written : Bytes} {length size : Nat}

theorem length_of_protect (ok : session.protect buffer length = .ok (size, written, after)) :
    written.length = buffer.length := by
  obtain ⟨-, room, -, cipher, tag, encrypted, -, rfl, -⟩ := of_protect_eq_ok ok
  have count : cipher.length = length := by
    rw [Primitives.length_encrypt? encrypted]
    exact Bytes.length_slice (by unfold overhead at room; omega)
  apply Bytes.length_overlay
  rw [length_sealed, count]
  omega

theorem counted_of_protect (ok : session.protect buffer length = .ok (size, written, after)) :
    after = { session with sending := session.sending.advance } :=
  (of_protect_eq_ok ok).2.2.2.choose_spec.choose_spec.2.2.2

end Session

namespace Device

variable {σ : Type}

/-! ### Operations that only use the bus -/

/-- The device as it was but for its bus. -/
def OnBus (start device : Device σ) : Prop :=
  ∃ bus, bus.Framed ∧ device = { start with bus }

theorem OnBus.refl {device : Device σ} (framed : device.bus.Framed) : OnBus device device :=
  ⟨device.bus, framed, rfl⟩

/-- What an action on the bus promises, it promises on a device. -/
theorem contract_onBus {start : Device σ} {α : Type} {Q : α → Prop} {act : Config → BusM σ α}
    (behaves : ∀ c, Bus.Behaves Q (act c)) : Contract (OnBus start) Q Error.OfLink (onBus act) := by
  rintro _ ⟨bus, framed, rfl⟩
  obtain ⟨kept, returns, fails⟩ := behaves start.config bus framed
  exact ⟨⟨_, kept, rfl⟩, returns, fails⟩

variable [Transport σ]

theorem contract_getInfo {start : Device σ} (object block : UInt8) :
    Contract (OnBus start) (fun data => data.length ≤ Frame.maxData) Error.OfLink
      (onBus fun c => Link.getInfo c object block) :=
  contract_onBus fun c => Link.behaves_transceive c _ _

theorem contract_certificateBlocks {start : Device σ} (count : Nat) (block : UInt8) :
    Contract (OnBus start) (·.length = count * Info.blockLength) Error.OfLink
      (certificateBlocks count block) := by
  induction count generalizing block with
  | zero => exact .pure (Nat.zero_mul _).symm
  | succ count ih =>
    refine .bind (contract_getInfo _ _) fun data _ => ?_
    refine .ite (fun _ => .throw_bind trivial) fun whole => ?_
    refine .bind (ih (block + 1)) fun rest length => .pure ?_
    rw [List.length_append, Decidable.of_not_not whole, length, Nat.succ_mul, Nat.add_comm]

/-- A certificate that is read is complete. -/
theorem contract_certificate {start : Device σ} :
    Contract (OnBus start) (·.length = Info.certificateLength) Error.OfLink certificate :=
  contract_certificateBlocks _ _

theorem contract_chipId {start : Device σ} :
    Contract (OnBus start) (fun _ => True) Error.OfLink chipId := by
  refine .bind (contract_getInfo _ _) fun data _ => ?_
  cases Octets.ofBytes? Info.chipIdLength data with
  | some id => exact .pure trivial
  | none => exact .throw trivial

theorem contract_version {start : Device σ} (object : Info.Object) :
    Contract (OnBus start) (fun _ => True) Error.OfLink (version object) := by
  refine .bind (contract_getInfo _ _) fun data _ => ?_
  cases FirmwareVersion.ofBytes? data with
  | some version => exact .pure trivial
  | none => exact .throw trivial

theorem contract_abort {start : Device σ} :
    Contract (OnBus start) (fun _ => True) Error.OfLink (onBus Link.sessionAbort) :=
  contract_onBus fun c => Link.behaves_discard (Link.behaves_transceive c _ _)

theorem contract_sleep {start : Device σ} (kind : SleepKind) :
    Contract (OnBus start) (fun _ => True) Error.OfLink (onBus fun c => Link.sleep c kind) :=
  contract_onBus fun c => Link.behaves_discard (Link.behaves_transceive c _ _)

theorem contract_startup {start : Device σ} (kind : StartupKind) :
    Contract (OnBus start) (fun _ => True) Error.OfLink (onBus fun c => Link.startup c kind) :=
  contract_onBus fun c => Link.behaves_discard (Link.behaves_transceive c _ _)

/-! ### Starts of sessions -/

variable {device after : Device σ}

theorem perform_checkEntropy_cases (device : Device σ) :
    perform (checkEntropy : DeviceM σ Unit) device = (.ok (), device) ∨
      perform (checkEntropy : DeviceM σ Unit) device =
        (.error (.handshake .weakEntropy), device) := by
  unfold checkEntropy
  rw [perform_bind_ok (perform_get device)]
  split
  · exact .inr rfl
  · exact .inl rfl

variable [Primitives]

/-- What an attempt to start a session comes to, where there is none: it fails and
there is still none, or one begins. -/
inductive Start (device : Device σ) : Except Error Unit → Device σ → Prop
  | failed {e : Error} {bus : Bus σ} (framed : bus.Framed) (other : e ≠ .sessionActive) :
      Start device (.error e) { device with bus, state := .awaitingHandshake }
  | begun {bus : Bus σ} (framed : bus.Framed) (keys : SessionKeys) :
      Start device (.ok ()) { device with
        bus
        state := .established
        session := some (Session.forHost device.config.suite keys) }

omit [Primitives] in
theorem rejectedHandshake_ne {e : Error} (ofLink : e.OfLink) :
    rejectedHandshake e ≠ .sessionActive := by
  unfold rejectedHandshake
  split
  · exact nofun
  · exact ofLink.ne_sessionActive

theorem perform_sessionStart_active (established : device.state = .established) (chipPublic : Key)
    (pairing : Pairing) :
    perform (sessionStart chipPublic pairing) device = (.error .sessionActive, device) := by
  unfold sessionStart
  rw [perform_bind_error (perform_expectNoSession_active established)]

theorem sessionStart_cases {chipPublic : Key} {pairing : Pairing} {result : Except Error Unit}
    (framed : device.bus.Framed) (idle : device.state ≠ .established)
    (performed : perform (sessionStart chipPublic pairing) device = (result, after)) :
    Start device result after := by
  suffices started : Start device (perform (sessionStart chipPublic pairing) device).1
      (perform (sessionStart chipPublic pairing) device).2 by
    rwa [performed] at started
  unfold sessionStart
  rw [perform_bind_ok (perform_expectNoSession idle), perform_bind_ok (perform_modify _ _)]
  rcases perform_checkEntropy_cases { device with state := .awaitingHandshake } with strong | weak
  case inr =>
    rw [perform_bind_error weak]
    exact .failed framed nofun
  rw [perform_bind_ok strong, perform_bind, perform_onBus]
  obtain ⟨kept, -, fails⟩ := Bus.behaves_lift (Transport.random (σ := σ) 32) device.bus framed
  dsimp only
  rcases drawn : perform (Bus.random 32) device.bus with ⟨e | ephemeral, bus⟩
  all_goals
    rw [show perform (Bus.lift (Transport.random 32)) device.bus = _ from drawn] at kept fails
  · exact .failed kept (fails e rfl).ne_sessionActive
  dsimp only
  rw [perform_bind_ok (perform_get _)]
  dsimp only
  rw [perform_bind, perform_tryCatch_throw, perform_onBus]
  obtain ⟨kept', -, fails'⟩ := Link.behaves_transceive device.config RequestId.handshake
    ((Primitives.publicKey ephemeral).val ++ [pairing.slot.byte]) bus kept
  rcases met : perform (Link.transceive device.config RequestId.handshake
    ((Primitives.publicKey ephemeral).val ++ [pairing.slot.byte])) bus with ⟨e | response, bus'⟩
  all_goals rw [met] at kept' fails'
  · have failed : perform (Link.handshake device.config (Primitives.publicKey ephemeral)
        pairing.slot.byte) bus = _ := met
    dsimp only [Initiator.ephemeralPublic]
    rw [failed]
    exact .failed kept' (rejectedHandshake_ne (fails' e rfl))
  · have answered : perform (Link.handshake device.config (Primitives.publicKey ephemeral)
        pairing.slot.byte) bus = _ := met
    dsimp only [Initiator.ephemeralPublic]
    rw [answered]
    dsimp only [mapError_ok]
    split
    · exact .failed kept' nofun
    · exact .begun kept' _

theorem perform_verifyAndStart_active (established : device.state = .established)
    (pairing : Pairing) :
    perform (verifyAndStart pairing) device = (.error .sessionActive, device) := by
  unfold verifyAndStart
  rw [perform_bind_error (perform_expectNoSession_active established)]

/-- What verifying the chip and starting a session comes to, where there is none:
either it stops at the certificate, or it goes on as an attempt to start a session
with the key in it. -/
inductive Verification (device : Device σ) (pairing : Pairing) :
    Except Error Unit → Device σ → Prop
  | stopped {e : Error} {bus : Bus σ} (framed : bus.Framed) (other : e ≠ .sessionActive) :
      Verification device pairing (.error e) { device with bus }
  | started {bytes : Bytes} {chipPublic : Key} {bus : Bus σ} {result : Except Error Unit}
      {after : Device σ} (framed : bus.Framed)
      (read : perform certificate device = (.ok bytes, { device with bus }))
      (found : Info.staticKey bytes = .ok chipPublic)
      (start : perform (sessionStart chipPublic pairing) { device with bus } = (result, after)) :
      Verification device pairing result after

theorem verifyAndStart_cases {pairing : Pairing} {result : Except Error Unit}
    (framed : device.bus.Framed) (idle : device.state ≠ .established)
    (performed : perform (verifyAndStart pairing) device = (result, after)) :
    Verification device pairing result after := by
  suffices verified : Verification device pairing (perform (verifyAndStart pairing) device).1
      (perform (verifyAndStart pairing) device).2 by
    rwa [performed] at verified
  obtain ⟨⟨bus, kept, same⟩, -, fails⟩ := contract_certificate device (OnBus.refl framed)
  unfold verifyAndStart
  rw [perform_bind_ok (perform_expectNoSession idle)]
  rcases performed : perform certificate device with ⟨e | bytes, between⟩
  all_goals
    rw [performed] at same fails
    obtain rfl : between = { device with bus } := same
  · rw [perform_bind_error performed]
    exact .stopped kept (fails e rfl).ne_sessionActive
  · rw [perform_bind_ok performed]
    cases found : Info.staticKey bytes with
    | error cause => exact .stopped kept nofun
    | ok chipPublic => exact .started kept performed found rfl

/-! ### Exchanges -/

variable {frames : Nat} {command : Command} {host : Session} {result : Except Error Bytes}

/-- How an exchange ends: in a failure to seal the command, to send it, to collect
the result or to open it, or with the packet of the result. -/
inductive Exchange (frames : Nat) (command : Command) (device : Device σ) (host : Session) :
    Except Error Bytes → Device σ → Prop
  | unsealed {cause : SessionError}
      (fails : host.protect (device.buffer.overlay Session.sizeLength command.packet)
        command.packet.length = .error cause) :
      Exchange frames command device host (.error (.session cause))
        { device with buffer := device.buffer.overlay Session.sizeLength command.packet }
  | unsent {length : Nat} {buffer : Bytes} {sealing : Session} {e : Error} {bus : Bus σ}
      (sealed : host.protect (device.buffer.overlay Session.sizeLength command.packet)
        command.packet.length = .ok (length, buffer, sealing))
      (fails : perform (Link.sendEncrypted device.config (buffer.take length)) device.bus =
        (.error e, bus)) :
      Exchange frames command device host (.error (rejectedByChip e))
        { device with bus, buffer, session := some sealing }
  | uncollected {length : Nat} {buffer collected : Bytes} {sealing : Session} {e : Error}
      {sent bus : Bus σ}
      (sealed : host.protect (device.buffer.overlay Session.sizeLength command.packet)
        command.packet.length = .ok (length, buffer, sealing))
      (sends : perform (Link.sendEncrypted device.config (buffer.take length)) device.bus =
        (.ok (), sent))
      (fails : (Link.receiveEncrypted device.config frames buffer).run sent =
        (some (.error e, collected), bus)) :
      Exchange frames command device host (.error (rejectedByChip e))
        { device with bus, buffer := collected, session := some sealing }
  | unopened {length count : Nat} {buffer collected : Bytes} {sealing : Session}
      {cause : SessionError} {sent bus : Bus σ}
      (sealed : host.protect (device.buffer.overlay Session.sizeLength command.packet)
        command.packet.length = .ok (length, buffer, sealing))
      (sends : perform (Link.sendEncrypted device.config (buffer.take length)) device.bus =
        (.ok (), sent))
      (collects : (Link.receiveEncrypted device.config frames buffer).run sent =
        (some (.ok count, collected), bus))
      (fails : sealing.unprotect (collected.take count) = .error cause) :
      Exchange frames command device host (.error (.session cause))
        { device with bus, buffer := collected, session := some sealing }
  | opened {length count : Nat} {buffer collected packet : Bytes} {sealing opening : Session}
      {sent bus : Bus σ}
      (sealed : host.protect (device.buffer.overlay Session.sizeLength command.packet)
        command.packet.length = .ok (length, buffer, sealing))
      (sends : perform (Link.sendEncrypted device.config (buffer.take length)) device.bus =
        (.ok (), sent))
      (collects : (Link.receiveEncrypted device.config frames buffer).run sent =
        (some (.ok count, collected), bus))
      (opens : sealing.unprotect (collected.take count) = .ok (packet, opening)) :
      Exchange frames command device host (.ok packet)
        { device with bus, buffer := collected, session := some opening }

theorem exchange_cases (held : device.session = some host)
    (ran : attempt (exchange frames command) device = some (result, after)) :
    Exchange frames command device host result after := by
  rw [attempt_exchange_phases held] at ran
  cases sealed : host.protect (device.buffer.overlay Session.sizeLength command.packet)
      command.packet.length with
  | error cause =>
    rw [sealed] at ran
    cases ran
    exact .unsealed sealed
  | ok outcome =>
    obtain ⟨length, buffer, sealing⟩ := outcome
    rw [sealed] at ran
    dsimp only at ran
    rcases sends : perform (Link.sendEncrypted device.config (buffer.take length)) device.bus with
      ⟨e | _, sent⟩
    all_goals rw [sends] at ran
    · cases ran
      exact .unsent sealed sends
    dsimp only at ran
    rcases collects : (Link.receiveEncrypted device.config frames buffer).run sent with
      ⟨_ | ⟨e | count, collected⟩, bus⟩
    all_goals rw [collects] at ran
    · cases ran
    · cases ran
      exact .uncollected sealed sends collects
    dsimp only at ran
    cases opens : sealing.unprotect (collected.take count) with
    | error cause =>
      rw [opens] at ran
      cases ran
      exact .unopened sealed sends collects opens
    | ok outcome =>
      rw [opens] at ran
      cases ran
      exact .opened sealed sends collects opens

/-- Every such end is one that the exchange can come to. -/
theorem Exchange.ran (held : device.session = some host)
    (exchange : Exchange frames command device host result after) :
    attempt (Device.exchange frames command) device = some (result, after) := by
  rw [attempt_exchange_phases held]
  cases exchange with
  | unsealed fails => rw [fails]
  | unsent sealed fails => rw [sealed]; dsimp only; rw [fails]
  | uncollected sealed sends fails => rw [sealed]; dsimp only; rw [sends]; dsimp only; rw [fails]
  | unopened sealed sends collects fails =>
    rw [sealed]; dsimp only; rw [sends]; dsimp only; rw [collects]; dsimp only; rw [fails]
  | opened sealed sends collects opens =>
    rw [sealed]; dsimp only; rw [sends]; dsimp only; rw [collects]; dsimp only; rw [opens]

namespace Exchange

variable (exchange : Exchange frames command device host result after)

include exchange

theorem config : after.config = device.config := by
  cases exchange <;> rfl

theorem state : after.state = device.state := by
  cases exchange <;> rfl

/-- A result that was opened was counted, and so was its command. -/
theorem counted {packet : Bytes} (ok : result = .ok packet) :
    after.session = some host.counted ∧ host.sending.counter ≠ 0xFFFFFFFF ∧
      host.receiving.counter ≠ 0xFFFFFFFF := by
  cases exchange with
  | opened sealed sends collects opens =>
    obtain ⟨-, -, more, -⟩ := Session.of_protect_eq_ok sealed
    obtain rfl := Session.counted_of_protect sealed
    obtain ⟨more', rfl, -⟩ := Session.unprotect_eq_ok_iff.mp opens
    exact ⟨rfl, more, more'⟩
  | _ => cases ok

/-- The frame buffer and the packet buffer keep their lengths. -/
theorem kept (framed : device.bus.Framed)
    (room : Session.sizeLength + command.packet.length ≤ device.buffer.length) :
    after.bus.Framed ∧ after.buffer.length = device.buffer.length := by
  have written : (device.buffer.overlay Session.sizeLength command.packet).length =
      device.buffer.length := Bytes.length_overlay room
  cases exchange with
  | unsealed fails => exact ⟨framed, written⟩
  | unsent sealed fails =>
    have length := Session.length_of_protect sealed
    exact ⟨(Link.behaves_sendEncrypted _ _).kept framed fails, length.trans written⟩
  | uncollected sealed sends fails =>
    have length := Session.length_of_protect sealed
    have sent := (Link.behaves_sendEncrypted _ _).kept framed sends
    obtain ⟨collected, same, -⟩ := Link.collect_behaves sent fails
    exact ⟨collected, same.trans (length.trans written)⟩
  | unopened sealed sends collects fails =>
    have length := Session.length_of_protect sealed
    have sent := (Link.behaves_sendEncrypted _ _).kept framed sends
    obtain ⟨collected, same, -⟩ := Link.collect_behaves sent collects
    exact ⟨collected, same.trans (length.trans written)⟩
  | opened sealed sends collects opens =>
    have length := Session.length_of_protect sealed
    have sent := (Link.behaves_sendEncrypted _ _).kept framed sends
    obtain ⟨collected, same, -⟩ := Link.collect_behaves sent collects
    exact ⟨collected, same.trans (length.trans written)⟩

/-- A packet that was opened fits the buffer. -/
theorem packet_le {packet : Bytes} (ok : result = .ok packet) :
    Session.sizeLength + packet.length ≤ after.buffer.length := by
  cases exchange with
  | opened sealed sends collects opens =>
    cases ok
    have inside := Session.length_le_of_unprotect opens
    rw [List.length_take] at inside
    dsimp only
    omega
  | _ => cases ok

end Exchange

/-- The device without what is left of a packet in its buffer. -/
def wiped (device : Device σ) (packet : Bytes) : Device σ :=
  { device with
    buffer := device.buffer.overlay 0 (List.replicate (Session.sizeLength + packet.length) 0) }

/-- A command that is not refused ends the session if its exchange fails, and
otherwise returns what is read from the packet. -/
theorem execute_cases {result : Except Error command.Response}
    (accepted : refusal? device command = none)
    (ran : attempt (execute frames command) device = some (result, after)) :
    ∃ host between, device.session = some host ∧
      ((∃ e, Exchange frames command device host (.error e) between ∧ result = .error e ∧
          after = between.endSession .aborted) ∨
        ∃ packet, Exchange frames command device host (.ok packet) between ∧
          result = command.decodePacket packet ∧ after = between.wiped packet) := by
  obtain ⟨host, held⟩ := session_of_refusal accepted
  rw [attempt_execute accepted] at ran
  rcases exchanged : attempt (exchange frames command) device with _ | ⟨e | packet, between⟩
  all_goals rw [exchanged] at ran
  · cases ran
  · cases ran
    exact ⟨host, between, held, .inl ⟨e, exchange_cases held exchanged, rfl, rfl⟩⟩
  · cases ran
    exact ⟨host, between, held, .inr ⟨packet, exchange_cases held exchanged, rfl, rfl⟩⟩

end Device

end SecureElement
