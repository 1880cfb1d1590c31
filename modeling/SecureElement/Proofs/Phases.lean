import SecureElement.Proofs.Actions
import SecureElement.Proofs.Sealing

/-!
The phases of a device's operations, whatever transport it is connected over.

Each is one equation or one case distinction here, on which the proofs about
particular transports and about all of them are built. An exchange is encrypting
the command, sending it, collecting the result and decrypting it
(`Device.attempt_exchange_phases`); a command that is not refused ends as its
exchange does (`Device.attempt_execute`).
-/

namespace SecureElement

namespace Command

theorem length_packet (command : Command) : command.packet.length = 1 + command.dataLength := by
  rw [packet, List.length_cons, length_encode, Nat.add_comm]

theorem maxDataLength_le (command : Command) : command.maxDataLength ≤ 15 + Limit.message := by
  cases command <;> exact Nat.le_of_ble_eq_true rfl

/-- A command that is not too long has no result longer than the longest ping. -/
theorem responseLength_le {command : Command} (fits : command.dataLength ≤ command.maxDataLength) :
    command.responseLength ≤ Limit.ping := by
  cases command with
  | ping data => exact fits
  | randomValueGet count =>
    have small := count.toNat_lt
    simp only [responseLength, Limit.ping]
    omega
  | _ => exact Nat.le_of_ble_eq_true rfl

end Command

namespace Link

variable {σ : Type} [Transport σ]

/-- A result is collected from one response after the other, until one is the
last or no result. -/
theorem run_collect (c : Config) (frames : Nat) (out : Bytes) (length : Nat) (bus : Bus σ) :
    (collect c (frames + 1) out length).run bus =
      match perform (receive c) bus with
      | (.error e, after) => (some (.error e, out), after)
      | (.ok reply, after) =>
        if reply.status = .resultCont ∨ reply.status = .resultOk then
          if out.length < length + reply.data.length then
            (some (.error (.capacity (length + reply.data.length) out.length), out), after)
          else if reply.status = .resultOk then
            (some (.ok (length + reply.data.length), out.overlay length reply.data), after)
          else
            (collect c frames (out.overlay length reply.data)
              (length + reply.data.length)).run after
        else (some (.error (.protocol (.status reply.status)), out), after) := by
  conv => lhs; unfold collect
  rw [StateT.run_bind]
  unfold perform
  rcases (receive c).run.run bus with ⟨_ | reply, after⟩
  · rfl
  · dsimp only [bind]
    split
    · split
      · rfl
      · split <;> rfl
    · rfl

end Link

namespace Device

variable {σ : Type}

theorem perform_onBus {α : Type} (act : Config → BusM σ α) (device : Device σ) :
    perform (onBus act) device = ((perform (act device.config) device.bus).1,
      { device with bus := (perform (act device.config) device.bus).2 }) := rfl

/-! ### Results that are not used -/

/-- An action whose result is not used ends in the same state. -/
theorem of_attempt_discard {α : Type} {act : DeviceRun σ α} {device after : Device σ}
    {result : Except Error Unit}
    (ran : attempt (act >>= fun _ => pure ()) device = some (result, after)) :
    ∃ outcome, attempt act device = some (outcome, after) := by
  rcases attempt_bind_eq_some ran with ⟨e, failed, -⟩ | ⟨a, between, done, rest⟩
  · exact ⟨_, failed⟩
  · cases rest
    exact ⟨_, done⟩

theorem of_attempt_bounded {α : Type} {act : DeviceM σ α} {device after : Device σ}
    {result : Except Error α} (ran : attempt (bounded act) device = some (result, after)) :
    perform act device = (result, after) := by
  rw [attempt_bounded] at ran
  exact Option.some.inj ran

theorem of_attempt_discard_bounded {α : Type} {act : DeviceM σ α} {device after : Device σ}
    {result : Except Error Unit}
    (ran : attempt (bounded act >>= fun _ => pure ()) device = some (result, after)) :
    (perform act device).2 = after := by
  obtain ⟨outcome, done⟩ := of_attempt_discard ran
  exact congrArg Prod.snd (of_attempt_bounded done)

variable {device : Device σ} {host : Session} {frames : Nat} {command : Command}

/-! ### Refusals -/

theorem session_of_refusal (accepted : refusal? device command = none) :
    ∃ host, device.session = some host := by
  cases held : device.session with
  | some host => exact ⟨host, rfl⟩
  | none =>
    unfold refusal? at accepted
    rw [held] at accepted
    split at accepted
    · cases accepted
    · split at accepted
      · cases accepted
      · cases accepted

theorem room_of_refusal (accepted : refusal? device command = none) :
    command.dataLength ≤ command.maxDataLength ∧ frameLength command ≤ device.buffer.length := by
  unfold refusal? at accepted
  split at accepted
  · cases accepted
  · split at accepted
    · cases accepted
    · omega

/-- The packet of a command that is not refused has a size that a frame can give,
and the buffer has room for its frame. -/
theorem room_for_command (accepted : refusal? device command = none) :
    command.packet.length ≤ Session.maxSize ∧
      command.packet.length + Session.overhead ≤ device.buffer.length := by
  obtain ⟨fits, room⟩ := room_of_refusal accepted
  have small := command.maxDataLength_le
  unfold frameLength at room
  rw [Command.length_packet]
  simp only [Limit.message] at small
  simp only [Session.maxSize]
  omega

theorem perform_expectNoSession (idle : device.state ≠ .established) :
    perform (expectNoSession : DeviceM σ Unit) device = (.ok (), device) := by
  unfold expectNoSession
  rw [perform_bind_ok (perform_get device), if_neg idle]
  rfl

theorem perform_expectNoSession_active (established : device.state = .established) :
    perform (expectNoSession : DeviceM σ Unit) device = (.error .sessionActive, device) := by
  unfold expectNoSession
  rw [perform_bind_ok (perform_get device), if_pos established, perform_throw]

/-- A weak random source is refused unless it is allowed. -/
theorem perform_checkEntropy_of_weak [Transport σ]
    (weak : Transport.entropy device.bus.transport = .weak)
    (denied : device.config.allowWeakEntropy = false) :
    perform (checkEntropy : DeviceM σ Unit) device =
      (.error (.handshake .weakEntropy), device) := by
  unfold checkEntropy
  rw [perform_bind_ok (perform_get device), if_pos ⟨weak, denied⟩]
  rfl

section

/-! ### Encryption and decryption -/

variable [Primitives]

/-- A command that is not refused can be sealed. -/
theorem protect_of_accepted (total : Aead.Total) (more : host.sending.counter ≠ 0xFFFFFFFF)
    (accepted : refusal? device command = none) :
    ∃ cipher tag buffer, Primitives.encrypt? host.suite host.sending.key
        (Session.nonce host.sending.counter) [] command.packet = some (cipher, tag) ∧
      buffer.length = device.buffer.length ∧
      host.protect (device.buffer.overlay Session.sizeLength command.packet)
          command.packet.length =
        .ok (command.packet.length + Session.overhead, buffer,
          { host with sending := host.sending.advance }) ∧
      buffer.take (command.packet.length + Session.overhead) = Session.sealed cipher tag := by
  obtain ⟨short, room⟩ := room_for_command accepted
  obtain ⟨cipher, tag, encrypted⟩ := total.encrypts host.suite host.sending.key
    (Session.nonce host.sending.counter) [] short
  have size : cipher.length = command.packet.length := Primitives.length_encrypt? encrypted
  have fits : Session.sizeLength + command.packet.length ≤ device.buffer.length := by
    unfold Session.overhead at room
    omega
  generalize made : device.buffer.overlay Session.sizeLength command.packet = written
  have kept : written.length = device.buffer.length := by
    rw [← made, Bytes.length_overlay fits]
  have inside : written.slice Session.sizeLength command.packet.length = command.packet := by
    rw [← made, Bytes.slice_overlay_of_length (by omega) rfl]
  refine ⟨cipher, tag, written.overlay 0 (Session.sealed cipher tag), encrypted, ?_,
    Session.protect_eq_ok short (kept ▸ room) more (inside.symm ▸ encrypted),
    Session.take_protected written size tag⟩
  rw [Bytes.length_overlay (by rw [Session.length_sealed]; omega), kept]

theorem perform_protectCommand_eq (held : device.session = some host) (command : Command) :
    perform (protectCommand command) device =
      match host.protect (device.buffer.overlay Session.sizeLength command.packet)
        command.packet.length with
      | .error cause => (.error (.session cause),
          { device with buffer := device.buffer.overlay Session.sizeLength command.packet })
      | .ok (length, buffer, counted) =>
        (.ok (buffer.take length), { device with buffer, session := some counted }) := by
  unfold protectCommand
  rw [perform_bind_ok (perform_get device)]
  dsimp only
  rw [held]
  dsimp only
  rcases host.protect (device.buffer.overlay Session.sizeLength command.packet)
      command.packet.length with cause | ⟨size, buffer, counted⟩
  · rfl
  · rfl

/-- A command is encrypted and counted, or nothing is changed but the buffer. -/
theorem protectCommand_cases (held : device.session = some host) (command : Command) :
    (∃ e buffer, perform (protectCommand command) device = (.error e, { device with buffer })) ∨
      ∃ frame buffer, frame ≠ [] ∧ perform (protectCommand command) device = (.ok frame,
        { device with
          buffer
          session := some { host with sending := host.sending.advance } }) := by
  rw [perform_protectCommand_eq held]
  cases made : host.protect (device.buffer.overlay Session.sizeLength command.packet)
      command.packet.length with
  | error cause => exact .inl ⟨_, _, rfl⟩
  | ok outcome =>
    obtain ⟨size, buffer, counted⟩ := outcome
    obtain ⟨cipher, tag, -, -, frame, rfl⟩ := Session.frame_of_protect made
    refine .inr ⟨_, _, ?_, rfl⟩
    rw [frame]
    exact Session.sealed_ne_nil cipher tag

theorem perform_unprotectResult_eq (held : device.session = some host) (frame : Bytes) :
    perform (unprotectResult frame) device =
      match host.unprotect frame with
      | .error cause => (.error (.session cause), device)
      | .ok (packet, counted) => (.ok packet, { device with session := some counted }) := by
  unfold unprotectResult
  rw [perform_bind_ok (perform_get device), held]
  dsimp only
  rcases host.unprotect frame with cause | ⟨packet, counted⟩
  · rfl
  · rfl

/-- A result is decrypted and counted, or nothing is changed. -/
theorem unprotectResult_cases (held : device.session = some host) (frame : Bytes) :
    (∃ e, perform (unprotectResult frame) device = (.error e, device)) ∨
      ∃ packet, perform (unprotectResult frame) device = (.ok packet,
        { device with session := some { host with receiving := host.receiving.advance } }) := by
  rw [perform_unprotectResult_eq held]
  cases opened : host.unprotect frame with
  | error cause => exact .inl ⟨_, rfl⟩
  | ok outcome =>
    obtain ⟨packet, counted⟩ := outcome
    obtain ⟨-, rfl, -⟩ := Session.unprotect_eq_ok_iff.mp opened
    exact .inr ⟨packet, rfl⟩

end

variable [Transport σ]

/-! ### Ends of sessions -/

theorem perform_sessionAbort (device : Device σ) :
    perform sessionAbort device =
      if device.session.isSome then
        perform (onBus Link.sessionAbort) (device.endSession .awaitingHandshake)
      else (.ok (), device) := by
  unfold sessionAbort
  rw [perform_bind_ok (perform_get device)]
  split
  · rfl
  · rfl

theorem perform_sleep (kind : SleepKind) (device : Device σ) :
    perform (sleep kind) device = perform (onBus fun c => Link.sleep c kind)
      (if kind = .deepSleep ∧ device.session.isSome then device.endSession .awaitingHandshake
      else device) := by
  unfold sleep
  rw [perform_bind_ok (perform_get device)]
  split
  · rfl
  · rfl

theorem perform_reboot (kind : StartupKind) (device : Device σ) :
    perform (reboot kind) device = perform (onBus fun c => Link.startup c kind)
      (if device.session.isSome then device.endSession .awaitingHandshake else device) := by
  unfold reboot
  rw [perform_bind_ok (perform_get device)]
  split
  · rfl
  · rfl

/-! ### Exchanges -/

theorem attempt_sendEncrypted (frame : Bytes) (device : Device σ) :
    attempt (bounded (tryCatch (onBus fun c => Link.sendEncrypted c frame)
        fun e => throw (rejectedByChip e))) device =
      let sent := perform (Link.sendChunks device.config (Frame.chunks frame)) device.bus
      some (sent.1.mapError rejectedByChip, { device with bus := sent.2 }) := by
  rw [attempt_bounded, perform_tryCatch_throw, perform_onBus]
  rfl

theorem attempt_collectResult (frames : Nat) (device : Device σ) :
    attempt (collectResult frames) device =
      match (Link.receiveEncrypted device.config frames device.buffer).run device.bus with
      | (none, _) => none
      | (some (result, buffer), bus) =>
        some ((result.map buffer.take).mapError rejectedByChip, { device with bus, buffer }) := by
  unfold attempt collectResult
  change (match (Link.receiveEncrypted device.config frames device.buffer).run device.bus with
    | (none, _) => none
    | (some (result, buffer), bus) => _) = _
  rcases (Link.receiveEncrypted device.config frames device.buffer).run device.bus with
    ⟨_ | ⟨result, buffer⟩, bus⟩
  · rfl
  · rfl

variable [Primitives]

/-- An exchange fails in one of its phases, has no outcome while the result is
collected, or yields the result packet. -/
theorem attempt_exchange_phases (held : device.session = some host) :
    attempt (exchange frames command) device =
      match host.protect (device.buffer.overlay Session.sizeLength command.packet)
        command.packet.length with
      | .error cause => some (.error (.session cause),
          { device with buffer := device.buffer.overlay Session.sizeLength command.packet })
      | .ok (length, buffer, sealing) =>
        match perform (Link.sendEncrypted device.config (buffer.take length)) device.bus with
        | (.error e, bus) => some (.error (rejectedByChip e),
            { device with bus, buffer, session := some sealing })
        | (.ok (), bus) =>
          match (Link.receiveEncrypted device.config frames buffer).run bus with
          | (none, _) => none
          | (some (.error e, buffer), bus) => some (.error (rejectedByChip e),
              { device with bus, buffer, session := some sealing })
          | (some (.ok count, buffer), bus) =>
            match sealing.unprotect (buffer.take count) with
            | .error cause => some (.error (.session cause),
                { device with bus, buffer, session := some sealing })
            | .ok (packet, opening) => some (.ok packet,
                { device with bus, buffer, session := some opening }) := by
  unfold exchange
  rw [attempt_bind, attempt_bounded, perform_protectCommand_eq held]
  rcases host.protect (device.buffer.overlay Session.sizeLength command.packet)
      command.packet.length with cause | ⟨length, buffer, sealing⟩
  · rfl
  dsimp only
  rw [attempt_bind, attempt_sendEncrypted]
  dsimp only
  rw [Link.sendEncrypted]
  rcases perform (Link.sendChunks device.config (Frame.chunks (buffer.take length))) device.bus with
    ⟨e | _, bus⟩
  · rfl
  dsimp only [mapError_ok]
  rw [attempt_bind, attempt_collectResult]
  rcases (Link.receiveEncrypted device.config frames buffer).run bus with
    ⟨_ | ⟨e | count, buffer⟩, bus⟩
  · rfl
  · rfl
  dsimp only [Except.map, mapError_ok]
  rw [attempt_bounded, perform_unprotectResult_eq rfl]
  rcases sealing.unprotect (buffer.take count) with cause | ⟨packet, opening⟩
  · rfl
  · rfl

/-! ### Commands -/

/-- A command that is refused changes nothing. -/
theorem attempt_execute_of_refusal {e : Error} (refused : refusal? device command = some e) :
    attempt (execute frames command) device = some (.error e, device) := by
  unfold execute
  rw [attempt_bind_ok (attempt_get device), refused]
  rfl

/-- A command that is not refused ends as its exchange does. -/
theorem attempt_execute (accepted : refusal? device command = none) :
    attempt (execute frames command) device =
      match attempt (exchange frames command) device with
      | none => none
      | some (.error e, between) => some (.error e, between.endSession .aborted)
      | some (.ok packet, between) =>
        let blank := List.replicate (Session.sizeLength + packet.length) 0
        some (command.decodePacket packet,
          { between with buffer := between.buffer.overlay 0 blank }) := by
  unfold execute
  rw [attempt_bind_ok (attempt_get device), accepted]
  dsimp only
  rw [attempt_bind, attempt_tryCatch]
  rcases attempt (exchange frames command) device with _ | ⟨e | packet, between⟩
  · rfl
  · rfl
  · dsimp only
    rw [attempt_bind_ok (attempt_modify _ _)]
    cases command.decodePacket packet <;> rfl

end Device

end SecureElement
