import SecureElement.Proofs.Lockstep

/-!
The secure channel is transparent.

Between two sides of a session that mirror each other, and on a wire without
faults, executing a command on the device returns what the host reads from the
packet that the chip's store answers the plain command with, and changes the
store as that does (`Reached.execute_transparent`). Host and chip decide
independently which piece of a packet is the last, one by the number of pieces
and the other by the size field, so it has to be shown that they always agree,
and that the packet buffer is large enough for every result that the chip can
produce.
-/

namespace SecureElement

namespace Command

/-! ### Readings of results -/

/-- If the reading fails, the protocol is at fault. -/
def ProtocolOnly {α : Type} (reading : Except Error α) : Prop :=
  ∀ e, reading = .error e → e.kind = .protocol

section

variable {α β : Type}

theorem ProtocolOnly.ok (a : α) : ProtocolOnly (.ok a) := nofun

theorem ProtocolOnly.error {cause : ProtocolError} :
    ProtocolOnly (.error (.protocol cause) : Except Error α) := by
  rintro _ ⟨⟩
  rfl

theorem ProtocolOnly.ite {condition : Prop} [Decidable condition] {left right : Except Error α}
    (first : ProtocolOnly left) (second : ProtocolOnly right) :
    ProtocolOnly (if condition then left else right) := by
  split
  · exact first
  · exact second

theorem ProtocolOnly.bind {reading : Except Error α} {next : α → Except Error β}
    (first : ProtocolOnly reading) (rest : ∀ a, ProtocolOnly (next a)) :
    ProtocolOnly (reading >>= next) := by
  cases reading with
  | ok a => exact rest a
  | error e =>
    rintro _ ⟨⟩
    exact first e rfl

theorem ProtocolOnly.map {reading : Except Error α} (first : ProtocolOnly reading) (f : α → β) :
    ProtocolOnly (reading.map f) := by
  cases reading with
  | ok a => exact .ok _
  | error e =>
    rintro _ ⟨⟩
    exact first e rfl

theorem ProtocolOnly.mapError (reading : Except ProtocolError α) :
    ProtocolOnly (reading.mapError Error.protocol) := by
  cases reading with
  | ok a => exact .ok a
  | error cause => exact .error

end

theorem decodeEmpty_protocolOnly (data : Bytes) : ProtocolOnly (decodeEmpty data) :=
  .ite (.ok _) .error

theorem decodePadded_protocolOnly (padding : Nat) (data : Bytes) :
    ProtocolOnly (decodePadded padding data) :=
  .ite .error (.ok _)

theorem decodeOctets_protocolOnly (padding length : Nat) (data : Bytes) :
    ProtocolOnly (decodeOctets padding length data) := by
  refine .ite ?_ .error
  split
  · exact .ok _
  · exact .error

theorem decodeEccKey_protocolOnly (data : Bytes) : ProtocolOnly (decodeEccKey data) :=
  .bind (decodePadded_protocolOnly 15 data) fun _ => .bind (.mapError _) fun _ =>
    .bind (.mapError _) fun _ => .ite (.ok _) .error

theorem decode_protocolOnly (command : Command) (data : Bytes) :
    ProtocolOnly (command.decode data) := by
  cases command with
  | ping => exact .ok _
  | pairingKeyRead => exact decodeOctets_protocolOnly 3 32 data
  | rMemDataRead => exact decodePadded_protocolOnly 3 data
  | randomValueGet => exact decodePadded_protocolOnly 3 data
  | eccKeyRead => exact decodeEccKey_protocolOnly data
  | eddsaSign => exact decodeOctets_protocolOnly 15 64 data
  | mCounterGet => exact (decodeOctets_protocolOnly 3 4 data).map _
  | _ => exact decodeEmpty_protocolOnly data

theorem checkResult_protocolOnly (byte : UInt8) : ProtocolOnly (checkResult byte) := by
  unfold checkResult
  split
  · exact .error
  · exact .ok _
  · exact .error

/-- Whatever the result, only the protocol is at fault if it cannot be read. -/
theorem decodePacket_protocolOnly (command : Command) (packet : Bytes) :
    ProtocolOnly (command.decodePacket packet) := by
  cases packet with
  | nil => exact .error
  | cons result data =>
    exact .bind (checkResult_protocolOnly result) fun _ => decode_protocolOnly command data

end Command

/-! ### The chip's answer -/

namespace Chip

variable [Primitives]

/-- The chip after it has executed a packet and its result was collected from it. -/
def replied (chip : Chip) (session : Session) (packet frame : Bytes) : Chip :=
  { chip with
    session := some { session with sending := session.sending.advance }
    store := (chip.store.execute chip.random packet).2.1
    random := (chip.store.execute chip.random packet).2.2
    pending := []
    lastResult := some frame
    responses := [] }

/-- Without faults a command that opens is executed, and its result is queued
behind the confirmation. -/
theorem opened_faultless (chip : Chip) (session : Session) {packet : Bytes} (total : Aead.Total)
    (more : session.sending.counter ≠ 0xFFFFFFFF) (tampered : chip.faults.tamperResult = none)
    (replayed : chip.faults.replayResult = false)
    (short : (chip.store.execute chip.random packet).1.length ≤ Session.maxSize) :
    ∃ cipher tag, Primitives.encrypt? session.suite session.sending.key
        (Session.nonce session.sending.counter) [] (chip.store.execute chip.random packet).1 =
          some (cipher, tag) ∧
      chip.opened session packet =
        { chip.replied session packet (Session.sealed cipher tag) with
          responses := frameResponse .requestOk [] ::
            resultFrames (Frame.chunks (Session.sealed cipher tag)) } := by
  rw [opened_eq]
  dsimp only
  generalize same : { chip.emptied with
    session := some session
    store := (chip.store.execute chip.random packet).2.1
    random := (chip.store.execute chip.random packet).2.2
    responses := [frameResponse .requestOk []] } = executing
  have held : executing.session = some session := by rw [← same]
  have faults : executing.faults = chip.faults := by rw [← same, emptied]
  obtain ⟨cipher, tag, encrypted, sent⟩ := sendResult_eq held total more short
    (faults ▸ tampered) (faults ▸ replayed)
  have still : { chip.faults with tamperResult := none, replayResult := false } = chip.faults := by
    rw [← tampered, ← replayed]
  refine ⟨cipher, tag, encrypted, ?_⟩
  rw [sent, answered, faults, still, ← same]
  rfl

end Chip

namespace Device

open Bus

variable {device : Device Chip} {host chip : Session} {frames : Nat} {command : Command}

section

variable [Primitives]

/-! ### Room -/

/-- What the chip's store makes of the plain command: the result packet, and the
store and the random source after it. -/
def executed (device : Device Chip) (command : Command) : Bytes × Store × RandomSource :=
  device.chip.store.execute device.chip.random command.packet

/-- The buffer has room for every result that the chip can answer a command with
that is not refused, and the result comes in no more than 17 responses. -/
theorem room_for_result (accepted : refusal? device command = none)
    (valid : device.chip.store.Valid) :
    (device.executed command).1.length ≤ Session.maxSize ∧
      (device.executed command).1.length + Session.overhead ≤ device.buffer.length ∧
      ∀ {cipher : Bytes} (tag : Tag), cipher.length = (device.executed command).1.length →
        (Frame.chunks (Session.sealed cipher tag)).length ≤ 17 := by
  obtain ⟨fits, room⟩ := room_of_refusal accepted
  have result := Store.length_execute_le valid device.chip.random command
  have small := Command.responseLength_le fits
  unfold frameLength at room
  unfold executed
  simp only [Limit.ping] at small
  refine ⟨?_, by omega, fun tag size => ?_⟩
  · simp only [Session.maxSize]
    omega
  · rw [Frame.length_chunks, Session.length_sealed, size]
    simp only [Session.overhead, Session.sizeLength, Session.tagLength, Frame.maxData]
    omega

/-! ### Host's side -/

/-- A command for which there is room is encrypted and counted. -/
theorem perform_protectCommand (total : Aead.Total) (held : device.session = some host)
    (more : host.sending.counter ≠ 0xFFFFFFFF) (accepted : refusal? device command = none) :
    ∃ cipher tag buffer, Primitives.encrypt? host.suite host.sending.key
        (Session.nonce host.sending.counter) [] command.packet = some (cipher, tag) ∧
      buffer.length = device.buffer.length ∧
      perform (protectCommand command) device = (.ok (Session.sealed cipher tag),
        { device with
          buffer
          session := some { host with sending := host.sending.advance } }) := by
  obtain ⟨cipher, tag, buffer, encrypted, kept, sealed, front⟩ :=
    protect_of_accepted total more accepted
  refine ⟨cipher, tag, buffer, encrypted, kept, ?_⟩
  rw [perform_protectCommand_eq held, sealed]
  dsimp only
  rw [front]

/-- A result that opens is returned and counted. -/
theorem perform_unprotectResult {counted : Session} {frame packet : Bytes}
    (held : device.session = some host) (opens : host.unprotect frame = .ok (packet, counted)) :
    perform (unprotectResult frame) device =
      (.ok packet, { device with session := some counted }) := by
  rw [perform_unprotectResult_eq held, opens]

/-! ### Exchanges -/

/-- Without faults the chip opens a command that opens as a whole, and its
confirmation is read. -/
theorem sendChunks_opens {c : Config} {bus : Bus Chip} {session counted : Session}
    {frame packet : Bytes} (ready : bus.Ready) (clear : bus.transport.wire.Clear)
    (tries : 0 < c.readMaxTries.toNat) (held : bus.transport.session = some session)
    (idle : bus.transport.pending = []) (some : frame ≠ [])
    (opens : session.unprotect frame = .ok (packet, counted)) :
    ∃ after, perform (Link.sendChunks c (Frame.chunks frame)) bus = (.ok (), after) ∧
      Follows bus after ∧
      after.transport.settled =
        { bus.transport.settled.opened counted packet with
          responses := (bus.transport.settled.opened counted packet).responses.tail } := by
  obtain ⟨follows, sent⟩ := Link.leads_sendChunks (c := c) (Frame.chunks_ne_nil some)
    (fun chunk member => Frame.bounds_of_mem_chunks member)
    (show bus.transport.settled.session = .some session from held) ready rfl
  rw [show bus.transport.settled.pending = [] from idle, List.nil_append,
    Frame.flatten_chunks] at sent
  rcases performed : perform (Link.sendChunks c (Frame.chunks frame)) bus with ⟨e | _, after⟩
  all_goals rw [performed] at follows sent
  · exact absurd ⟨clear, tries, packet, counted, opens⟩ sent
  · obtain ⟨packet', counted', queue, opens', same, read⟩ := sent
    rw [opens] at opens'
    cases opens'
    obtain rfl := read.resolve_right fun unclear => unclear.1 clear
    exact ⟨after, rfl, follows, same⟩

/-- Without faults a result that is queued is collected as a whole. -/
theorem attempt_collectResult_eq (device : Device Chip) {frame : Bytes} (ready : device.bus.Ready)
    (clear : device.chip.wire.Clear) (tries : 0 < device.config.readMaxTries.toNat)
    (queued : device.chip.settled.responses = Chip.resultFrames (Frame.chunks frame))
    (some : frame ≠ []) (enough : (Frame.chunks frame).length ≤ frames)
    (room : frame.length ≤ device.buffer.length) :
    ∃ buffer after, attempt (collectResult frames) device =
        .some (.ok frame, { device with bus := after, buffer }) ∧
      Follows device.bus after ∧
      after.transport.settled = { device.chip.settled with responses := [] } := by
  have whole := Frame.flatten_chunks frame
  have blank : device.buffer.take ([] : Bytes).length = [] := rfl
  obtain ⟨buffer, after, collected, -, taken, follows, same⟩ := Link.collect_results
    (Frame.chunks_ne_nil some) (fun chunk member => (Frame.bounds_of_mem_chunks member).2) queued
    ready clear tries enough (by rw [whole, List.length_nil, Nat.zero_add]; exact room) blank
  rw [whole, List.length_nil, Nat.zero_add] at collected taken
  refine ⟨buffer, after, ?_, follows, same⟩
  rw [attempt_collectResult, Link.receiveEncrypted, collected]
  dsimp only [Except.map, mapError_ok]
  rw [taken, List.nil_append]

/-- A command was executed: the store is as the plain command leaves it, and both
parties have counted a packet in each direction. -/
structure Executed (before : Device Chip) (command : Command) (host chip : Session)
    (after : Device Chip) : Prop where
  store : after.chip.store = (before.executed command).2.1
  random : after.chip.random = (before.executed command).2.2
  host : after.session = some host.counted
  chip : after.chip.session = some chip.counted
  state : after.state = before.state
  faultless : after.chip.faults = Faults.none

/-- Without faults an exchange returns the result of the plain command. -/
theorem attempt_exchange (total : Aead.Total) (sound : device.Sound)
    (held : device.session = some host) (held' : device.chip.session = some chip)
    (mirrors : host.Mirrors chip) (more : host.sending.counter ≠ 0xFFFFFFFF)
    (more' : host.receiving.counter ≠ 0xFFFFFFFF) (faultless : device.chip.faults = Faults.none)
    (tries : 0 < device.config.readMaxTries.toNat) (accepted : refusal? device command = none)
    (enough : 17 ≤ frames) :
    ∃ after, attempt (exchange frames command) device =
        some (.ok (device.executed command).1, after) ∧
      device.Executed command host chip after := by
  obtain ⟨clear, tame⟩ := Chip.faults_eq_none_iff.mp faultless
  obtain ⟨-, -, idle⟩ := sound.paired host held
  have short := (room_for_command accepted).1
  obtain ⟨short', room, few⟩ := room_for_result accepted sound.bus.chip.memory
  -- the command is encrypted by the host and opened by the chip
  obtain ⟨cipher, tag, buffer, encrypted, size, sealed⟩ :=
    perform_protectCommand total held more accepted
  have opens := Session.unprotect_of_encrypted total.toInverts mirrors.suite mirrors.command short
    more encrypted
  obtain ⟨between, sent, follows, same⟩ := sendChunks_opens sound.bus.toReady clear tries held' idle
    (Session.sealed_ne_nil cipher tag) opens
  -- the result is encrypted by the chip, collected as it is queued and opened by the host
  obtain ⟨cipher', tag', encrypted', replied⟩ :=
    device.chip.settled.opened_faultless { chip with receiving := chip.receiving.advance } total
      (mirrors.result ▸ more') (by rw [tame]; rfl) (by rw [tame]; rfl) short'
  rw [replied, List.tail_cons] at same
  have size' := Primitives.length_encrypt? encrypted'
  obtain ⟨buffer', after, collected, behind, same'⟩ := attempt_collectResult_eq
    { device with
      bus := between
      buffer
      session := some { host with sending := host.sending.advance } }
    follows.ready (follows.clear clear) tries (by rw [same]) (Session.sealed_ne_nil cipher' tag')
    (Nat.le_trans (few tag' size') enough)
    (by rw [Session.length_sealed, size', size]; exact room)
  have opens' : Session.unprotect { host with sending := host.sending.advance }
      (Session.sealed cipher' tag') = .ok ((device.executed command).1, host.counted) :=
    Session.unprotect_of_encrypted total.toInverts mirrors.suite.symm mirrors.result.symm short'
      (mirrors.result ▸ more') encrypted'
  refine ⟨{ device with bus := after, buffer := buffer', session := some host.counted }, ?_, ?_⟩
  · unfold exchange
    rw [attempt_bind_ok ((attempt_bounded _ _).trans (congrArg some sealed)), attempt_bind,
      attempt_sendEncrypted, sent]
    dsimp only [mapError_ok]
    rw [attempt_bind_ok collected, attempt_bounded, perform_unprotectResult rfl opens']
  · have apart : after.transport.settled = device.chip.settled.replied
        { chip with receiving := chip.receiving.advance } command.packet
        (Session.sealed cipher' tag') := by
      rw [same', same]
      rfl
    refine ⟨congrArg Chip.store apart, congrArg Chip.random apart, rfl,
      congrArg Chip.session apart, rfl, Chip.faults_eq_none_iff.mpr ⟨?_, ?_⟩⟩
    · exact behind.clear (follows.clear clear)
    · exact (congrArg Chip.faults apart).trans tame

/-! ### Commands -/

/-- On a device that a run has reached, between the two sides of a session that is
not used up and on a wire without faults, a command that is not refused returns
what the host reads from the packet that the chip's store answers the plain command
with. The store is left as that leaves it, both parties have counted one packet in
each direction and still mirror each other, and if the packet cannot be read, it is
the protocol that is at fault. -/
theorem Reached.execute_transparent {allowed : Device Chip → Action → Prop} (total : Aead.Total)
    (reached : Reached allowed device) (held : device.session = some host)
    (held' : device.chip.session = some chip) (mirrors : host.Mirrors chip)
    (more : host.sending.counter ≠ 0xFFFFFFFF) (more' : host.receiving.counter ≠ 0xFFFFFFFF)
    (faultless : device.chip.faults = Faults.none) (tries : 0 < device.config.readMaxTries.toNat)
    (accepted : refusal? device command = none) (enough : 17 ≤ frames) :
    ∃ after, attempt (execute frames command) device =
        some (command.decodePacket (device.executed command).1, after) ∧
      device.Executed command host chip after ∧ host.counted.Mirrors chip.counted ∧
      host.counted.sending.counter.toNat = host.sending.counter.toNat + 1 ∧
      host.counted.receiving.counter.toNat = host.receiving.counter.toNat + 1 ∧
      ∀ e, command.decodePacket (device.executed command).1 = .error e → e.kind = .protocol := by
  obtain ⟨between, exchanged, executed⟩ := attempt_exchange total reached.sound held held' mirrors
    more more' faultless tries accepted enough
  rw [attempt_execute accepted, exchanged]
  exact ⟨_, rfl, ⟨executed.store, executed.random, executed.host, executed.chip, executed.state,
    executed.faultless⟩, mirrors.counted, Direction.toNat_advance more,
    Direction.toNat_advance more', command.decodePacket_protocolOnly _⟩

end

/-- On a device on a new chip that has begun a session, a ping returns its data. -/
theorem counting_transparent :
    ∃ device after host chip, Reached (fun _ _ => True) device ∧ device.session = some host ∧
      device.chip.session = some chip ∧ host.Mirrors chip ∧
      attempt (execute 17 (.ping [7])) device = some (.ok [7], after) ∧
      device.Executed (.ping [7]) host chip after := by
  obtain ⟨keys, device, started, begun⟩ := counting_begins
  have reached : Reached (fun _ _ => True) device := reached_of_started trivial started
  have accepted := counting_accepts begun
  have fresh : (0 : UInt32) ≠ 0xFFFFFFFF := by decide
  obtain ⟨after, ran, executed, -⟩ := reached.execute_transparent Standard.exact.toTotal
    begun.session begun.chip (.start _ _) fresh fresh begun.faultless
    (by rw [begun.config]; decide) accepted (show 17 ≤ 17 from Nat.le_refl 17)
  exact ⟨device, after, _, _, reached, begun.session, begun.chip, .start _ _, ran, executed⟩

end Device

end SecureElement
