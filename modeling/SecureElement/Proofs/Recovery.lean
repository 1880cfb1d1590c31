import SecureElement.Proofs.Busy
import SecureElement.Proofs.Effects
import SecureElement.Proofs.Transparency

/-!
The way back from any failure.

A run may have left anything behind: half a command at the chip, results that were
not read, a session that only one side has, a host that has given its session up.
Ending the session brings the host to rest (`Device.Rested`), the handshake clears
what is left at the chip, and from there on every ping is answered
(`Device.Talks`). So whatever a run came to, once no fault waits to happen a device
is brought back into a session by two operations (`Device.Reached.recovers`).
-/

namespace SecureElement

open Bus

/-! ### The end of a session -/

/-- Without faults the chip ends its session and says so. -/
theorem Link.sessionAbort_consents [Primitives] {c : Config} {bus : Bus Chip} (sound : bus.Sound)
    (clear : bus.transport.wire.Clear) (tries : 0 < c.readMaxTries.toNat) :
    ∃ after queue, perform (sessionAbort c) bus = (.ok (), after) ∧ Follows bus after ∧
      after.transport.settled = { bus.transport.settled.ended with responses := queue } := by
  have front : (bus.transport.settled.served ⟨RequestId.sessionAbort, []⟩).front =
      Chip.frameResponse .requestOk [] := by
    rw [Chip.served_abort, Chip.front, Chip.ended, List.headD_cons]
  obtain ⟨follows, outcome⟩ := leads_turn (c := c) .requestOk Chip.length_nil_le
    Chip.length_nil_le front sound.toReady
  have act : (sessionAbort c : BusM Chip Unit) =
      turn c RequestId.sessionAbort [] .requestOk >>= fun _ => pure () := rfl
  rw [act]
  rcases performed : perform (turn c RequestId.sessionAbort [] .requestOk) bus with
    ⟨e | data, after⟩
  all_goals rw [performed] at follows outcome
  · exact absurd ⟨clear, tries, rfl⟩ outcome
  · obtain ⟨-, queue, same, -⟩ := outcome
    rw [perform_bind_ok performed]
    exact ⟨after, queue, rfl, follows, same⟩

namespace Device

section

variable [Primitives] {device after : Device Chip}

/-- A device at rest, on the chip that `before` is on: there is no session and no
fault, and a handshake goes as it would go in `before`. -/
structure Rested (before after : Device Chip) : Prop where
  sound : after.Sound
  idle : after.state ≠ .established
  faultless : after.chip.faults = Faults.none
  config : after.config = before.config
  buffer : after.buffer = before.buffer
  publicKey : after.chip.publicKey = before.chip.publicKey
  store : after.chip.store = before.chip.store
  responder : after.responder = before.responder
  initiator (chipPublic : Key) (pairing : Pairing) :
    after.initiator chipPublic pairing = before.initiator chipPublic pairing
  random : before.Random → after.Random

/-- Ending the session succeeds on a wire without faults, and brings the device to
rest. -/
theorem sessionAbort_rests (sound : device.Sound) (faultless : device.chip.faults = Faults.none)
    (tries : 0 < device.config.readMaxTries.toNat) :
    ∃ after, perform sessionAbort device = (.ok (), after) ∧ device.Rested after ∧
      (device.state ≠ .established → after = device) := by
  by_cases held : device.session.isSome
  · have established := sound.state.mpr held
    obtain ⟨clear, tame⟩ := Chip.faults_eq_none_iff.mp faultless
    obtain ⟨bus, queue, consents, follows, same⟩ :=
      Link.sessionAbort_consents sound.bus clear tries
    have performed : perform sessionAbort device =
        (.ok (), { device.endSession .awaitingHandshake with bus }) := by
      rw [perform_sessionAbort, if_pos held, perform_onBus]
      exact congrArg (fun r : Except Error Unit × Bus Chip =>
        (r.1, { device.endSession .awaitingHandshake with bus := r.2 })) consents
    have yields := sessionAbort_yields sound
    rw [performed] at yields
    have random : bus.transport.random = device.chip.random := (congrArg Chip.random same :)
    have entropy : bus.transport.entropy = device.chip.entropy := (congrArg Chip.entropy same :)
    refine ⟨_, performed, ?_, absurd established⟩
    exact {
      sound := sound.next yields
      idle := nofun
      faultless := Chip.faults_eq_none_iff.mpr
        ⟨follows.clear clear, (congrArg Chip.faults same).trans tame⟩
      config := rfl
      buffer := rfl
      publicKey := (congrArg Chip.publicKey same :)
      store := (congrArg Chip.store same :)
      responder := (congrArg (fun chip : Chip =>
        { chip with random := (chip.random.draw 32).2 }.responder) same :)
      initiator := fun chipPublic pairing => by
        unfold initiator
        rw [← random]
        rfl
      random := fun usable => ⟨entropy ▸ usable.entropy, random ▸ usable.draws⟩ }
  · refine ⟨device, ?_, ?_, fun _ => rfl⟩
    · rw [perform_sessionAbort, if_neg held]
    · exact ⟨sound, mt sound.state.mp held, faultless, rfl, rfl, rfl, rfl, rfl, fun _ _ => rfl, id⟩

/-! ### Pings -/

/-- A device that can talk to its chip: each side has counted `used` packets in each
direction. -/
structure Talks (used : Nat) (device : Device Chip) : Prop where
  sound : device.Sound
  faultless : device.chip.faults = Faults.none
  tries : 0 < device.config.readMaxTries.toNat
  sides : ∃ host chip, device.session = some host ∧ device.chip.session = some chip ∧
    host.Mirrors chip ∧ host.sending.counter.toNat = used ∧ host.receiving.counter.toNat = used

/-- A command keeps the settings and the length of the packet buffer. -/
theorem execute_keeps {frames : Nat} {command : Command} {result : Except Error command.Response}
    (framed : device.bus.Framed) (accepted : refusal? device command = none)
    (ran : attempt (execute frames command) device = some (result, after)) :
    after.config = device.config ∧ after.buffer.length = device.buffer.length := by
  have room := (room_for_command accepted).2
  rw [Session.overhead] at room
  obtain ⟨host, between, held, ⟨e, exchange, -, rfl⟩ | ⟨packet, exchange, -, rfl⟩⟩ :=
    execute_cases accepted ran
  · exact ⟨exchange.config, (exchange.kept framed (by omega)).2⟩
  · have inside := exchange.packet_le rfl
    refine ⟨exchange.config, ?_⟩
    rw [← (exchange.kept framed (by omega)).2]
    apply Bytes.length_overlay
    rw [List.length_replicate]
    omega

/-- The chip answers a ping with its data. -/
theorem executed_ping {data : Bytes} (short : data.length ≤ Limit.ping) :
    (device.executed (.ping data)).1 = ResultCode.ok.byte :: data := by
  have ran (drawn : Bytes) : device.chip.store.run drawn CommandId.ping data =
      .ok (data, device.chip.store) := if_pos short
  unfold executed
  rw [Command.packet, Store.execute_cons]
  dsimp only [Command.id, Command.encode]
  rw [ran]

/-- A ping that fits returns its data, as long as the packets can be counted. -/
theorem Talks.ping {used frames : Nat} {data : Bytes} (talks : device.Talks used)
    (total : Aead.Total) (enough : 17 ≤ frames) (few : used < 0xFFFFFFFF)
    (short : data.length ≤ Limit.ping)
    (fits : 1 + data.length + Session.overhead ≤ device.buffer.length) :
    ∃ after, attempt (Device.ping frames data) device = some (.ok data, after) ∧
      after.Talks (used + 1) ∧ after.buffer.length = device.buffer.length := by
  obtain ⟨host, chip, held, held', mirrors, sent, received⟩ := talks.sides
  have accepted : refusal? device (.ping data) = none := by
    have small : ¬(Command.ping data).maxDataLength < (Command.ping data).dataLength :=
      Nat.not_lt.mpr short
    have room : ¬device.buffer.length < frameLength (.ping data) := by
      simp only [frameLength, Command.dataLength, Command.responseLength, Nat.max_self]
      omega
    unfold refusal?
    rw [if_neg small, if_neg room, held]
    rfl
  have more : host.sending.counter ≠ 0xFFFFFFFF := by
    intro last
    rw [last] at sent
    exact absurd sent.symm (Nat.ne_of_lt few)
  have more' : host.receiving.counter ≠ 0xFFFFFFFF := by
    intro last
    rw [last] at received
    exact absurd received.symm (Nat.ne_of_lt few)
  obtain ⟨between, exchanged, executed⟩ := attempt_exchange total talks.sound held held' mirrors
    more more' talks.faultless talks.tries accepted enough
  have answered : attempt (execute frames (.ping data)) device =
      some (.ok data, between.wiped (ResultCode.ok.byte :: data)) := by
    rw [attempt_execute accepted, exchanged, executed_ping short]
    rfl
  have sound := talks.sound.next (execute_yields talks.sound answered)
  obtain ⟨config, buffer⟩ := execute_keeps talks.sound.bus.length accepted answered
  refine ⟨_, ?_, ⟨sound, executed.faultless, ?_, _, _, executed.host, executed.chip,
    mirrors.counted, ?_, ?_⟩, buffer⟩
  · unfold Device.ping
    rw [attempt_bind_ok answered]
    simp
  · rw [config]
    exact talks.tries
  · exact (Direction.toNat_advance more).trans (congrArg (· + 1) sent)
  · exact (Direction.toNat_advance more').trans (congrArg (· + 1) received)

/-- Pings that fit return their data, one after the other. -/
theorem Talks.pings {frames : Nat} (total : Aead.Total) (enough : 17 ≤ frames) {used : Nat}
    {pings : List Bytes} (talks : device.Talks used) (few : used + pings.length ≤ 0xFFFFFFFF)
    (fit : ∀ data ∈ pings, data.length ≤ Limit.ping ∧
      1 + data.length + Session.overhead ≤ device.buffer.length) :
    ∃ final, attempt (pings.mapM (Device.ping frames)) device = some (.ok pings, final) ∧
      final.Talks (used + pings.length) := by
  induction pings generalizing used device with
  | nil => exact ⟨device, rfl, talks⟩
  | cons data rest ih =>
    rw [List.length_cons] at few
    obtain ⟨short, fits⟩ := fit data (List.mem_cons_self ..)
    obtain ⟨between, answered, talks', room⟩ := talks.ping total enough (by omega) short fits
    obtain ⟨final, others, talks''⟩ := ih talks' (by omega) fun other member => by
      rw [room]
      exact fit other (List.mem_cons_of_mem data member)
    refine ⟨final, ?_, ?_⟩
    · rw [List.mapM_cons, attempt_bind_ok answered, attempt_bind_ok others]
      rfl
    · rwa [List.length_cons, Nat.add_comm rest.length, ← Nat.add_assoc]

/-! ### Recovery -/

/-- From rest, parties that meet begin a session in which they can talk. -/
theorem Rested.begins {before : Device Chip} (rested : before.Rested device)
    (tries : 0 < before.config.readMaxTries.toNat) (random : before.Random) {pairing : Pairing}
    (meets : (before.initiator before.chip.publicKey pairing).Meets before.responder
      before.chip.store.pairingKey?) (total : Aead.Total) :
    ∃ keys after, perform (verifyAndStart pairing) device = (.ok (), after) ∧
      Begun before.config.suite keys device after ∧ after.Talks 0 := by
  have tries' : 0 < device.config.readMaxTries.toNat := rested.config.symm ▸ tries
  have meets' : (device.initiator device.chip.publicKey pairing).Meets device.responder
      device.chip.store.pairingKey? := by
    rw [rested.publicKey, rested.initiator, rested.responder, rested.store]
    exact meets
  obtain ⟨keys, after, started, begun⟩ := verifyAndStart_begins rested.sound rested.idle
    rested.faultless tries' (rested.random random) meets' total
  have yields := verifyAndStart_yields rested.sound pairing
  rw [started] at yields
  rw [rested.config] at begun
  refine ⟨keys, after, started, begun, rested.sound.next yields, begun.faultless, ?_, _, _,
    begun.session, begun.chip, .start _ _, rfl, rfl⟩
  rw [begun.config]
  exact tries'

/-- Whatever a run has come to, the device is brought back: once no fault waits to
happen, ending the session succeeds, a handshake with a pairing key that the chip
holds succeeds, and every ping that fits returns its data, as long as the packets of
the session can be counted. Chip select is not asserted in between, and the chip
has no part of a command left when the session begins. -/
theorem Reached.recovers {allowed : Device Chip → Action → Prop} (total : Aead.Total)
    (reached : Reached allowed device) (faultless : device.chip.faults = Faults.none)
    (tries : 0 < device.config.readMaxTries.toNat) (random : device.Random) {pairing : Pairing}
    (meets : (device.initiator device.chip.publicKey pairing).Meets device.responder
      device.chip.store.pairingKey?) :
    device.chip.window.selected = false ∧
    ∃ rested, perform sessionAbort device = (.ok (), rested) ∧
      (device.state ≠ .established → rested = device) ∧
    ∃ keys after, perform (verifyAndStart pairing) rested = (.ok (), after) ∧
      after.state = .established ∧
      after.session = some (Session.forHost device.config.suite keys) ∧
      after.chip.session = some (Session.forChip device.config.suite keys) ∧
      after.chip.pending = [] ∧ after.chip.window.selected = false ∧
    ∀ (frames : Nat) (pings : List Bytes), 17 ≤ frames → pings.length ≤ 0xFFFFFFFF →
      (∀ data ∈ pings, data.length ≤ Limit.ping ∧
        1 + data.length + Session.overhead ≤ device.buffer.length) →
      ∃ final, attempt (pings.mapM (Device.ping frames)) after = some (.ok pings, final) := by
  obtain ⟨rested, ended, rests, still⟩ := sessionAbort_rests reached.sound faultless tries
  obtain ⟨keys, after, started, begun, talks⟩ := rests.begins tries random meets total
  obtain ⟨-, -, idle⟩ := talks.sound.paired _ begun.session
  refine ⟨reached.sound.bus.closed, rested, ended, still, keys, after, started, begun.state,
    begun.session, begun.chip, idle, talks.sound.bus.closed, fun frames pings enough few fit => ?_⟩
  obtain ⟨final, answered, -⟩ := talks.pings total enough
      (show 0 + pings.length ≤ 0xFFFFFFFF by omega) fun data member => by
    rw [begun.buffer, rests.buffer]
    exact fit data member
  exact ⟨final, answered⟩

end

/-! ### A chip that was busy for too long -/

/-- The device on a chip that will be busy for some polls. -/
def busied (device : Device Chip) (polls : Nat) : Device Chip :=
  { device with bus.transport := device.chip.busyPolls polls }

/-- A chip that is busy for all polls of a request for its identity: the request fails, and
the answer stays at the chip. -/
theorem chipId_busy [Primitives] {device : Device Chip} (ready : device.bus.Ready)
    (faultless : device.chip.faults = Faults.none) (polls : Nat)
    (busy : polls =
      device.config.readMaxTries.toNat * (device.config.transportRetries.toNat + 1)) :
    ∃ bus answer, perform chipId (device.busied polls) =
        (.error (.transport .notReady), { device with bus }) ∧
      bus.transport.faults = Faults.none ∧
      bus.transport.settled = { device.chip.settled with responses := [answer] } := by
  obtain ⟨⟨transfers, -, response⟩, tame⟩ := Chip.faults_eq_none_iff.mp faultless
  have waiting : Waiting device.chip.settled polls device.chip.delayed (device.busied polls).bus :=
    ⟨⟨ready.length, ready.closed⟩, rfl, transfers, response, rfl, rfl⟩
  obtain ⟨delayed, bus, ran, waiting⟩ := Link.transceive_busy RequestId.getInfo
    (show [Info.Object.chipId.byte, 0].length ≤ Frame.maxData by decide)
    (Nat.le_of_eq busy.symm) waiting
  obtain ⟨answer, served⟩ := device.chip.settled.served_getInfo [Info.Object.chipId.byte, 0]
  refine ⟨bus, answer, ?_, ?_, waiting.settled.trans served⟩
  · unfold chipId
    rw [perform_bind_error]
    rw [perform_onBus]
    exact congrArg (fun r : Except Error Bytes × Bus Chip =>
      (r.1, { device.busied polls with bus := r.2 })) ran
  · refine Chip.faults_eq_none_iff.mpr ⟨⟨waiting.transfers, ?_, waiting.response⟩, ?_⟩
    · rw [waiting.polls, busy, Nat.sub_self]
    · rw [waiting.settled, served]
      exact tame

/-- After a handshake the device on a new chip, the chip and the default pairing keys still
meet. -/
theorem counting_meets_again :
    (counting.drawn.drawn.initiator counting.chip.publicKey defaultPairing).Meets
      counting.drawn.drawn.responder counting.chip.store.pairingKey? where
  suite := rfl
  hostPublic := rfl
  known := rfl
  chipPublic := rfl
  ephemerals := by decide +kernel
  hostStatic := by decide +kernel
  chipStatic := by decide +kernel

/-- They do so too if the chip has answered another request since. -/
theorem counting_meets_later {keys : SessionKeys} {device : Device Chip} {bus : Bus Chip}
    {answer : Bytes} (begun : Begun .aes256Gcm keys counting device)
    (left : bus.transport.settled = { device.chip.settled with responses := [answer] }) :
    Device.Random { device with bus } ∧
      (Device.initiator { device with bus } bus.transport.publicKey defaultPairing).Meets
        (Device.responder { device with bus }) bus.transport.store.pairingKey? := by
  obtain ⟨response, queue, met⟩ := begun.met
  have chip := left.trans (congrArg (fun chip : Chip => { chip with responses := [answer] }) met)
  have random : bus.transport.random = counting.drawn.drawn.chip.random :=
    (congrArg Chip.random chip :)
  have publicKey : bus.transport.publicKey = counting.chip.publicKey :=
    (congrArg Chip.publicKey chip :)
  have store : bus.transport.store = counting.chip.store := (congrArg Chip.store chip :)
  have responder : Device.responder { device with bus } = counting.drawn.drawn.responder :=
    (congrArg (fun chip : Chip =>
      { chip with random := (chip.random.draw 32).2 }.responder) chip :)
  have initiator : Device.initiator { device with bus } counting.chip.publicKey defaultPairing =
      counting.drawn.drawn.initiator counting.chip.publicKey defaultPairing := by
    unfold Device.initiator
    dsimp only [Device.chip]
    rw [random, begun.config]
    rfl
  refine ⟨⟨.inl (congrArg Chip.entropy chip :), congrArg RandomSource.failure random⟩, ?_⟩
  rw [publicKey, responder, store, initiator]
  exact counting_meets_again

/-- The device on a new chip, in a session, has a request fail because the chip is busy for
all two hundred polls, and the answer stays at the chip. The device is brought back into a
session all the same, and pings its chip. -/
theorem counting_recovers : ∃ device stuck rested after final,
    perform (verifyAndStart defaultPairing) counting = (.ok (), device) ∧
    perform chipId (device.busied 200) = (.error (.transport .notReady), stuck) ∧
    stuck.state = .established ∧ stuck.chip.responses ≠ [] ∧
    perform sessionAbort stuck = (.ok (), rested) ∧
    perform (verifyAndStart defaultPairing) rested = (.ok (), after) ∧
    after.state = .established ∧
    attempt ([[7], [], [8, 9]].mapM (ping 17)) after = some (.ok [[7], [], [8, 9]], final) := by
  obtain ⟨keys, device, started, begun⟩ := counting_begins
  have reached : Reached (fun _ _ => True) device := reached_of_started trivial started
  obtain ⟨bus, answer, failed, faultless, left⟩ := chipId_busy reached.sound.bus.toReady
    begun.faultless 200 (by rw [begun.config]; decide)
  have turned : attempt (Action.run 0 (.turn (.busyPolls 200))) device =
      some (.ok (), device.busied 200) := rfl
  have ran' : attempt (Action.run 0 .chipId) (device.busied 200) =
      some (.error (.transport .notReady), { device with bus }) := by
    rw [Action.run, attempt_bind, attempt_bounded, failed]
  have reached' : Reached (fun _ _ => True) { device with bus } :=
    .step (.step reached trivial turned) trivial ran'
  obtain ⟨random, meets⟩ := counting_meets_later begun left
  obtain ⟨-, rested, ended, -, keys', after, started', established, -, -, -, -, answers⟩ :=
    reached'.recovers Standard.exact.toTotal faultless (by rw [begun.config]; decide) random meets
  dsimp only at answers
  rw [counting_room begun] at answers
  obtain ⟨final, answered⟩ := answers 17 [[7], [], [8, 9]] (Nat.le_refl 17) (by decide) (by decide)
  have unread : bus.transport.responses = [answer] := (congrArg Chip.responses left :)
  refine ⟨device, _, rested, after, final, started, failed, begun.state, ?_, ended, started',
    established, answered⟩
  rw [show Device.chip { device with bus } = bus.transport from rfl, unread]
  exact List.cons_ne_nil answer []

end Device

end SecureElement
