import SecureElement.Proofs.Operations

/-!
How a session is established.

The host draws its ephemeral key, the chip answers the request with one of its
own, and the host begins a session only if it accepts the answer. A response that
was damaged on the wire never is accepted, because a damaged response that passes
has another length. The host finds the chip's static key in the certificate,
which it reads in blocks.
-/

namespace SecureElement

/-! ### The certificate -/

namespace Info

/-- Bytes that do not begin a mark are skipped. -/
theorem afterMark?_append {front : Bytes} (other : ∀ byte ∈ front, byte ≠ 0x65) (rest : Bytes) :
    afterMark? (front ++ rest) = afterMark? rest := by
  induction front with
  | nil => rfl
  | cons byte front ih =>
    have differs : keyMark.isPrefixOf (byte :: (front ++ rest)) = false := by
      have first := (other byte (List.mem_cons_self ..)).symm
      simp [keyMark, List.isPrefixOf, first]
    rw [List.cons_append, afterMark?, differs]
    exact ih fun next member => other next (List.mem_cons_of_mem byte member)

theorem afterMark?_mark (rest : Bytes) : afterMark? (keyMark ++ rest) = some rest := by
  simp [keyMark, afterMark?, List.isPrefixOf]

end Info

namespace Chip

/-- What a certificate consists of. -/
theorem certificateOf_eq (key : Key) :
    ∃ front back, certificateOf key = front ++ (Info.keyMark ++ (key.val ++ back)) ∧
      ∀ byte ∈ front, byte ≠ 0x65 := by
  let head := Bytes.overlay (List.replicate Info.certificateLength 0) 0 [0x30, 0x82, 0x01, 0xFC]
  refine ⟨head.take keyOffset ++ [0x06, 0x03, 0x2B],
    head.drop (keyOffset + ([0x06, 0x03, 0x2B] ++ Info.keyMark ++ key.val).length), ?_,
    by decide +kernel⟩
  unfold certificateOf
  dsimp only
  rw [Bytes.overlay]
  simp only [head, List.append_assoc]

theorem length_certificateOf (key : Key) :
    (certificateOf key).length = Info.certificateLength := by
  have size : ([0x06, 0x03, 0x2B] ++ Info.keyMark ++ key.val).length = 40 := by
    simp [Info.keyMark, key.property]
  have head : (Bytes.overlay (List.replicate Info.certificateLength 0) 0
      [0x30, 0x82, 0x01, 0xFC]).length = Info.certificateLength := by
    rw [Bytes.length_overlay (by rw [List.length_replicate]; decide), List.length_replicate]
  unfold certificateOf
  dsimp only
  rw [Bytes.length_overlay (by rw [size, head]; decide), head]

/-- The key is found in its certificate. -/
theorem staticKey_certificateOf (key : Key) : Info.staticKey (certificateOf key) = .ok key := by
  obtain ⟨front, back, same, other⟩ := certificateOf_eq key
  unfold Info.staticKey
  rw [same, Info.afterMark?_append other, Info.afterMark?_mark]
  dsimp only
  rw [List.take_left' key.property, Octets.ofBytes?_val]

variable [Primitives]

theorem Sound.length_certificate {chip : Chip} (sound : chip.Sound) :
    chip.certificate.length = Info.certificateLength := by
  rw [sound.certified, length_certificateOf]

theorem perform_random {chip : Chip} {count : Nat} {bytes : Octets count} {random : RandomSource}
    (draws : chip.random.tryDraw count = (.ok bytes, random)) :
    perform (Transport.random count : ExceptT TransportError (StateM Chip) (Octets count)) chip =
      (.ok bytes, { chip with random }) := by
  simp only [Transport.random, perform_bind, perform_get, draws]
  rfl

theorem perform_random_error {chip : Chip} {count : Nat} {reason : String} {random : RandomSource}
    (fails : chip.random.tryDraw count = (.error reason, random)) :
    perform (Transport.random count : ExceptT TransportError (StateM Chip) (Octets count)) chip =
      (.error (.bus reason), { chip with random }) := by
  simp only [Transport.random, perform_bind, perform_get, fails]
  rfl

/-- A block of the certificate is read. -/
theorem served_block (chip : Chip) (block : UInt8)
    (inside : block.toNat * Info.blockLength < chip.certificate.length) :
    chip.served ⟨RequestId.getInfo, [Info.Object.certificate.byte, block]⟩ =
      { chip with responses := [frameResponse .requestOk
        (chip.certificate.slice (block.toNat * Info.blockLength) Info.blockLength)] } :=
  if_neg (Nat.not_le_of_lt inside)

end Chip

namespace Device

open Bus

/-- Outcome of reading a part of the certificate: if anything is read, it is that
part, and on a wire without faults it is read. -/
def Certified (chip : Chip) (first count tries : Nat) (clear : Prop) (result : Except Error Bytes) :
    Prop :=
  (∀ bytes, result = .ok bytes → bytes = chip.certificate.slice first count) ∧
    (clear → 0 < tries → ∃ bytes, result = .ok bytes)

section

variable {chip : Chip} {first count tries : Nat} {clear : Prop}

/-- A failure is no reading, so on a wire without faults there must be none. -/
theorem Certified.of_error {e : Error} (never : clear → ¬0 < tries) :
    Certified chip first count tries clear (.error e) := by
  refine ⟨?_, fun clear tried => absurd tried (never clear)⟩
  intro bytes read
  cases read

/-- Parts that are read one behind the other are one part. -/
theorem Certified.append {bytes rest : Bytes} {count' : Nat} {clear' : Prop}
    (part : bytes = chip.certificate.slice first count)
    (behind : Certified chip (first + count) count' tries clear' (.ok rest)) :
    Certified chip first (count + count') tries clear (.ok (bytes ++ rest)) := by
  refine ⟨?_, fun _ _ => ⟨_, rfl⟩⟩
  rintro _ ⟨⟩
  rw [part, behind.1 rest rfl, Bytes.slice_append]

end

variable [Primitives] {start device : Device Chip}

/-- A block of the right length is genuine. -/
theorem leads_block {c : Config} {bus : Bus Chip} (ready : bus.Ready) {block : UInt8}
    (inside : block.toNat * Info.blockLength + Info.blockLength ≤
      bus.transport.certificate.length) :
    Leads (Link.getInfo c Info.Object.certificate.byte block) bus fun result _ =>
      (∀ data, result = .ok data → data.length = Info.blockLength →
        data = bus.transport.certificate.slice (block.toNat * Info.blockLength) Info.blockLength) ∧
      (bus.transport.wire.Clear → 0 < c.readMaxTries.toNat → ∃ data, result = .ok data ∧
        data.length = Info.blockLength) := by
  have positive : 0 < Info.blockLength := by decide
  have served := Chip.served_block bus.transport.settled block
    (show _ < bus.transport.certificate.length by omega)
  have size : (bus.transport.settled.certificate.slice (block.toNat * Info.blockLength)
      Info.blockLength).length = Info.blockLength := Bytes.length_slice inside
  have small := Nat.le_trans (Nat.le_of_eq size) (show Info.blockLength ≤ Frame.maxData by decide)
  have front : (bus.transport.settled.served ⟨RequestId.getInfo,
      [Info.Object.certificate.byte, block]⟩).front = Chip.frameResponse .requestOk
        (bus.transport.settled.certificate.slice (block.toNat * Info.blockLength)
          Info.blockLength) := by
    rw [served, Chip.front, List.headD_cons]
  refine (Link.leads_turn _ (Nat.le_of_ble_eq_true rfl) small front ready).mono ?_
  rintro (e | data) after outcome
  · refine ⟨fun _ same => ?_, fun clear tried => absurd ⟨clear, tried, rfl⟩ outcome⟩
    cases same
  · obtain ⟨-, queue, -, ⟨rfl, -⟩ | ⟨unclear, -, other⟩⟩ := outcome
    · refine ⟨fun _ same _ => (Except.ok.inj same).symm, fun _ _ => ⟨_, rfl, size⟩⟩
    · refine ⟨fun _ same long => ?_, fun clear => absurd clear unclear⟩
      cases same
      exact absurd (long.trans size.symm) other

/-- Blocks are read one behind the other. -/
theorem certificateBlocks_outcome
    (size : start.chip.certificate.length = Info.certificateLength) (count : Nat) (block : UInt8)
    (inside : block.toNat + count ≤ 4) (reading : Reading start device) :
    Follows device.bus (perform (certificateBlocks count block) device).2.bus ∧
      Certified start.chip (block.toNat * Info.blockLength) (count * Info.blockLength)
        start.config.readMaxTries.toNat device.bus.transport.wire.Clear
        (perform (certificateBlocks count block) device).1 := by
  induction count generalizing block device with
  | zero =>
    obtain ⟨bus, ⟨sound', -⟩, rfl⟩ := reading
    refine ⟨.refl sound'.toReady, ?_, fun _ _ => ⟨[], rfl⟩⟩
    rintro _ ⟨⟩
    simp [Bytes.slice]
  | succ count ih =>
    have kept := keeps_onBus
      (fun c => Link.keeps_getInfo (c := c) Info.Object.certificate.byte block) device reading
    obtain ⟨bus, ⟨sound', queue, same⟩, rfl⟩ := reading
    have certificate : bus.transport.certificate = start.chip.certificate := by
      have settled := congrArg Chip.certificate same
      exact settled
    have room : block.toNat * Info.blockLength + Info.blockLength ≤
        bus.transport.certificate.length := by
      rw [certificate, size]
      simp only [Info.certificateLength, Info.blockLength]
      omega
    obtain ⟨follows, genuine, readable⟩ := leads_block (c := start.config) sound'.toReady room
    rw [certificate] at genuine
    have next : (block + 1).toNat = block.toNat + 1 := by
      rw [UInt8.toNat_add, UInt8.toNat_one]
      omega
    have inside' : (block + 1).toNat + count ≤ 4 := by omega
    unfold certificateBlocks
    rw [perform_bind]
    rw [perform_onBus] at kept ⊢
    dsimp only at kept ⊢
    rcases performed :
      perform (Link.getInfo start.config Info.Object.certificate.byte block) bus with
      ⟨e | data, after⟩
    all_goals rw [performed] at kept follows genuine readable
    · refine ⟨follows, .of_error fun clear tried => ?_⟩
      obtain ⟨data, read, -⟩ := readable clear tried
      cases read
    · dsimp only
      split
      · rename_i other
        refine ⟨follows, .of_error fun clear tried => ?_⟩
        obtain ⟨_, read, long⟩ := readable clear tried
        cases read
        exact other long
      · rename_i long
        have part := genuine data rfl (Decidable.not_not.mp long)
        obtain ⟨behind, certified⟩ := ih (block + 1) inside' kept
        rw [next] at certified
        rcases more : perform (certificateBlocks count (block + 1)) { start with bus := after } with
          ⟨e | rest, final⟩
        all_goals rw [more] at behind certified
        · rw [perform_bind_error more]
          refine ⟨follows.trans behind, .of_error fun clear tried => ?_⟩
          obtain ⟨_, read⟩ := certified.2 (follows.clear clear) tried
          cases read
        · rw [perform_bind_ok more, Nat.add_mul, Nat.one_mul, Nat.add_comm]
          rw [Nat.add_mul, Nat.one_mul] at certified
          exact ⟨follows.trans behind, .append part certified⟩

/-- The certificate is read as it is or not at all. -/
theorem certificate_outcome (sound : device.Sound) :
    Follows device.bus (perform certificate device).2.bus ∧
      (∀ bytes, (perform certificate device).1 = .ok bytes → bytes = device.chip.certificate) ∧
      (device.bus.transport.wire.Clear → 0 < device.config.readMaxTries.toNat →
        ∃ bytes, (perform certificate device).1 = .ok bytes) := by
  have size : device.chip.certificate.length = Info.certificateLength :=
    sound.bus.chip.length_certificate
  obtain ⟨follows, genuine, readable⟩ := certificateBlocks_outcome size
    (Info.certificateLength / Info.blockLength) 0 (by decide) (.refl sound)
  refine ⟨follows, fun bytes read => ?_, readable⟩
  rw [genuine bytes read, Bytes.slice]
  exact List.take_of_length_le (by rw [List.length_drop, size]; decide)

end Device

/-! ### The handshake -/

namespace Link

open Bus

variable [Primitives] {c : Config} {bus : Bus Chip}

/-- Outcome of a handshake on the wire: the chip has answered and begun a session,
and what is received is the answer or has another length; or there is a failure. -/
def Answers (bus : Bus Chip) (host : Initiator) (tries : Nat) :
    Except Error Bytes → Bus Chip → Prop
  | .ok data, after => ∃ response keys,
      bus.transport.responder.answer host.request bus.transport.store.pairingKey? =
        .ok (response, keys) ∧
      (data = response ∨
        ¬bus.transport.wire.Clear ∧ data.length ≠ Handshake.responseLength) ∧
      ∃ queue, after.transport.settled =
        { bus.transport.settled.met response keys with responses := queue }
  | .error _, _ => ¬(bus.transport.wire.Clear ∧ 0 < tries ∧ ∃ outcome,
      bus.transport.responder.answer host.request bus.transport.store.pairingKey? = .ok outcome)

theorem handshake_sound (sound : bus.Sound) (host : Initiator) :
    (perform (handshake c host.ephemeralPublic host.slot.byte) bus).2.Sound := by
  refine turn_sound RequestId.handshake sound ?_ .requestOk
  exact Nat.le_trans (Nat.le_of_eq host.length_request) (by decide)

theorem leads_handshake (sound : bus.Sound) (host : Initiator) :
    Leads (handshake c host.ephemeralPublic host.slot.byte) bus
      (Answers bus host c.readMaxTries.toNat) := by
  have short : host.request.length ≤ Frame.maxData := by
    rw [host.length_request]
    decide
  cases answered : bus.transport.responder.answer host.request bus.transport.store.pairingKey? with
  | error cause =>
    have served := Chip.served_handshake_error bus.transport.settled answered
    have front : (bus.transport.settled.served ⟨RequestId.handshake, host.request⟩).front =
        Chip.frameResponse .handshakeErr [] := by
      rw [served, Chip.front, List.headD_cons]
    refine (leads_turn _ short Chip.length_nil_le front sound.toReady).mono ?_
    rintro (e | data) after outcome
    · rintro ⟨-, -, outcome, answers⟩
      rw [answered] at answers
      cases answers
    · cases outcome.1
  | ok outcome =>
    obtain ⟨response, keys⟩ := outcome
    have size := Responder.length_of_answer answered
    have served := Chip.served_handshake bus.transport.settled answered
    have front : (bus.transport.settled.served ⟨RequestId.handshake, host.request⟩).front =
        Chip.frameResponse .requestOk response := by
      rw [served, Chip.front, Chip.met, List.headD_cons]
    have small : response.length ≤ Frame.maxData := by
      rw [size]
      decide
    refine (leads_turn _ short small front sound.toReady).mono ?_
    rintro (e | data) after outcome
    · exact fun h => outcome ⟨h.1, h.2.1, rfl⟩
    · obtain ⟨-, queue, same, read⟩ := outcome
      rw [served] at same
      refine ⟨response, keys, answered, ?_, queue, same⟩
      rcases read with ⟨genuine, -⟩ | ⟨unclear, -, other⟩
      · exact .inl genuine
      · exact .inr ⟨unclear, size ▸ other⟩

end Link

namespace Device

variable {device : Device Chip}

variable [Primitives]

/-- The random bytes of the chip can be used for a handshake. -/
structure Random (device : Device Chip) : Prop where
  entropy : device.chip.entropy = .strong ∨ device.config.allowWeakEntropy = true
  draws : device.chip.random.failure = none

/-- The device when it has drawn its ephemeral key. -/
def drawn (device : Device Chip) : Device Chip :=
  { device with
    state := .awaitingHandshake
    bus.transport.random := (device.chip.random.draw 32).2 }

theorem drawn_sound (sound : device.Sound) : device.drawn.bus.Sound :=
  ⟨⟨sound.bus.length, sound.bus.closed⟩, sound.bus.chip.like rfl rfl rfl rfl⟩

/-- What the host does once it has drawn its ephemeral key. -/
def meet (host : Initiator) : DeviceM Chip Unit := do
  let response ← tryCatch
    (onBus fun c => Link.handshake c host.ephemeralPublic host.slot.byte)
    fun e => throw (rejectedHandshake e)
  match host.finish response with
  | .error cause => throw (.handshake cause)
  | .ok keys =>
    modify fun device =>
      { device with session := some (Session.forHost host.suite keys), state := .established }

theorem perform_checkEntropy
    (allowed : device.chip.entropy = .strong ∨ device.config.allowWeakEntropy = true) :
    perform (checkEntropy : DeviceM Chip Unit) { device with state := .awaitingHandshake } =
      (.ok (), { device with state := .awaitingHandshake }) := by
  have permitted : ¬(device.chip.entropy = .weak ∧ device.config.allowWeakEntropy = false) := by
    rintro ⟨weak, denied⟩
    rcases allowed with strong | allowed
    · rw [weak] at strong
      cases strong
    · rw [denied] at allowed
      cases allowed
  unfold checkEntropy
  rw [perform_bind_ok (perform_get _)]
  exact congrArg (fun act : DeviceM Chip Unit => perform act _) (if_neg permitted)

theorem perform_draw {bytes : Key} {random : RandomSource}
    (draws : device.chip.random.tryDraw 32 = (.ok bytes, random)) :
    perform (onBus fun _ => Bus.random 32 : DeviceM Chip (Octets 32))
      { device with state := .awaitingHandshake } =
      (.ok bytes, { device with state := .awaitingHandshake, bus.transport.random := random }) := by
  rw [perform_onBus, Bus.random, Bus.perform_lift, Chip.perform_random draws]
  rfl

theorem perform_draw_error {reason : String} {random : RandomSource}
    (fails : device.chip.random.tryDraw 32 = (.error reason, random)) :
    perform (onBus fun _ => Bus.random 32 : DeviceM Chip (Octets 32))
      { device with state := .awaitingHandshake } =
      (.error (.transport (.bus reason)),
        { device with state := .awaitingHandshake, bus.transport.random := random }) := by
  rw [perform_onBus, Bus.random, Bus.perform_lift, Chip.perform_random_error fails]
  rfl

theorem perform_sessionStart (idle : device.state ≠ .established) (random : device.Random)
    (chipPublic : Key) (pairing : Pairing) :
    perform (sessionStart chipPublic pairing) device =
      perform (meet (device.initiator chipPublic pairing)) device.drawn := by
  have draws : device.chip.random.tryDraw 32 =
      (.ok (device.chip.random.draw 32).1, (device.chip.random.draw 32).2) := by
    unfold RandomSource.tryDraw
    rw [random.draws]
  unfold sessionStart
  rw [perform_bind_ok (perform_expectNoSession idle), perform_bind_ok (perform_modify _ _),
    perform_bind_ok (perform_checkEntropy random.entropy), perform_bind_ok (perform_draw draws),
    perform_bind_ok (perform_get _)]
  rfl

/-- A handshake goes as far as what the chip answers and the host accepts. -/
theorem perform_meet (host : Initiator) (device : Device Chip) :
    perform (meet host) device =
      match perform (Link.handshake device.config host.ephemeralPublic host.slot.byte)
        device.bus with
      | (.error e, bus) => (.error (rejectedHandshake e), { device with bus })
      | (.ok response, bus) =>
        match host.finish response with
        | .error cause => (.error (.handshake cause), { device with bus })
        | .ok keys => (.ok (),
            { device with
              bus
              session := some (Session.forHost host.suite keys)
              state := .established }) := by
  unfold meet
  rw [perform_bind, perform_tryCatch_throw, perform_onBus]
  dsimp only
  rcases perform (Link.handshake device.config host.ephemeralPublic host.slot.byte) device.bus with
    ⟨e | response, bus⟩
  · rfl
  · dsimp only [mapError_ok]
    cases host.finish response <;> rfl

/-- The host accepts nothing but what the chip has answered. -/
theorem meet_yields (sound : device.Sound) (none : device.session = none)
    (host : Initiator) : Yields (some host) device (perform (meet host) device.drawn).2 := by
  have drawn := drawn_sound sound
  have idle : device.drawn.state = .established ↔ device.drawn.session.isSome := by
    simp [Device.drawn, none]
  obtain ⟨follows, outcome⟩ := Link.leads_handshake (c := device.config) drawn host
  have kept := Link.handshake_sound (c := device.config) drawn host
  rw [perform_meet]
  rcases performed :
    perform (Link.handshake device.drawn.config host.ephemeralPublic host.slot.byte)
      device.drawn.bus with ⟨e | data, bus⟩
  all_goals
    rw [show device.config = device.drawn.config from rfl, performed] at kept outcome
  · exact ⟨kept, idle, .ended none⟩
  · dsimp only
    cases accepted : host.finish data with
    | error cause => exact ⟨kept, idle, .ended none⟩
    | ok keys' =>
      obtain ⟨response, keys, answered, genuine | ⟨-, other⟩, queue, met⟩ := outcome
      · have session := congrArg Chip.session met
        have pending := congrArg Chip.pending met
        exact ⟨kept, by simp, .started rfl answered (genuine ▸ accepted) rfl session pending⟩
      · rw [host.finish_of_length other] at accepted
        cases accepted

/-- Without usable random bytes there is no handshake. -/
theorem sessionStart_refused (idle : device.state ≠ .established) (unusable : ¬device.Random)
    (chipPublic : Key) (pairing : Pairing) :
    ∃ e random, perform (sessionStart chipPublic pairing) device = (.error e,
      { device with state := .awaitingHandshake, bus.transport.random := random }) := by
  unfold sessionStart
  rw [perform_bind_ok (perform_expectNoSession idle), perform_bind_ok (perform_modify _ _)]
  by_cases allowed : device.chip.entropy = .strong ∨ device.config.allowWeakEntropy = true
  · rw [perform_bind_ok (perform_checkEntropy allowed)]
    cases failing : device.chip.random.failure with
    | none => exact absurd ⟨allowed, failing⟩ unusable
    | some reason =>
      have fails : device.chip.random.tryDraw 32 =
          (.error reason, { device.chip.random with failure := none }) := by
        unfold RandomSource.tryDraw
        rw [failing]
      rw [perform_bind_error (perform_draw_error fails)]
      exact ⟨_, _, rfl⟩
  · have denied : device.chip.entropy = .weak ∧ device.config.allowWeakEntropy = false := by
      obtain ⟨weak, denied⟩ := not_or.mp allowed
      refine ⟨?_, by simpa using denied⟩
      cases quality : device.chip.entropy with
      | strong => exact absurd quality weak
      | weak => rfl
    have refused : perform (checkEntropy : DeviceM Chip Unit)
        { device with state := .awaitingHandshake } = _ :=
      perform_checkEntropy_of_weak denied.1 denied.2
    rw [perform_bind_error refused]
    exact ⟨_, device.chip.random, rfl⟩

theorem sessionStart_yields (sound : device.Sound) (chipPublic : Key) (pairing : Pairing) :
    Yields (some (device.initiator chipPublic pairing)) device
      (perform (sessionStart chipPublic pairing) device).2 := by
  by_cases established : device.state = .established
  · have refused : perform (sessionStart chipPublic pairing) device =
        (.error .sessionActive, device) := by
      unfold sessionStart
      rw [perform_bind_error (perform_expectNoSession_active established)]
    rw [refused]
    exact ⟨sound.bus, sound.state, .kept rfl rfl rfl⟩
  · have none : device.session = none := by
      have absent := mt sound.state.mpr established
      simpa using absent
    by_cases random : device.Random
    · rw [perform_sessionStart established random]
      exact meet_yields sound none _
    · obtain ⟨e, random, refused⟩ := sessionStart_refused established random chipPublic pairing
      rw [refused]
      refine ⟨?_, by simp [none], .ended none⟩
      exact ⟨⟨sound.bus.length, sound.bus.closed⟩, sound.bus.chip.like rfl rfl rfl rfl⟩

theorem verifyAndStart_yields (sound : device.Sound) (pairing : Pairing) :
    Yields (some (device.initiator device.chip.publicKey pairing)) device
      (perform (verifyAndStart pairing) device).2 := by
  unfold verifyAndStart
  by_cases established : device.state = .established
  · rw [perform_bind_error (perform_expectNoSession_active established)]
    exact ⟨sound.bus, sound.state, .kept rfl rfl rfl⟩
  · have reading := keeps_certificate device (.refl sound)
    obtain ⟨-, genuine, -⟩ := certificate_outcome sound
    rw [perform_bind_ok (perform_expectNoSession established)]
    rcases performed : perform certificate device with ⟨e | bytes, between⟩
    all_goals rw [performed] at reading genuine
    · rw [perform_bind_error performed]
      exact reading.yields sound _
    · rw [perform_bind_ok performed, genuine bytes rfl, sound.bus.chip.certified,
        Chip.staticKey_certificateOf]
      have started := sessionStart_yields (sound.next (reading.yields sound none))
        device.chip.publicKey pairing
      rw [reading.initiator] at started
      exact reading.trans started

/-! ### Handshakes that succeed -/

/-- Device and chip have begun a session, and no fault has come up. -/
structure Begun (suite : CipherSuite) (keys : SessionKeys) (before after : Device Chip) : Prop where
  config : after.config = before.config
  buffer : after.buffer = before.buffer
  state : after.state = .established
  session : after.session = some (Session.forHost suite keys)
  chip : after.chip.session = some (Session.forChip suite keys)
  faultless : after.chip.faults = Faults.none
  met : ∃ response queue, after.chip.settled =
    { before.drawn.chip.settled.met response keys with responses := queue }

/-- Parties that meet on a wire without faults begin a session. -/
theorem meet_succeeds (sound : device.Sound) (faultless : device.chip.faults = Faults.none)
    (tries : 0 < device.config.readMaxTries.toNat) {host : Initiator}
    (meets : host.Meets device.responder device.chip.store.pairingKey?) (total : Aead.Total) :
    ∃ keys after, perform (meet host) device.drawn = (.ok (), after) ∧
      Begun host.suite keys device after := by
  have drawn := drawn_sound sound
  obtain ⟨clear, tame⟩ := Chip.faults_eq_none_iff.mp
    (show device.drawn.chip.faults = Faults.none from faultless)
  obtain ⟨follows, outcome⟩ := Link.leads_handshake (c := device.config) drawn host
  obtain ⟨response, keys, answered, accepted⟩ := meets.agree total
  rw [perform_meet]
  rcases performed :
    perform (Link.handshake device.drawn.config host.ephemeralPublic host.slot.byte)
      device.drawn.bus with ⟨e | data, bus⟩
  all_goals rw [show device.config = device.drawn.config from rfl, performed] at follows outcome
  · exact absurd ⟨clear, tries, _, answered⟩ outcome
  · obtain ⟨response', keys', answered', read, queue, met⟩ := outcome
    have agreed := answered.symm.trans answered'
    simp only [Except.ok.injEq, Prod.mk.injEq] at agreed
    obtain ⟨rfl, rfl⟩ := agreed
    obtain rfl := read.resolve_right fun unclear => unclear.1 clear
    dsimp only
    rw [accepted]
    have session := congrArg Chip.session met
    have same := congrArg Chip.faults met
    refine ⟨keys, _, rfl, rfl, rfl, rfl, rfl, session.trans ?_, ?_, _, queue, met⟩
    · exact congrArg (fun suite => some (Session.forChip suite keys)) meets.suite
    · exact Chip.faults_eq_none_iff.mpr ⟨follows.clear clear, same.trans tame⟩

theorem verifyAndStart_begins (sound : device.Sound) (idle : device.state ≠ .established)
    (faultless : device.chip.faults = Faults.none)
    (tries : 0 < device.config.readMaxTries.toNat)
    (random : device.Random) {pairing : Pairing}
    (meets : (device.initiator device.chip.publicKey pairing).Meets device.responder
      device.chip.store.pairingKey?) (total : Aead.Total) :
    ∃ keys after, perform (verifyAndStart pairing) device = (.ok (), after) ∧
      Begun device.config.suite keys device after := by
  have reading := keeps_certificate device (.refl sound)
  obtain ⟨clear, tame⟩ := Chip.faults_eq_none_iff.mp faultless
  obtain ⟨follows, genuine, readable⟩ := certificate_outcome sound
  obtain ⟨bytes, read⟩ := readable clear tries
  rcases performed : perform certificate device with ⟨result, between⟩
  rw [performed] at reading follows genuine read
  obtain rfl : result = .ok bytes := read
  have settled := sound.next (reading.yields sound none)
  have faultless' : between.chip.faults = Faults.none := by
    refine Chip.faults_eq_none_iff.mpr ⟨follows.clear clear, ?_⟩
    rw [reading.same (fun chip => chip.settled.faults) fun _ _ => rfl]
    exact tame
  obtain ⟨config, buffer, state⟩ : between.config = device.config ∧
      between.buffer = device.buffer ∧ between.state = device.state := by
    obtain ⟨bus, -, rfl⟩ := reading
    exact ⟨rfl, rfl, rfl⟩
  have random' : between.Random := by
    refine ⟨?_, ?_⟩
    · rw [config, reading.same Chip.entropy fun _ _ => rfl]
      exact random.entropy
    · rw [reading.same Chip.random fun _ _ => rfl]
      exact random.draws
  have meets' : (between.initiator device.chip.publicKey pairing).Meets between.responder
      between.chip.store.pairingKey? := by
    rw [reading.initiator, reading.responder, reading.same Chip.store fun _ _ => rfl]
    exact meets
  obtain ⟨keys, after, started, begun⟩ := meet_succeeds settled faultless' (config ▸ tries) meets'
    total
  obtain ⟨response, queue, met⟩ := begun.met
  have met' := reading.same (fun chip =>
    { ({ chip.settled with random := (chip.random.draw 32).2 } : Chip).met response keys with
      responses := queue }) fun _ _ => rfl
  refine ⟨keys, after, ?_, begun.config.trans config, begun.buffer.trans buffer, begun.state,
    config ▸ begun.session, config ▸ begun.chip, begun.faultless, response, queue,
    met.trans met'⟩
  unfold verifyAndStart
  rw [perform_bind_ok (perform_expectNoSession idle), perform_bind_ok performed, genuine bytes rfl,
    sound.bus.chip.certified, Chip.staticKey_certificateOf]
  exact (perform_sessionStart (state ▸ idle) random' _ _).trans started

theorem verifyAndStart_succeeds (sound : device.Sound) (idle : device.state ≠ .established)
    (faultless : device.chip.faults = Faults.none)
    (tries : 0 < device.config.readMaxTries.toNat)
    (random : device.Random) {pairing : Pairing}
    (meets : (device.initiator device.chip.publicKey pairing).Meets device.responder
      device.chip.store.pairingKey?) (aead : Aead.Exact) :
    ∃ keys after, perform (verifyAndStart pairing) device = (.ok (), after) ∧
      Begun device.config.suite keys device after :=
  verifyAndStart_begins sound idle faultless tries random meets aead.toTotal

end Device

end SecureElement
