import SecureElement.Proofs.Faults
import SecureElement.Proofs.Handshakes
import SecureElement.Proofs.Histories

/-!
Operations on a transport whose transfers fail.

A request that is repeated is built anew, in a window of its own, and the chip takes no
part in a window that broke. So every operation that reaches the transport masks as many
faults as the transport has retries (`Device.Reached.masks_faults`), in whatever state the
device and the chip are: whether a part of a command, or a result that is still to be
collected, is at stake makes no difference.
-/

namespace SecureElement.Device

variable {α : Type} {device : Device Chip}

section

variable [Primitives]

/-! ### Exchanges -/

/-- An action that can be attempted again masks faults by its retries. -/
theorem masked_of_attempt {act : Config → BusM Chip α} {piece : Bytes}
    (repeats : Link.Attempt device.config piece (act device.config)) (ready : device.bus.Ready)
    (ends : ∀ cause, (perform (act device.config) (device.bus.failing 0)).1 ≠
      .error (.transport cause)) :
    Masked (bounded (onBus fun c => Link.withRetries c (act c) c.transportRetries.toNat))
      device := by
  have reached := repeats.lt_transfers ready
  have first := Link.perform_withRetries_of_ended (c := device.config) ends
    device.config.transportRetries.toNat
  have within {count : Nat} (few : count ≤ device.config.transportRetries.toNat) :=
    repeats.within ready ends few
  rcases perform (act device.config) (device.bus.failing 0) with ⟨result, bus⟩
  have ran : attempt (bounded (onBus fun c => Link.withRetries c (act c)
      c.transportRetries.toNat)) (device.failing 0) = _ := attempt_onBus first
  refine ⟨fun _ _ ran' => ?_, fun few => ?_, fun many => ?_⟩
  · rw [ran] at ran'
    cases ran'
    exact reached
  · rw [ran]
    exact attempt_onBus (within few)
  · exact ⟨_, device.chip.random, attempt_onBus (repeats.beyond ready many), rfl⟩

theorem masked_send (id : UInt8) {data : Bytes} (short : data.length ≤ Frame.maxData)
    (ready : device.bus.Ready) : Masked (bounded (onBus fun c => Link.send c id data)) device := by
  refine masked_of_attempt (Link.attempt_sendOnce id short) ready fun cause => ?_
  rw [Link.sendOnce_succeeds id short ready]
  exact nofun

/-- What begins with a request masks faults. -/
theorem masked_exchange (id : UInt8) {data : Bytes} (short : data.length ≤ Frame.maxData)
    (ready : device.bus.Ready) {rest : Config → BusM Chip α}
    (blind : ∀ c transfers duration,
      Blind (Bus.change fun chip => chip.aged transfers duration) (rest c)) :
    Masked (bounded (onBus fun c => Link.send c id data >>= fun _ => rest c)) device := by
  rw [onBus_bind (fun c => Link.send c id data) fun c _ => rest c, bounded_bind]
  exact (masked_send id short ready).bind fun _ transfers duration =>
    blind_bounded (blind_onBus fun c => blind c transfers duration)

theorem masked_transceive (id : UInt8) {data : Bytes} (short : data.length ≤ Frame.maxData)
    (ready : device.bus.Ready) :
    Masked (bounded (onBus fun c => Link.transceive c id data)) device :=
  masked_exchange id short ready fun c transfers duration =>
    Link.blind_answer (Chip.unseen_aged transfers duration) c .requestOk

/-- Sending a packet masks faults. -/
theorem masked_sendEncrypted {packet : Bytes} (some : packet ≠ []) (ready : device.bus.Ready) :
    Masked (bounded (onBus fun c => Link.sendEncrypted c packet)) device := by
  obtain ⟨chunk, rest, pieces⟩ := List.exists_cons_of_ne_nil (Frame.chunks_ne_nil some)
  have short := (Frame.bounds_of_mem_chunks (pieces ▸ List.mem_cons_self ..)).2
  unfold Link.sendEncrypted
  rw [pieces]
  refine masked_exchange _ short ready fun c transfers duration => ?_
  have unseen := Chip.unseen_aged transfers duration
  exact .bind (Link.blind_receive unseen c) fun reply =>
    .bind (Link.blind_expectStatus reply _) fun _ => Link.blind_sendChunks unseen c rest

/-! ### Before the transport -/

theorem spared_checkEntropy (device : Device Chip) : ∃ result,
    Spared (bounded checkEntropy) device result device := by
  obtain ⟨result, spared⟩ := spared_check (Transport.entropy device.bus.transport = .weak ∧
    device.config.allowWeakEntropy = false) (.handshake .weakEntropy) device
  refine ⟨result, ?_⟩
  unfold checkEntropy
  rw [bounded_get_bind]
  exact .get (fun _ => rfl) spared

theorem spared_random (count : Nat) (device : Device Chip) : ∃ result after,
    Spared (bounded (onBus fun _ => Bus.random count)) device result after := by
  have draws (faults : Nat) : perform (onBus fun _ => Bus.random count) (device.failing faults) =
      ((perform (Transport.random count) (device.failing faults).chip).1.mapError .transport,
        { device.failing faults with bus.transport :=
          (perform (Transport.random count) (device.failing faults).chip).2 }) := rfl
  rcases drawn : device.chip.random.tryDraw count with ⟨reason | bytes, random⟩
  · refine ⟨.error (.transport (.bus reason)), { device with bus.transport.random := random },
      fun faults => ?_, rfl, random, rfl⟩
    have drawn' : (device.failing faults).chip.random.tryDraw count = _ := drawn
    rw [attempt_bounded, draws, Chip.perform_random_error drawn']
    rfl
  · refine ⟨.ok bytes, { device with bus.transport.random := random }, fun faults => ?_, rfl,
      random, rfl⟩
    have drawn' : (device.failing faults).chip.random.tryDraw count = _ := drawn
    rw [attempt_bounded, draws, Chip.perform_random drawn']
    rfl

/-- A command is encrypted before the transport is reached; the frame is not empty. -/
theorem spared_protectCommand (command : Command) (device : Device Chip) : ∃ result after,
    Spared (bounded (protectCommand command)) device result after ∧
      ∀ frame, result = .ok frame → frame ≠ [] := by
  cases held : device.session with
  | none =>
    refine ⟨.error .noSession, device, ⟨fun count => ?_, rfl, device.chip.random, rfl⟩, nofun⟩
    unfold protectCommand
    rw [attempt_bounded, perform_bind_ok (perform_get _)]
    dsimp only
    rw [show (device.failing count).session = none from held]
    rfl
  | some host =>
    have protects (count : Nat) := perform_protectCommand_eq
      (show (device.failing count).session = some host from held) command
    have frames := protectCommand_cases held command
    rw [perform_protectCommand_eq held] at frames
    rcases made : host.protect (device.buffer.overlay Session.sizeLength command.packet)
        command.packet.length with cause | ⟨length, buffer, counted⟩
    · refine ⟨.error (.session cause),
        { device with buffer := device.buffer.overlay Session.sizeLength command.packet },
        ⟨fun count => ?_, rfl, device.chip.random, rfl⟩, nofun⟩
      rw [attempt_bounded, protects, show (device.failing count).buffer = device.buffer from rfl,
        made]
      rfl
    · rw [made] at frames
      refine ⟨.ok (buffer.take length), { device with buffer, session := some counted },
        ⟨fun count => ?_, rfl, device.chip.random, rfl⟩, ?_⟩
      · rw [attempt_bounded, protects, show (device.failing count).buffer = device.buffer from rfl,
          made]
        rfl
      · rintro frame ⟨⟩
        rcases frames with ⟨e, buffer, failed⟩ | ⟨frame, buffer, some, same⟩
        · cases failed
        · cases same
          exact some

omit [Primitives] in
/-- The handler that ends the session after a failure. -/
theorem rethrows_abort : Rethrows (fun e => do
      modify fun device => device.endSession .aborted
      throw e : Error → DeviceRun Chip α) id fun device => device.endSession .aborted :=
  ⟨fun _ _ => rfl, rfl, fun _ => rfl, fun _ _ => rfl⟩

/-! ### Operations -/

theorem withstands_exchange (frames : Nat) (command : Command) (ready : device.bus.Ready) :
    Withstands (exchange frames command) device := by
  obtain ⟨result, between, spared, some⟩ := spared_protectCommand command device
  refine .after spared fun frame made => .masked ?_
  rw [bounded_tryCatch]
  refine ((masked_sendEncrypted (some frame made) (spared.ready ready)).tryCatch
    (rethrows_throw rejectedByChip rfl)).bind fun _ transfers duration => ?_
  exact .bind (blind_collectResult (Chip.unseen_aged transfers duration) frames) fun result =>
    blind_bounded (blind_unprotectResult result)

theorem withstands_execute (frames : Nat) (command : Command) (ready : device.bus.Ready) :
    Withstands (execute frames command) device := by
  refine .get (fun _ => rfl) ?_
  cases refusal? device command with
  | some e => exact .spared _ _ (spared_throw e device)
  | none =>
    refine ((withstands_exchange frames command ready).tryCatch rethrows_abort).bind
      (fun packet transfers duration => ?_) fun packet between => ?_
    · refine .bind (.modify fun _ => rfl) fun _ => ?_
      cases command.decodePacket packet with
      | ok response => exact .pure response
      | error e => exact .throw e
    · refine .after (spared_modify between rfl fun _ => rfl) fun _ _ => ?_
      cases command.decodePacket packet with
      | ok response => exact .spared _ _ (spared_pure response _)
      | error e => exact .spared _ _ (spared_throw e _)

theorem withstands_ping (frames : Nat) (data : Bytes) (ready : device.bus.Ready) :
    Withstands (ping frames data) device := by
  refine (withstands_execute frames (.ping data) ready).bind (fun echo _ _ => ?_)
    fun echo between => ?_
  · exact .ite (.bind (.throw _) fun _ => .pure _) (.pure _)
  · dsimp only
    split
    · exact .spared _ _ (spared_throw _ between)
    · exact .spared _ _ (spared_pure _ between)

theorem withstands_randomValueGet (frames : Nat) (count : UInt8) (ready : device.bus.Ready) :
    Withstands (randomValueGet frames count) device := by
  refine (withstands_execute frames (.randomValueGet count) ready).bind (fun bytes _ _ => ?_)
    fun bytes between => ?_
  · cases Command.checkCount count bytes with
    | ok => exact .pure bytes
    | error e => exact .throw e
  · cases Command.checkCount count bytes with
    | ok => exact .spared _ _ (spared_pure bytes between)
    | error e => exact .spared _ _ (spared_throw e between)

theorem withstands_eddsaSign (frames : Nat) (slot : UInt16) (message : Bytes)
    (ready : device.bus.Ready) : Withstands (eddsaSign frames slot message) device := by
  rw [eddsaSign_eq]
  split
  · exact .spared _ _ (spared_throw _ device)
  · exact withstands_execute frames (.eddsaSign slot message) ready

/-- A request whose answer has no data. -/
theorem masked_request (id : UInt8) {data : Bytes} (short : data.length ≤ Frame.maxData)
    (ready : device.bus.Ready) :
    Masked (bounded (onBus fun c => Link.transceive c id data >>= fun _ => pure ())) device := by
  rw [onBus_bind (fun c => Link.transceive c id data) fun _ _ => pure (), bounded_bind]
  exact (masked_transceive id short ready).bind fun _ _ _ =>
    blind_bounded (blind_onBus fun _ => .pure ())

theorem masked_info (object block : UInt8) (ready : device.bus.Ready) :
    Masked (bounded (onBus fun c => Link.getInfo c object block)) device :=
  masked_transceive RequestId.getInfo (Nat.le_of_ble_eq_true rfl) ready

theorem masked_certificate (ready : device.bus.Ready) :
    Masked (bounded certificate) device := by
  have blocks : (certificate : DeviceM Chip Bytes) = certificateBlocks (3 + 1) 0 := rfl
  rw [blocks, certificateBlocks, bounded_bind]
  refine (masked_info _ _ ready).bind fun data transfers duration => blind_bounded ?_
  refine .ite (.bind (.throw _) fun _ => ?_) ?_
  all_goals
    exact .bind (blind_certificateBlocks (Chip.unseen_aged transfers duration) 3 _) fun _ =>
      .pure _

theorem masked_chipId (ready : device.bus.Ready) : Masked (bounded chipId) device := by
  unfold chipId
  rw [bounded_bind]
  refine (masked_info _ _ ready).bind fun data _ _ => blind_bounded ?_
  cases Octets.ofBytes? Info.chipIdLength data with
  | some id => exact .pure id
  | none => exact .throw _

theorem masked_version (object : Info.Object) (ready : device.bus.Ready) :
    Masked (bounded (version object)) device := by
  unfold version
  rw [bounded_bind]
  refine (masked_info _ _ ready).bind fun data _ _ => blind_bounded ?_
  cases FirmwareVersion.ofBytes? data with
  | some version => exact .pure version
  | none => exact .throw _

/-- An operation that is one request on the bus, after what the host does for itself. -/
theorem withstands_stop {stop : DeviceM Chip Unit} (between : Device Chip) (id : UInt8)
    {data : Bytes} (short : data.length ≤ Frame.maxData) (ready : device.bus.Ready)
    (bus : between.bus = device.bus) (config : between.config = device.config)
    (performs : ∀ count, perform stop (device.failing count) =
      perform (onBus fun c => Link.transceive c id data >>= fun _ => pure ())
        (between.failing count)) : Withstands (bounded stop) device := by
  refine .of_runs (fun count => ?_) config ⟨device.chip.random, bus⟩
    (.masked (masked_request id short (bus ▸ ready)))
  rw [attempt_bounded, attempt_bounded, performs]

theorem withstands_sessionAbort (ready : device.bus.Ready) :
    Withstands (bounded sessionAbort) device := by
  by_cases ends : device.session.isSome
  · refine withstands_stop (device.endSession .awaitingHandshake)
      RequestId.sessionAbort Chip.length_nil_le ready rfl rfl fun count => ?_
    exact (perform_sessionAbort _).trans (if_pos ends)
  · refine .spared (.ok ()) device ⟨fun count => congrArg some ?_, rfl, device.chip.random, rfl⟩
    exact (perform_sessionAbort _).trans (if_neg ends)

theorem withstands_sleep (kind : SleepKind) (ready : device.bus.Ready) :
    Withstands (bounded (sleep kind)) device := by
  have short : [kind.byte].length ≤ Frame.maxData := Nat.le_of_ble_eq_true rfl
  by_cases ends : kind = .deepSleep ∧ device.session.isSome
  · refine withstands_stop (device.endSession .awaitingHandshake)
      RequestId.sleep short ready rfl rfl fun count => ?_
    exact (perform_sleep _ _).trans (congrArg _ (if_pos ends))
  · refine withstands_stop device RequestId.sleep short ready rfl rfl fun count => ?_
    exact (perform_sleep _ _).trans (congrArg _ (if_neg ends))

theorem withstands_reboot (kind : StartupKind) (ready : device.bus.Ready) :
    Withstands (bounded (reboot kind)) device := by
  have short : [kind.byte].length ≤ Frame.maxData := Nat.le_of_ble_eq_true rfl
  by_cases ends : device.session.isSome
  · refine withstands_stop (device.endSession .awaitingHandshake)
      RequestId.startup short ready rfl rfl fun count => ?_
    exact (perform_reboot _ _).trans (congrArg _ (if_pos ends))
  · refine withstands_stop device RequestId.startup short ready rfl rfl fun count => ?_
    exact (perform_reboot _ _).trans (congrArg _ (if_neg ends))

theorem withstands_sessionStart (chipPublic : Key) (pairing : Pairing)
    (ready : device.bus.Ready) : Withstands (bounded (sessionStart chipPublic pairing)) device := by
  unfold sessionStart
  simp only [bounded_bind]
  obtain ⟨idle, none⟩ := spared_expectNoSession device
  refine .after none fun _ _ => ?_
  have waits : Spared (bounded (modify fun device => { device with state := .awaitingHandshake }))
      device (.ok ⟨⟩) _ := spared_modify device rfl fun _ => rfl
  refine .after waits fun _ _ => ?_
  obtain ⟨strong, checks⟩ := spared_checkEntropy { device with state := .awaitingHandshake }
  refine .after checks fun _ _ => ?_
  obtain ⟨drawn, after, draws⟩ := spared_random 32 { device with state := .awaitingHandshake }
  refine .after draws fun ephemeral _ => ?_
  refine .get (fun _ => rfl) (.masked ?_)
  rw [bounded_tryCatch]
  have short (key : Key) : (key.val ++ [pairing.slot.byte]).length ≤ Frame.maxData := by
    rw [List.length_append, key.property]
    exact Nat.le_of_ble_eq_true rfl
  refine ((masked_transceive RequestId.handshake (short _) (draws.ready ready)).tryCatch
    (rethrows_throw rejectedHandshake rfl)).bind fun response _ _ => blind_bounded ?_
  cases Initiator.finish _ response with
  | error cause => exact .throw _
  | ok keys => exact .modify fun _ => rfl

theorem withstands_verifyAndStart (pairing : Pairing) (ready : device.bus.Ready) :
    Withstands (bounded (verifyAndStart pairing)) device := by
  unfold verifyAndStart
  rw [bounded_bind]
  obtain ⟨idle, none⟩ := spared_expectNoSession device
  refine .after none fun _ _ => ?_
  rw [bounded_bind]
  refine .masked ((masked_certificate ready).bind fun read transfers duration => blind_bounded ?_)
  cases Info.staticKey read with
  | error cause => exact .throw _
  | ok chipPublic => exact blind_sessionStart (Chip.unseen_aged transfers duration) _ _

/-! ### Calls -/

/-- What an operation returns. -/
def Operation.Value : Operation → Type
  | certificate => Bytes
  | chipId => ChipId
  | version _ => FirmwareVersion
  | sessionStart .. => Unit
  | verifyAndStart _ => Unit
  | sessionAbort => Unit
  | sleep _ => Unit
  | reboot _ => Unit
  | execute command => command.Response
  | ping _ => Bytes
  | randomValueGet _ => Bytes
  | eddsaSign .. => Octets 64

/-- Calls an operation; where a result is collected, from at most `frames` responses. -/
def Operation.call {σ : Type} [Transport σ] (frames : Nat) :
    (operation : Operation) → DeviceRun σ operation.Value
  | certificate => bounded Device.certificate
  | chipId => bounded Device.chipId
  | version object => bounded (Device.version object)
  | sessionStart chipPublic pairing => bounded (Device.sessionStart chipPublic pairing)
  | verifyAndStart pairing => bounded (Device.verifyAndStart pairing)
  | sessionAbort => bounded Device.sessionAbort
  | sleep kind => bounded (Device.sleep kind)
  | reboot kind => bounded (Device.reboot kind)
  | execute command => Device.execute frames command
  | ping data => Device.ping frames data
  | randomValueGet count => Device.randomValueGet frames count
  | eddsaSign slot message => Device.eddsaSign frames slot message

theorem withstands_call (frames : Nat) (operation : Operation) (ready : device.bus.Ready) :
    Withstands (operation.call frames) device := by
  cases operation with
  | certificate => exact .masked (masked_certificate ready)
  | chipId => exact .masked (masked_chipId ready)
  | version object => exact .masked (masked_version object ready)
  | sessionStart chipPublic pairing => exact withstands_sessionStart chipPublic pairing ready
  | verifyAndStart pairing => exact withstands_verifyAndStart pairing ready
  | sessionAbort => exact withstands_sessionAbort ready
  | sleep kind => exact withstands_sleep kind ready
  | reboot kind => exact withstands_reboot kind ready
  | execute command => exact withstands_execute frames command ready
  | ping data => exact withstands_ping frames data ready
  | randomValueGet count => exact withstands_randomValueGet frames count ready
  | eddsaSign slot message => exact withstands_eddsaSign frames slot message ready

/-! ### Requests and responses alone -/

theorem masks_send (id : UInt8) (data : Bytes) (ready : device.bus.Ready) :
    Masks (bounded (onBus fun c => Link.send c id data)) device := by
  by_cases short : data.length ≤ Frame.maxData
  · exact (Withstands.masked (masked_send id short ready)).masks
  · refine .of_silent (.error (.frame (.length data.length))) device (fun count => ?_) rfl
    exact attempt_onBus (Link.perform_send_of_long id (Nat.lt_of_not_le short))

theorem masked_receive (sound : device.bus.Sound) (prompt : device.chip.Prompt)
    (tries : 0 < device.config.readMaxTries.toNat) :
    Masked (bounded (onBus Link.receive)) device := by
  obtain ⟨parse, same, blind⟩ := Link.exists_receive_eq_bind (σ := Chip)
  have receives : (onBus Link.receive : DeviceM Chip Frame.Reply) = onBus _ :=
    congrArg onBus (funext same)
  rw [receives, onBus_bind (fun c => Link.withRetries c (Bus.read c) c.transportRetries.toNat),
    bounded_bind]
  refine (masked_of_attempt (Link.attempt_read tries) sound.toReady
    (Link.read_ends sound prompt tries)).bind fun length _ _ => ?_
  exact blind_bounded (blind_onBus fun _ => blind _ length)

/-- Without a poll no attempt makes a transfer, but the waits between them are kept. -/
theorem attempt_receive_of_never (length : device.bus.frame.length = Frame.maxLength)
    (never : device.config.readMaxTries.toNat = 0) (count : Nat) :
    attempt (bounded (onBus Link.receive)) (device.failing count) =
      some (.error (.transport .notReady), (device.aged 0
        (device.config.transportRetries.toNat * device.config.retryDelay.toNat)).failing count) := by
  have fails (duration : Nat) : perform (Bus.read device.config)
      ((device.failing count).bus.aged 0 duration) = _ :=
    Link.perform_read_of_never never length
  exact attempt_onBus (perform_bind_error (Link.perform_withRetries_of_still fails _))

theorem masks_receive (sound : device.bus.Sound) (prompt : device.chip.Prompt) :
    Masks (bounded (onBus Link.receive)) device := by
  rcases Nat.eq_zero_or_pos device.config.readMaxTries.toNat with never | tries
  · exact .of_silent _ _ (attempt_receive_of_never sound.length never) rfl
  · exact (Withstands.masked (masked_receive sound prompt tries)).masks

/-- Whatever a run has come to, faults of the transport are masked by its retries in every
operation with any arguments, in every request that is sent, and in every response that is
received from a chip that the next poll finds ready. Receiving reaches the transport if
the chip is polled at all. -/
theorem Reached.masks_faults {allowed : Device Chip → Action → Prop}
    (reached : Reached allowed device) :
    (∀ (operation : Operation) (frames : Nat), Masks (operation.call frames) device) ∧
    (∀ (id : UInt8) (data : Bytes),
      Masks (bounded (onBus fun c => Link.send c id data)) device) ∧
    (device.chip.Prompt → Masks (bounded (onBus Link.receive)) device ∧
      (0 < device.config.readMaxTries.toNat → Reaches (bounded (onBus Link.receive)) device)) := by
  have sound := reached.sound.bus
  refine ⟨fun operation frames => ?_, fun id data => masks_send id data sound.toReady,
    fun prompt => ⟨masks_receive sound prompt, fun tries => ?_⟩⟩
  · exact (withstands_call frames operation sound.toReady).masks
  · exact (masked_receive sound prompt tries).reaches

end

/-- Three faults do not keep the device on a new chip from reading what the chip is; four
do. Nor do three keep it from receiving a response. -/
theorem counting_masks :
    attempt (Operation.chipId.call 0) (counting.failing 3) =
      (attempt (Operation.chipId.call 0) (counting.failing 0)).map
        (Prod.map id fun after => after.aged 3 30) ∧
    (∃ after, attempt (Operation.chipId.call 0) (counting.failing 4) =
      some (.error (.transport .timeout), after) ∧ after.chip.transfers = 4) ∧
    counting.chip.Prompt ∧
    attempt (bounded (onBus Link.receive)) (counting.failing 3) =
      (attempt (bounded (onBus Link.receive)) (counting.failing 0)).map
        (Prod.map id fun after => after.aged 3 30) := by
  have reached := counting_reached fun _ _ => True
  obtain ⟨operations, -, receives⟩ := reached.masks_faults
  have masks := operations .chipId 0
  have reaches : Reaches (Operation.chipId.call 0) counting :=
    (masked_chipId reached.sound.bus.toReady).reaches
  have prompt : counting.chip.Prompt := ⟨rfl, nofun⟩
  obtain ⟨masked, polls⟩ := receives prompt
  obtain ⟨after, random, failed, chip⟩ := masks.beyond reaches (show 3 < 4 by decide)
  refine ⟨masks.within reaches (by decide), ⟨after, failed, ?_⟩, prompt,
    masked.within (polls (by decide)) (by decide)⟩
  rw [chip]
  rfl

/-- The device on a new chip that counts up, which polls so often and tries again once. -/
def polling (tries : UInt32) : Device Chip :=
  taken (Chip.create .aes256Gcm ⟨fun i => UInt8.ofNat i, 0, none⟩)
    { readMaxTries := tries, transportRetries := 1 }

theorem polling_reached (tries : UInt32) : Reached (fun _ _ => True) (polling tries) :=
  have capacity : minCapacity ≤ ({} : Config).packetCapacity.toNat := by decide
  .start (init_eq_ok_iff.mpr ⟨capacity, rfl⟩ : init _ (polling tries).config = _)

/-- For a response that is received alone it is not enough that no poll will find the chip
busy. If the bit that waits to be flipped is in the chip status, where only an index gets
that overflows, it is the poll which would bring the response that finds the chip busy; a
fault then uses up the attempt that would have come after. And where the chip is never
polled, no transfer meets the faults. -/
theorem polling_unmasked :
    let spoiled := { polling 1 with
      bus.transport := (polling 1).chip.corruptNextResponse (2 ^ 64 - 1) }
    (Reached (fun _ _ => True) spoiled ∧ spoiled.chip.faults.busyPolls = 0 ∧
      ¬Masks (bounded (onBus Link.receive)) spoiled) ∧
    Reached (fun _ _ => True) (polling 0) ∧ (polling 0).chip.faults.busyPolls = 0 ∧
    ∃ after, attempt (bounded (onBus Link.receive)) ((polling 0).failing 2) =
      some (.error (.transport .notReady), after) ∧ after.chip.faults.failTransfers = 2 := by
  intro spoiled
  have turned : attempt (Action.run 0 (.turn (.corruptNextResponse (2 ^ 64 - 1)))) (polling 1) =
      some (.ok (), spoiled) := rfl
  have reached : Reached (fun _ _ => True) spoiled := .step (polling_reached 1) trivial turned
  have received : (attempt (bounded (onBus Link.receive)) (spoiled.failing 0)).map
      (fun ended => (ended.1.toBool, ended.2.chip.transfers)) = some (true, 4) := by
    decide +kernel
  have busy : (attempt (bounded (onBus Link.receive)) (spoiled.failing 1)).map
      (fun ended => ended.1.toBool) = some false := by
    decide +kernel
  refine ⟨⟨reached, rfl, fun masks => ?_⟩, polling_reached 0, rfl, _,
    attempt_receive_of_never (List.length_replicate ..) rfl 2, rfl⟩
  have reaches : Reaches (bounded (onBus Link.receive)) spoiled := by
    intro result after ran
    rw [ran, Option.map_some, Option.some_inj, Prod.mk.injEq] at received
    rw [received.2]
    exact Nat.zero_lt_succ 3
  have same := congrArg (Option.map Prod.fst) received
  rw [Option.map_map] at same
  rw [masks.within reaches (Nat.le_refl 1), Option.map_map] at busy
  cases same.symm.trans busy

end SecureElement.Device
