import SecureElement.Proofs.Changes

/-!
The changes that operations make.

Reading information and light sleep keep what there is; the operations that end
the session end it on the host before they tell the chip; a handshake ends in a
session or in none. What the host reads of the certificate is genuine even on a
faulty wire, because its blocks have a fixed length.
-/

namespace SecureElement

namespace Link

open Bus

variable [Primitives] {c : Config} {chip : Chip}

/-- The bus is sound and the chip, apart from the wire, has at most changed its
queue. -/
def Reads (chip : Chip) (bus : Bus Chip) : Prop :=
  bus.Sound ∧ ∃ queue, bus.transport.settled = { chip with responses := queue }

theorem keeps_turn_reads {id : UInt8} {data : Bytes} (short : data.length ≤ Frame.maxData)
    (expected : Status)
    (served : ∀ chip : Chip, ∃ queue, chip.served ⟨id, data⟩ = { chip with responses := queue }) :
    Keeps (Reads chip) (turn c id data expected : BusM Chip Bytes) := by
  refine keeps_turn (P := fun other => ∃ queue, other = { chip with responses := queue }) short ?_
    ?_ expected
  · rintro _ ⟨queue, rfl⟩
    exact served { chip with responses := queue }
  · rintro _ queue' ⟨queue, rfl⟩
    exact ⟨queue', rfl⟩

theorem keeps_getInfo (object block : UInt8) :
    Keeps (Reads chip) (getInfo c object block : BusM Chip Bytes) :=
  keeps_turn_reads (Nat.le_of_ble_eq_true rfl) .requestOk fun chip => by
    obtain ⟨answer, served⟩ := chip.served_getInfo [object, block]
    exact ⟨[answer], served⟩

theorem keeps_sleep : Keeps (Reads chip) (sleep c .sleep : BusM Chip Unit) :=
  .bind (keeps_turn_reads (Nat.le_of_ble_eq_true rfl) .requestOk fun chip =>
    ⟨_, chip.served_sleep⟩) fun _ => .pure ()

/-- A request that ends the session: if the chip's consent is received, it has no
session, and on a wire without faults it is received. -/
structure Ends (c : Config) (act : BusM Chip Unit) : Prop where
  sound {bus : Bus Chip} : bus.Sound → (perform act bus).2.Sound
  ended {bus : Bus Chip} : bus.Sound → (perform act bus).1 = .ok () →
    (perform act bus).2.transport.session = none
  consents {bus : Bus Chip} : bus.Sound → bus.transport.wire.Clear → 0 < c.readMaxTries.toNat →
    (perform act bus).1 = .ok ()

theorem ends_turn {id : UInt8} {data : Bytes} (short : data.length ≤ Frame.maxData)
    (served : ∀ chip : Chip, chip.served ⟨id, data⟩ = chip.ended) :
    Ends c (turn c id data .requestOk >>= fun _ => pure ()) := by
  have answered {bus : Bus Chip} (sound : bus.Sound) :
      Answered bus.transport.settled.ended .requestOk [] .requestOk c.readMaxTries.toNat
        bus.transport.wire.Clear (perform (turn c id data .requestOk) bus).1
        (perform (turn c id data .requestOk) bus).2 := by
    have front : (bus.transport.settled.served ⟨id, data⟩).front =
        Chip.frameResponse .requestOk [] := by
      rw [served, Chip.front, Chip.ended, List.headD_cons]
    have outcome := (leads_turn (c := c) .requestOk short Chip.length_nil_le front
      sound.toReady).2
    rwa [served] at outcome
  refine ⟨fun {bus} sound => ?_, fun {bus} sound => ?_, fun {bus} sound clear tries => ?_⟩
  all_goals
    have kept := turn_sound (c := c) id sound short .requestOk
    have outcome := answered sound
    rcases performed : perform (turn c id data .requestOk) bus with ⟨e | read, after⟩
    all_goals rw [performed] at kept outcome
  · rw [perform_bind_error performed]
    exact kept
  · rw [perform_bind_ok performed]
    exact kept
  · rw [perform_bind_error performed]
    intro consents
    cases consents
  · rw [perform_bind_ok performed]
    obtain ⟨-, queue, same, -⟩ := outcome
    exact fun _ => congrArg Chip.session same
  · exact absurd ⟨clear, tries, rfl⟩ outcome
  · rw [perform_bind_ok performed]
    rfl

theorem ends_sessionAbort : Ends c (sessionAbort c) :=
  ends_turn Chip.length_nil_le Chip.served_abort

theorem ends_deepSleep : Ends c (sleep c .deepSleep) :=
  ends_turn (Nat.le_of_ble_eq_true rfl) Chip.served_deepSleep

theorem ends_startup (kind : StartupKind) : Ends c (startup c kind) :=
  ends_turn (Nat.le_of_ble_eq_true rfl) fun chip => chip.served_startup kind

end Link

namespace Device

variable [Primitives] {start device : Device Chip}

/-! ### Information -/

/-- The device as before but for its bus, and the chip but for the wire and the
queue. -/
def Reading (start device : Device Chip) : Prop :=
  ∃ bus, Link.Reads start.chip.settled bus ∧ device = { start with bus }

theorem Reading.refl (sound : start.Sound) : Reading start start :=
  ⟨start.bus, ⟨sound.bus, start.chip.settled.responses, rfl⟩, rfl⟩

theorem keeps_onBus {α : Type} {act : Config → BusM Chip α}
    (kept : ∀ c, Keeps (Link.Reads start.chip.settled) (act c)) :
    Keeps (Reading start) (onBus act) := by
  rintro _ ⟨bus, reads, rfl⟩
  exact ⟨_, kept start.config bus reads, rfl⟩

/-- What is read of the chip but for the wire and the queue is as before. -/
theorem Reading.same (reading : Reading start device) {α : Type} (part : Chip → α)
    (apart : ∀ (chip : Chip) queue, part { chip.settled with responses := queue } = part chip) :
    part device.chip = part start.chip := by
  obtain ⟨bus, ⟨-, queue, same⟩, rfl⟩ := reading
  have settled : part bus.transport.settled = part bus.transport :=
    apart bus.transport bus.transport.settled.responses
  exact (settled.symm.trans (congrArg part same)).trans (apart start.chip queue)

theorem Reading.yields (sound : start.Sound) (reading : Reading start device)
    (host? : Option Initiator) : Yields host? start device := by
  have session := reading.same Chip.session fun _ _ => rfl
  have pending := reading.same Chip.pending fun _ _ => rfl
  obtain ⟨bus, ⟨sound', -⟩, rfl⟩ := reading
  exact ⟨sound', sound.state, .kept rfl session pending⟩

/-- The host begins the same handshake after reading. -/
theorem Reading.initiator (reading : Reading start device) (chipPublic : Key)
    (pairing : Pairing) :
    device.initiator chipPublic pairing = start.initiator chipPublic pairing := by
  have random := reading.same Chip.random fun _ _ => rfl
  obtain ⟨bus, -, rfl⟩ := reading
  unfold Device.initiator
  rw [random]

theorem Reading.responder (reading : Reading start device) : device.responder = start.responder :=
  reading.same (fun chip => { chip with random := (chip.random.draw 32).2 }.responder)
    fun _ _ => rfl

/-- What is done after reading is done to the device as it was before. -/
theorem Reading.trans {host? : Option Initiator} {after : Device Chip}
    (reading : Reading start device) (yields : Yields host? device after) :
    Yields host? start after := by
  have session' := reading.same Chip.session fun _ _ => rfl
  have pending' := reading.same Chip.pending fun _ _ => rfl
  have suite' := reading.same Chip.suite fun _ _ => rfl
  have store' := reading.same Chip.store fun _ _ => rfl
  have responder' := reading.responder
  have host' : device.session = start.session := by
    obtain ⟨bus, -, rfl⟩ := reading
    rfl
  refine ⟨yields.bus, yields.state, ?_⟩
  cases yields.change with
  | ended none => exact .ended none
  | kept host chip pending =>
    exact .kept (host.trans host') (chip.trans session') (pending.trans pending')
  | counted held held' counted counted' pending =>
    exact .counted (host'.symm.trans held) (session'.symm.trans held') counted counted' pending
  | started given answered accepted session session' pending =>
    rw [responder', store'] at answered
    exact .started given answered accepted session (responder' ▸ session') pending

theorem keeps_certificateBlocks (count : Nat) (block : UInt8) :
    Keeps (Reading start) (certificateBlocks count block : DeviceM Chip Bytes) := by
  induction count generalizing block with
  | zero => exact .pure []
  | succ count ih =>
    refine .bind (keeps_onBus fun c => Link.keeps_getInfo _ _) fun data => ?_
    dsimp only
    split
    · exact .throw _
    · exact .bind (ih _) fun _ => .pure _

theorem keeps_certificate : Keeps (Reading start) (certificate : DeviceM Chip Bytes) :=
  keeps_certificateBlocks _ _

theorem keeps_chipId : Keeps (Reading start) (chipId : DeviceM Chip ChipId) := by
  refine .bind (keeps_onBus fun c => Link.keeps_getInfo _ _) fun data => ?_
  split
  · exact .pure _
  · exact .throw _

theorem keeps_version (object : Info.Object) :
    Keeps (Reading start) (version object : DeviceM Chip FirmwareVersion) := by
  refine .bind (keeps_onBus fun c => Link.keeps_getInfo _ _) fun data => ?_
  split
  · exact .pure _
  · exact .throw _

/-! ### Ends of sessions -/

/-- An operation that ends the session on the host before it tells the chip. -/
theorem yields_of_ends {act : Config → BusM Chip Unit} (ends : ∀ c, Link.Ends c (act c))
    (sound : device.Sound) :
    Yields none device (perform (onBus act) (device.endSession .awaitingHandshake)).2 :=
  ⟨(ends _).sound sound.bus, ⟨nofun, nofun⟩, .ended rfl⟩

/-- An operation on a device without a session. -/
theorem yields_of_none {act : Config → BusM Chip Unit} (ends : ∀ c, Link.Ends c (act c))
    (sound : device.Sound) (none : device.session = none) :
    Yields .none device (perform (onBus act) device).2 :=
  ⟨(ends _).sound sound.bus, sound.state, .ended none⟩

theorem sessionAbort_yields (sound : device.Sound) :
    Yields none device (perform sessionAbort device).2 := by
  rw [perform_sessionAbort]
  split
  · exact yields_of_ends (fun _ => Link.ends_sessionAbort) sound
  · exact (Reading.refl sound).yields sound _

theorem sleep_yields (sound : device.Sound) (kind : SleepKind) :
    Yields none device (perform (sleep kind) device).2 := by
  rw [perform_sleep]
  cases kind with
  | sleep => exact (keeps_onBus (fun _ => Link.keeps_sleep) _ (.refl sound)).yields sound _
  | deepSleep =>
    cases held : device.session with
    | some session => exact yields_of_ends (fun _ => Link.ends_deepSleep) sound
    | none => exact yields_of_none (fun _ => Link.ends_deepSleep) sound held

theorem reboot_yields (sound : device.Sound) (kind : StartupKind) :
    Yields none device (perform (reboot kind) device).2 := by
  rw [perform_reboot]
  cases held : device.session with
  | some session => exact yields_of_ends (fun _ => Link.ends_startup kind) sound
  | none => exact yields_of_none (fun _ => Link.ends_startup kind) sound held

end Device

end SecureElement
