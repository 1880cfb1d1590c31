import SecureElement.Proofs.Attempts
import SecureElement.Proofs.Collecting
import SecureElement.Proofs.Coupling.Device

/-!
A wire that an attacker takes over.

A transport that is one of two does what that one does (`Transport.embeds_inl`,
`Transport.embeds_inr`), and so does a device on it (`Device.attempt_carried`). So a
session can be begun with a chip and go on with an attacker in the place of the chip. Such
an attacker need not know a key: one who accepts a command, and then repeats a part of a
result without data, keeps the host from ever ending it (`Device.endless_of_trapped`).
-/

namespace SecureElement

/-! ### One of two transports -/

namespace Transport

variable {σ τ ρ α : Type}

/-- Does what is to be done on the transport that there is. -/
def either (left : ExceptT TransportError (StateM σ) α)
    (right : ExceptT TransportError (StateM τ) α) :
    ExceptT TransportError (StateM (σ ⊕ τ)) α :=
  ExceptT.mk fun
    | .inl transport => ((perform left transport).1, .inl (perform left transport).2)
    | .inr transport => ((perform right transport).1, .inr (perform right transport).2)

instance [Transport σ] [Transport τ] : Transport (σ ⊕ τ) where
  init := either init init
  release := either release release
  select := either select select
  deselect := either deselect deselect
  exchange offset region timeout := fun
    | .inl transport => ((exchange offset region timeout transport).1,
      .inl (exchange offset region timeout transport).2)
    | .inr transport => ((exchange offset region timeout transport).1,
      .inr (exchange offset region timeout transport).2)
  delay duration := fun
    | .inl transport => ((), .inl (delay duration transport).2)
    | .inr transport => ((), .inr (delay duration transport).2)
  random count := either (random count) (random count)
  entropy := Sum.elim entropy entropy
  length_exchange offset region timeout
    | .inl transport => length_exchange offset region timeout transport
    | .inr transport => length_exchange offset region timeout transport

/-- An action does on the image of a transport what another does on the transport. -/
def Carries (onto : σ → ρ) (act : ExceptT TransportError (StateM σ) α)
    (image : ExceptT TransportError (StateM ρ) α) : Prop :=
  ∀ transport, perform image (onto transport) =
    ((perform act transport).1, onto (perform act transport).2)

/-- The images of transports are transports that do the same. -/
structure Embeds [Transport σ] [Transport ρ] (onto : σ → ρ) : Prop where
  init : Carries onto init init
  release : Carries onto release release
  select : Carries onto select select
  deselect : Carries onto deselect deselect
  exchange (offset : Nat) (region : Bytes) (timeout : UInt32) (transport : σ) :
    exchange offset region timeout (onto transport) =
      ((exchange offset region timeout transport).1,
        onto (exchange offset region timeout transport).2)
  delay (duration : UInt32) (transport : σ) :
    delay duration (onto transport) = ((), onto (delay duration transport).2)
  random (count : Nat) : Carries onto (random count) (random count)
  entropy (transport : σ) : entropy (onto transport) = entropy transport

theorem Carries.coupled {onto : σ → ρ} {act : ExceptT TransportError (StateM σ) α}
    {image : ExceptT TransportError (StateM ρ) α} (carries : Carries onto act image) :
    SecureElement.Coupled (fun transport wire => wire = onto transport)
      (fun transport wire => wire = onto transport)
      (fun transport wire => wire = onto transport) act image := by
  rintro transport _ rfl
  change Ends _ _ (perform act transport) (perform image (onto transport))
  rw [carries]
  refine ⟨rfl, ?_⟩
  split <;> rfl

section

variable [Transport σ] [Transport τ] [Transport ρ]

/-- A transport is coupled with its image. -/
theorem Embeds.coupled {onto : σ → ρ} (embeds : Embeds onto) :
    FullyCoupled fun _ transport wire => wire = onto transport where
  init := embeds.init.coupled
  release := embeds.release.coupled
  select := embeds.select.coupled
  exchange _ offset region timeout := by
    rintro transport _ rfl
    rw [embeds.exchange]
    exact ⟨rfl, rfl⟩
  deselect _ := embeds.deselect.coupled
  delay duration := by
    rintro transport _ rfl
    rw [embeds.delay]
  random count := (embeds.random count).coupled
  entropy := by
    rintro transport _ rfl
    exact (embeds.entropy transport).symm

theorem embeds_inl : Embeds (Sum.inl : σ → σ ⊕ τ) :=
  ⟨fun _ => rfl, fun _ => rfl, fun _ => rfl, fun _ => rfl, fun _ _ _ _ => rfl, fun _ _ => rfl,
    fun _ _ => rfl, fun _ => rfl⟩

theorem embeds_inr : Embeds (Sum.inr : τ → σ ⊕ τ) :=
  ⟨fun _ => rfl, fun _ => rfl, fun _ => rfl, fun _ => rfl, fun _ _ _ _ => rfl, fun _ _ => rfl,
    fun _ _ => rfl, fun _ => rfl⟩

end

end Transport

namespace Device

variable {σ ρ : Type} {onto : σ → ρ}

/-- The same device on the image of its transport. -/
def carried (onto : σ → ρ) (device : Device σ) : Device ρ :=
  device.moved (onto device.bus.transport)

theorem Alike.eq_carried {size : Nat} {left : Device σ} {right : Device ρ}
    (alike : Alike (fun _ transport wire => wire = onto transport) size left right) :
    right = left.carried onto := by
  obtain ⟨bus, buffer, config, state, session⟩ := left
  obtain ⟨⟨transport, frame⟩, _, _, _, _⟩ := right
  obtain ⟨⟨frames, -, transports⟩, rfl, rfl, rfl, rfl⟩ := alike
  obtain rfl : bus.frame = frame := frames
  obtain rfl : transport = onto bus.transport := transports
  rfl

variable [Transport σ] [Transport ρ]

theorem init_carried (embeds : Transport.Embeds onto) {transport : σ} {config : Config}
    {device : Device σ} (taken : init transport config = .ok device) :
    init (onto transport) config = .ok (device.carried onto) := by
  have both := init_alike embeds.coupled config (rfl : onto transport = onto transport)
  rw [taken] at both
  obtain ⟨device', taken', alike⟩ := both.exists_device
  rw [taken', alike.eq_carried]

/-- An operation has the same outcome, if it has one, on the image of the transport. -/
theorem attempt_carried [Primitives] (embeds : Transport.Embeds onto) (frames : Nat)
    (operation : Operation) (device : Device σ) :
    attempt (operation.run frames) (device.carried onto) =
      (attempt (operation.run frames) device).map (Prod.map id (carried onto)) := by
  have both : Option.Rel _ (attempt (operation.run frames) device)
      (attempt (operation.run frames) (device.carried onto)) :=
    Operation.run_alike embeds.coupled.toCoupled frames operation device (device.carried onto)
      (alike_moved rfl)
  generalize attempt (operation.run frames) device = outcome,
    attempt (operation.run frames) (device.carried onto) = image at both
  cases both with
  | none => rfl
  | @some ended image ends =>
    obtain ⟨same, alike⟩ := ends.same
    exact congrArg some (Prod.ext same.symm alike.eq_carried)

end Device

/-! ### In the place of a chip -/

namespace Repeater

/-- A chip that is ready, and a positive answer without data. -/
def consent : Bytes := Bus.readyBit :: Frame.encode Status.requestOk.byte []

/-- One request is answered, then there is the part without data in every window. -/
def trap : Repeater := ⟨[], [[], consent], part⟩

/-- Bytes that are no frame, in every window but the first. -/
def noise : Repeater := ⟨[], [[]], [Bus.readyBit, 0xFF, 0x2A]⟩

/-- The attacker after a window in which so many bytes were exchanged. -/
def passed (attacker : Repeater) (count : Nat) : Repeater :=
  { attacker.opened with incoming := attacker.opened.incoming.drop count }

/-- Bytes that are written to an attacker take up a window, and what there is in it is
received in their place. -/
theorem perform_write (attacker : Repeater) {frame : Bytes} {length : Nat}
    (whole : frame.length = Frame.maxLength) (some : Bus.minLength ≤ length)
    (inside : length ≤ Frame.maxLength) :
    perform (Bus.write {} length) ⟨attacker, frame⟩ =
      (.ok (), ⟨attacker.passed length,
        frame.overlay 0 (Octets.fit length attacker.opened.incoming).val⟩) := by
  have checked : perform (Bus.checkBounds 0 length) (⟨attacker, frame⟩ : Bus Repeater) =
      (.ok (), ⟨attacker, frame⟩) := by
    have fits := Transport.checkBounds_eq_ok_iff.mpr
      (show 0 + length ≤ Frame.maxLength ∧ 0 + length ≤ frame.length by omega)
    rw [Bus.checkBounds, perform_bind_ok (perform_get _), fits]
    rfl
  have selected : perform (Bus.lift Transport.select) (⟨attacker, frame⟩ : Bus Repeater) =
      (.ok (), ⟨attacker.opened, frame⟩) := rfl
  have transferred : perform (Bus.transferOrClose {} 0 length)
      (⟨attacker.opened, frame⟩ : Bus Repeater) = (.ok (), ⟨attacker.passed length,
        frame.overlay 0 (Octets.fit length attacker.opened.incoming).val⟩) := by
    have part : (frame.slice 0 length).length = length := Bytes.length_slice (by omega)
    have exchanged : perform (Bus.transfer {} 0 length) ⟨attacker.opened, frame⟩ = _ :=
      Bus.run_transfer_of_inside {} (by dsimp only; omega)
    rw [Bus.transferOrClose, perform_tryCatch, exchanged]
    dsimp only [Transport.exchange]
    rw [part]
    rfl
  rw [Bus.write, if_neg (Nat.not_lt.mpr some)]
  change perform (Bus.checkBounds 0 length >>= fun _ => _) _ = _
  rw [perform_bind_ok checked, perform_bind_ok selected, perform_bind_ok transferred]
  rfl

/-- What is sent to an attacker takes up a window. -/
theorem perform_send (attacker : Repeater) (id : UInt8) {data : Bytes}
    (short : data.length ≤ Frame.maxData) (frame : Octets Frame.maxLength) :
    ∃ frame' : Octets Frame.maxLength, perform (Link.send {} id data) ⟨attacker, frame.val⟩ =
      (.ok (), ⟨attacker.passed (data.length + Frame.overhead), frame'.val⟩) := by
  have size := Frame.length_encode id data
  have bounds : Bus.minLength ≤ data.length + Frame.overhead ∧
      data.length + Frame.overhead ≤ Frame.maxLength := by
    simp only [Bus.minLength, Frame.maxData, Frame.maxLength, Frame.overhead] at short ⊢
    omega
  have room := frame.property
  generalize built : frame.val.overlay 0 (Frame.encode id data) = request
  have whole : request.length = Frame.maxLength := by
    rw [← built, Bytes.length_overlay (by omega), room]
  have written := perform_write attacker whole bounds.1 bounds.2
  generalize Octets.fit (data.length + Frame.overhead) attacker.opened.incoming = incoming
    at written
  have fit := incoming.property
  have once : perform (Link.sendOnce {} id data) ⟨attacker, frame.val⟩ =
      (.ok (), ⟨attacker.passed (data.length + Frame.overhead),
        request.overlay 0 incoming.val⟩) := by
    rw [Link.sendOnce, perform_bind_ok (perform_get _)]
    dsimp only
    rw [Frame.buildRequest, Frame.build_eq_ok id short (by omega), built]
    exact written
  refine ⟨⟨request.overlay 0 incoming.val, ?_⟩,
    (Link.perform_withRetries_of_ended (fun cause => ?_) _).trans once⟩
  · rw [Bytes.length_overlay (by omega), whole]
  · rw [once]
    intro failed
    cases failed

/-- The trap answers a command that is sent in one piece. -/
theorem perform_sendEncrypted_trap {packet : Bytes} (some : packet ≠ [])
    (short : packet.length ≤ Frame.maxData) (frame : Octets Frame.maxLength) :
    ∃ frame' : Octets Frame.maxLength,
      perform (Link.sendEncrypted {} packet) ⟨trap, frame.val⟩ = (.ok (), ⟨stalling, frame'.val⟩) := by
  obtain ⟨between, sent⟩ := perform_send trap RequestId.encryptedCommand short frame
  have answers : ∃ frame' : Octets Frame.maxLength,
      perform (Link.receive {}) ⟨trap.passed (packet.length + Frame.overhead), between.val⟩ =
        (.ok ⟨.requestOk, []⟩, ⟨stalling, frame'.val⟩) := by
    have used : trap.passed (packet.length + Frame.overhead) = ⟨[], [consent], part⟩ :=
      congrArg (Repeater.mk · [consent] part) List.drop_nil
    rw [used]
    exact perform_receive_of_start (by decide +kernel) (by decide +kernel) between
  obtain ⟨after, answered⟩ := answers
  refine ⟨after, ?_⟩
  rw [Link.sendEncrypted, Frame.chunks_of_short some short, Link.sendChunks]
  rw [perform_bind_ok sent, perform_bind_ok answered]
  rfl

/-- In the noise nothing is sent as a whole. -/
theorem perform_sendEncrypted_noise {packet : Bytes} (some : packet ≠ [])
    (frame : Octets Frame.maxLength) :
    ∃ e bus, perform (Link.sendEncrypted {} packet) ⟨noise, frame.val⟩ = (.error e, bus) := by
  obtain ⟨chunk, rest, pieces⟩ := List.exists_cons_of_ne_nil (Frame.chunks_ne_nil some)
  have short := (Frame.bounds_of_mem_chunks (pieces ▸ List.mem_cons_self ..)).2
  obtain ⟨between, sent⟩ := perform_send noise RequestId.encryptedCommand short frame
  have used : noise.passed (chunk.length + Frame.overhead) = ⟨[], [], noise.window⟩ :=
    congrArg (Repeater.mk · [] noise.window) List.drop_nil
  have none : (perform (Link.receive {})
      (Link.start (⟨[], [], noise.window⟩ : Repeater))).1.toOption = none := by
    decide +kernel
  obtain ⟨after, received⟩ := Link.perform_receive_of_start {} (⟨[], [], noise.window⟩ : Repeater)
    between
  generalize perform (Link.receive {}) (Link.start (⟨[], [], noise.window⟩ : Repeater)) = begun
    at none received
  rw [used] at sent
  rw [Link.sendEncrypted, pieces, Link.sendChunks, perform_bind_ok sent]
  obtain ⟨e | reply, bus⟩ := begun
  · exact ⟨e, _, perform_bind_error received⟩
  · cases none

end Repeater

/-- A command of a device in the trap goes on for as long as responses are read. -/
theorem Device.endless_of_trapped [Primitives] (total : Aead.Total) {device : Device Repeater}
    {host : Session} {command : Command} (trapped : device.bus.transport = Repeater.trap)
    (framed : device.bus.Framed) (config : device.config = {}) (held : device.session = some host)
    (more : host.sending.counter ≠ 0xFFFFFFFF) (accepted : refusal? device command = none)
    (short : command.packet.length + Session.overhead ≤ Frame.maxData) (frames : Nat) :
    Endless frames command device := by
  obtain ⟨cipher, tag, buffer, -, -, sealed, front⟩ := protect_of_accepted total more accepted
  have size : (Session.sealed cipher tag).length ≤ Frame.maxData := by
    rw [← front]
    exact Nat.le_trans (List.length_take_le ..) short
  obtain ⟨frame, sent⟩ := Repeater.perform_sendEncrypted_trap
    (Session.sealed_ne_nil cipher tag) size ⟨device.bus.frame, framed⟩
  have placed : device.bus = ⟨Repeater.trap, device.bus.frame⟩ := by rw [← trapped]
  refine ⟨host, _, buffer, _, ⟨Repeater.stalling, frame.val⟩, held, sealed, ?_, ?_⟩
  · rw [front, config, placed]
    exact sent
  · rw [config]
    exact Repeater.continues frames _ frame

/-- A command of a device in the noise fails. -/
theorem Device.attempt_execute_of_noise [Primitives] (total : Aead.Total)
    {device : Device Repeater} {host : Session} {command : Command}
    (noisy : device.bus.transport = Repeater.noise) (framed : device.bus.Framed)
    (config : device.config = {}) (held : device.session = some host)
    (more : host.sending.counter ≠ 0xFFFFFFFF) (accepted : refusal? device command = none)
    (frames : Nat) :
    ∃ e after, attempt (execute frames command) device = some (.error e, after) := by
  obtain ⟨cipher, tag, buffer, -, -, sealed, front⟩ := protect_of_accepted total more accepted
  obtain ⟨e, bus, failed⟩ := Repeater.perform_sendEncrypted_noise
    (Session.sealed_ne_nil cipher tag) ⟨device.bus.frame, framed⟩
  have placed : device.bus = ⟨Repeater.noise, device.bus.frame⟩ := by rw [← noisy]
  rw [attempt_execute accepted, attempt_exchange_phases held, sealed]
  dsimp only
  rw [front, config, placed, failed]
  exact ⟨_, _, rfl⟩

end SecureElement
