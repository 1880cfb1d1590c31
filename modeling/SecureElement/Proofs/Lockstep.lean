import SecureElement.Proofs.Handshakes

/-!
Host and chip never drift apart unnoticed.

The chip may drop, keep or replace its session while the host fails at any point
of an operation, and faults may strike anywhere. Still, whenever the host takes
its session for established, the chip has the other side of it: both derived
their keys from one handshake and have counted the same packets since
(`Reached.in_step`). All that is assumed is that no handshake of the run deceives
the host.
-/

namespace SecureElement.Device

/-- The steps that end a session. -/
def Action.Ends : Action → Prop
  | sessionAbort => True
  | sleep kind => kind = .deepSleep
  | reboot _ => True
  | _ => False

section

variable [Primitives] {device after : Device Chip}

/-- In the handshake that a step is, if it is one, the host accepts the chip's
answer only if both fed the same secrets and the same transcript to the key
schedule. -/
def Trusted (device : Device Chip) (action : Action) : Prop :=
  ∀ host, action.host? device = some host →
    host.Trusts device.responder device.chip.store.pairingKey?

/-- The two sides of the session mirror each other along every run. -/
theorem Reached.mirrored (reached : Reached Trusted device) : device.Mirrored := by
  induction reached with
  | start ok =>
    intro host held
    rw [(init_sound (create_sound _ _) rfl ok).2] at held
    cases held
  | again reached ok _ =>
    intro host held
    rw [(init_sound (deinit_sound reached.sound) reached.sound.bus.closed ok).2] at held
    cases held
  | step reached permitted ran mirrored =>
    exact mirrored.next (Action.yields reached.sound _ ran) permitted

theorem ended_of_ends {act : Config → BusM Chip Unit} (ends : ∀ c, Link.Ends c (act c))
    (sound : device.Sound)
    (ok : perform (onBus act) (device.endSession .awaitingHandshake) = (.ok (), after)) :
    after.session = none ∧ after.chip.session = none := by
  rw [perform_onBus] at ok
  obtain ⟨consents, rfl⟩ := Prod.mk.inj ok
  exact ⟨rfl, (ends device.config).ended sound.bus consents⟩

/-- A step that ends the session on the host and to which the chip consents has
ended it on both sides. -/
theorem Action.ended (sound : device.Sound) {action : Action} (ends : action.Ends)
    (held : device.session.isSome) {frames : Nat}
    (ran : attempt (action.run frames) device = some (.ok (), after)) :
    after.session = none ∧ after.chip.session = none := by
  cases action with
  | sessionAbort =>
    have ok := of_attempt_bounded ran
    rw [perform_sessionAbort, if_pos held] at ok
    exact ended_of_ends (fun _ => Link.ends_sessionAbort) sound ok
  | sleep kind =>
    have ok := of_attempt_bounded ran
    rw [perform_sleep, if_pos ⟨ends, held⟩] at ok
    subst ends
    exact ended_of_ends (fun _ => Link.ends_deepSleep) sound ok
  | reboot kind =>
    have ok := of_attempt_bounded ran
    rw [perform_reboot, if_pos held] at ok
    exact ended_of_ends (fun _ => Link.ends_startup kind) sound ok
  | _ => exact ends.elim

/-- Along every run whose handshakes can be trusted, an established session has
two sides that mirror each other; and a step that ends sessions and succeeds has
ended the session on both sides. -/
theorem Reached.in_step (reached : Reached Trusted device) :
    (device.state = .established → ∃ host chip, device.session = some host ∧
      device.chip.session = some chip ∧ host.Mirrors chip) ∧
    ∀ (action : Action) (frames : Nat) (after : Device Chip), action.Ends →
      device.session.isSome → attempt (action.run frames) device = some (.ok (), after) →
      after.session = none ∧ after.chip.session = none := by
  refine ⟨fun established => ?_, fun action frames after ends held ran =>
    Action.ended reached.sound ends held ran⟩
  obtain ⟨host, held⟩ := Option.isSome_iff_exists.mp (reached.sound.state.mp established)
  obtain ⟨chip, held', mirrors⟩ := reached.mirrored host held
  exact ⟨host, chip, held, held', mirrors⟩

end

/-- A device on a new chip begins a session; the sides of it mirror each other,
and when the host ends it, both have ended it. -/
theorem counting_in_step :
    ∃ device after host chip, Reached Trusted device ∧ device.state = .established ∧
      device.session = some host ∧ device.chip.session = some chip ∧ host.Mirrors chip ∧
      attempt (Action.sessionAbort.run 0) device = some (.ok (), after) ∧
      after.session = none ∧ after.chip.session = none := by
  obtain ⟨keys, device, started, begun⟩ := counting_begins
  have permitted : Trusted counting (.verifyAndStart defaultPairing) := by
    rintro _ ⟨⟩
    exact counting_meets.trusts
  have reached : Reached Trusted device := reached_of_started permitted started
  have held : device.session.isSome := by rw [begun.session]; rfl
  have consents : (perform (Link.sessionAbort device.config) device.bus).1 = .ok () :=
    Link.ends_sessionAbort.consents reached.sound.bus
      (Chip.faults_eq_none_iff.mp begun.faultless).1 (by rw [begun.config]; decide)
  have aborted : attempt (Action.sessionAbort.run 0) device = some (.ok (),
      { device.endSession .awaitingHandshake with
        bus := (perform (Link.sessionAbort device.config) device.bus).2 }) := by
    refine congrArg some ((perform_sessionAbort device).trans ?_)
    rw [if_pos held, perform_onBus]
    exact congrArg (Prod.mk · _) consents
  obtain ⟨mirrored, ends⟩ := reached.in_step
  obtain ⟨host, chip, session, session', mirrors⟩ := mirrored begun.state
  exact ⟨device, _, host, chip, reached, begun.state, session, session', mirrors, aborted,
    ends .sessionAbort 0 _ trivial held aborted⟩

end SecureElement.Device
