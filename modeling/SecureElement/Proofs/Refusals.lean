import SecureElement.Proofs.Attempts
import SecureElement.Proofs.Histories
import SecureElement.Proofs.Outcomes
import SecureElement.Transport.Traced

/-!
What is refused before anything is touched.

An operation that is declined for what the device can see of itself and of the
arguments (`Device.Declined`) ends with the device as it was, the transport and both
buffers included (`Device.Declined.attempt`). A start of a session on a weak random source
only leaves the device without one, and a request that is too long for a frame leaves the
bus as it was.

That holds on every transport, so on one that keeps a record of what is asked of it as
well: there is no call to it (`Device.refusals_touch_nothing`).
-/

namespace SecureElement.Device

section

variable {σ : Type}

/-- On what grounds a device declines an operation, and what it reports. -/
inductive Declined (device : Device σ) : Operation → Except Error Unit → Prop
  /-- The command is refused, for the first of the grounds that there are. -/
  | command {operation : Operation} {command : Command} {e : Error}
      (executes : operation.command? = some command) (refusal : Refusal device command e) :
      Declined device operation (.error e)
  | message {slot : UInt16} {message : Bytes} (long : 4096 < message.length) :
      Declined device (.eddsaSign slot message) (.error (.capacity message.length 4096))
  | active {operation : Operation} (starts : operation.kind = .start)
      (established : device.state = .established) :
      Declined device operation (.error .sessionActive)
  | idle (absent : device.session = none) : Declined device .sessionAbort (.ok ())

/-- A device without a session that starts none either, for its random source. -/
structure Unfit [Transport σ] (device : Device σ) : Prop where
  state : device.state ≠ .established
  weak : Transport.entropy device.bus.transport = .weak
  denied : device.config.allowWeakEntropy = false

/-! ### Capacity -/

/-- The longest frame of an exchange is 19 bytes longer than the most data. -/
theorem frameLength_eq (command : Command) :
    frameLength command = max command.dataLength command.responseLength + 19 := by
  unfold frameLength Session.overhead Session.sizeLength Session.tagLength
  omega

/-- A command that is not too long for its kind is refused for want of room exactly if
the buffer is too short for its frame or that of its longest result. -/
theorem refusal?_eq_capacity_iff {device : Device σ} {command : Command}
    (short : command.dataLength ≤ command.maxDataLength) :
    refusal? device command = some (.capacity (frameLength command) device.buffer.length) ↔
      device.buffer.length < frameLength command := by
  unfold refusal?
  rw [if_neg (Nat.not_lt_of_le short)]
  split
  case isTrue small => exact iff_of_true rfl small
  case isFalse room =>
    refine iff_of_false ?_ room
    split <;> simp

end

/-! ### Operations -/

section

variable {σ : Type} [Transport σ] [Primitives] {device : Device σ} {operation : Operation}
  {result : Except Error Unit}

/-- What is declined leaves everything as it was. -/
theorem Declined.attempt (declined : Declined device operation result) (frames : Nat) :
    attempt (operation.run frames) device = some (result, device) := by
  cases declined with
  | command executes refusal =>
    obtain ⟨accept, same⟩ := Operation.run_of_command (σ := σ) executes
    rw [same, attempt_execute_of_refusal (refusal?_eq_some_iff.mpr refusal)]
    rfl
  | message long => exact attempt_run_eddsaSign_of_long long frames _ device
  | active starts established =>
    cases operation with
    | sessionStart chipPublic pairing =>
      exact congrArg some (perform_sessionStart_active established chipPublic pairing)
    | verifyAndStart pairing =>
      exact congrArg some (perform_verifyAndStart_active established pairing)
    | sleep kind => cases kind <;> cases starts
    | _ => cases starts
  | idle absent =>
    refine congrArg some ((perform_sessionAbort device).trans (if_neg ?_))
    simp [absent]

/-- On a weak random source a device is left without a session, and otherwise as it was. -/
theorem Unfit.attempt (unfit : device.Unfit) (chipPublic : Key) (pairing : Pairing)
    (frames : Nat) :
    attempt ((Operation.sessionStart chipPublic pairing).run frames) device =
      some (.error (.handshake .weakEntropy), { device with state := .awaitingHandshake }) := by
  have refused : perform (checkEntropy : DeviceM σ Unit)
      { device with state := .awaitingHandshake } = _ :=
    perform_checkEntropy_of_weak unfit.weak unfit.denied
  refine congrArg some ?_
  change perform (sessionStart chipPublic pairing) device = _
  unfold sessionStart
  rw [perform_bind_ok (perform_expectNoSession unfit.state),
    perform_bind_ok (perform_modify _ device), perform_bind_error refused]

end

/-- **What is refused is refused before anything is touched**, on every transport and
whatever the device holds: an operation that is declined, a request of more than 252
bytes, and, but for the state of the device, a start of a session on a weak random
source. On a transport that keeps a record of the calls to it, none is entered. For want
of room a command is refused exactly if the buffer does not take the data of the command
or of its longest result with 19 bytes more. -/
theorem refusals_touch_nothing [Primitives] {σ : Type} [Transport σ] :
    (∀ (device : Device σ) (operation : Operation) (result : Except Error Unit),
      Declined device operation result → ∀ frames,
        attempt (operation.run frames) device = some (result, device)) ∧
    (∀ (device : Device σ), device.Unfit → ∀ chipPublic pairing frames,
      attempt ((Operation.sessionStart chipPublic pairing).run frames) device =
        some (.error (.handshake .weakEntropy), { device with state := .awaitingHandshake })) ∧
    (∀ (c : Config) (bus : Bus σ) (id : UInt8) (data : Bytes), 252 < data.length →
      perform (Link.send c id data) bus = (.error (.frame (.length data.length)), bus)) ∧
    (∀ (device : Device (Traced σ)) (operation : Operation) (result : Except Error Unit),
      (Declined device operation result ∨
        device.Unfit ∧ ∃ chipPublic pairing, operation = .sessionStart chipPublic pairing) →
      ∀ frames, ∃ result' after,
        attempt (operation.run frames) device = some (result', after) ∧
        after.bus.transport.calls = device.bus.transport.calls) ∧
    (∀ (c : Config) (bus : Bus (Traced σ)) (id : UInt8) (data : Bytes), 252 < data.length →
      (perform (Link.send c id data) bus).2.transport.calls = bus.transport.calls) ∧
    ∀ (device : Device σ) (command : Command), command.dataLength ≤ command.maxDataLength →
      (refusal? device command = some (.capacity
          (max command.dataLength command.responseLength + 19) device.buffer.length) ↔
        device.buffer.length < max command.dataLength command.responseLength + 19) := by
  refine ⟨fun _ _ _ declined => declined.attempt, fun _ unfit => unfit.attempt,
    fun c bus id data long => Link.perform_send_of_long id long, ?_, ?_, ?_⟩
  · rintro device operation result (declined | ⟨unfit, chipPublic, pairing, rfl⟩) frames
    · exact ⟨_, _, declined.attempt frames, rfl⟩
    · exact ⟨_, _, unfit.attempt chipPublic pairing frames, rfl⟩
  · intro c bus id data long
    rw [Link.perform_send_of_long id long]
  · intro device command short
    rw [← frameLength_eq]
    exact refusal?_eq_capacity_iff short

end SecureElement.Device
