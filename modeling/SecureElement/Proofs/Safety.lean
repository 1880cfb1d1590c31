import SecureElement.Proofs.Checked.Execution
import SecureElement.Proofs.Takeover

/-!
No operation faults, whatever the other side sends.

Any operations are run one after the other with their accesses checked, on any
transport, which may change in any way between them (`Device.Ran`). Each of them ends
as the plain operation does, with a result or an error, unless the chip goes on sending
parts of a result for as long as they are read (`Device.Ran.no_fault`). What a decryption
that fails leaves of a frame is not known but for its length (`spoil`); buffers and
arguments are as long as memory can hold.
-/

namespace SecureElement.Device

open Checked

variable {σ : Type}

/-! ### Runs that do not fault -/

section

variable {α β : Type} {checked : Checked (Option (Except Error α × Device σ))}
  {plain : Option (Except Error α × Device σ)}

/-- Runs an operation that uses the bus, or only the session. -/
def settle (act : CheckedM (Device σ) Error α) (device : Device σ) :
    Checked (Option (Except Error α × Device σ)) := do
  return some (← trial act device)

/-- Decides on the result of a run. -/
def decided (accept : α → Except Error β) (run : Checked (Option (Except Error α × Device σ))) :
    Checked (Option (Except Error β × Device σ)) := do
  return (← run).map fun ended => (ended.1.bind accept, ended.2)

theorem endsAs_refl (outcome : Option (Except Error α × Device σ)) :
    EndsAs (.ok outcome) outcome := by
  refine ⟨outcome, rfl, ?_⟩
  rcases outcome with _ | ⟨result, after⟩
  · exact .endless
  · exact .ended rfl

theorem endsAs_settle {checked : CheckedM (Device σ) Error α} {act : DeviceM σ α}
    {device : Device σ} (agrees : Agrees Framed checked act) (framed : device.bus.Framed) :
    EndsAs (settle checked device) (some (perform act device)) := by
  rw [settle, agrees device framed]
  exact endsAs_refl _

theorem endsAs_decided (accept : α → Except Error β) (ends : EndsAs checked plain) :
    EndsAs (decided accept checked) (plain.map fun ended => (ended.1.bind accept, ended.2)) := by
  obtain ⟨outcome, rfl, same⟩ := ends
  refine ⟨_, rfl, ?_⟩
  cases same with
  | endless => exact .endless
  | ended same => exact .ended same

end

/-! ### Operations -/

/-- The bytes that an operation is given. -/
def Operation.payload : Operation → Bytes
  | execute command => command.payload
  | ping data => data
  | eddsaSign _ message => message
  | _ => []

section

variable [Transport σ] [Primitives]

/-- Runs an operation with its accesses checked. -/
def Operation.checkedRun (spoil : Bytes → Bytes) (frames : Nat) :
    Operation → Device σ → Checked (Option (Except Error Unit × Device σ))
  | certificate, device => decided (fun _ => .ok ()) (settle checkedCertificate device)
  | chipId, device => decided (fun _ => .ok ()) (settle checkedChipId device)
  | version object, device => decided (fun _ => .ok ()) (settle (checkedVersion object) device)
  | sessionStart chipPublic pairing, device =>
    settle (checkedSessionStart chipPublic pairing) device
  | verifyAndStart pairing, device => settle (checkedVerifyAndStart pairing) device
  | sessionAbort, device => settle checkedSessionAbort device
  | sleep kind, device => settle (checkedSleep kind) device
  | reboot kind, device => settle (checkedReboot kind) device
  | execute command, device =>
    decided (fun _ => .ok ()) (checkedExecute spoil frames command device)
  | ping data, device =>
    decided (fun echo => if echo ≠ data then .error Command.malformed else .ok ())
      (checkedExecute spoil frames (.ping data) device)
  | randomValueGet count, device =>
    decided (Command.checkCount count) (checkedExecute spoil frames (.randomValueGet count) device)
  | eddsaSign slot message, device =>
    if Limit.message < message.length then
      return some (.error (.capacity message.length Limit.message), device)
    else
      decided (fun _ => .ok ()) (checkedExecute spoil frames (.eddsaSign slot message) device)

variable {spoil : Bytes → Bytes} {device : Device σ} {frames : Nat}

omit [Transport σ] [Primitives] in
theorem attempt_discard {α : Type} (act : DeviceM σ α) (device : Device σ) :
    attempt (do let _ ← bounded act) device =
      (some (perform act device)).map fun ended => (ended.1.bind fun _ => .ok (), ended.2) :=
  attempt_bind_decide (fun _ => .ok ()) (fun _ _ => rfl) device

/-- No operation faults where the buffers have their lengths. -/
theorem Operation.checkedRun_endsAs (framed : device.bus.Framed)
    (small : device.buffer.length < 2 ^ 63) (spoils : ∀ frame, (spoil frame).length = frame.length)
    {operation : Operation} (short : operation.payload.length < 2 ^ 63) (frames : Nat) :
    EndsAs (operation.checkedRun spoil frames device) (attempt (operation.run frames) device) := by
  have executes (command : Command) (short : command.payload.length < 2 ^ 63) :
      EndsAs (checkedExecute spoil frames command device)
        (attempt (Device.execute frames command) device) :=
    checkedExecute_endsAs frames framed small spoils short
  cases operation with
  | certificate =>
    rw [run, attempt_discard]
    exact endsAs_decided _ (endsAs_settle agrees_certificate framed)
  | chipId =>
    rw [run, attempt_discard]
    exact endsAs_decided _ (endsAs_settle agrees_chipId framed)
  | version object =>
    rw [run, attempt_discard]
    exact endsAs_decided _ (endsAs_settle (agrees_version object) framed)
  | sessionStart chipPublic pairing =>
    exact endsAs_settle (agrees_sessionStart chipPublic pairing) framed
  | verifyAndStart pairing => exact endsAs_settle (agrees_verifyAndStart pairing) framed
  | sessionAbort => exact endsAs_settle agrees_sessionAbort framed
  | sleep kind => exact endsAs_settle (agrees_sleep kind) framed
  | reboot kind => exact endsAs_settle (agrees_reboot kind) framed
  | execute command =>
    rw [attempt_run_execute]
    exact endsAs_decided _ (executes command short)
  | ping data =>
    rw [attempt_run_ping]
    exact endsAs_decided _ (executes (.ping data) short)
  | randomValueGet count =>
    rw [attempt_run_randomValueGet]
    exact endsAs_decided _ (executes (.randomValueGet count) (Nat.two_pow_pos 63))
  | eddsaSign slot message =>
    by_cases long : Limit.message < message.length
    · rw [attempt_run_eddsaSign_of_long long, checkedRun, if_pos long]
      exact endsAs_refl _
    · rw [attempt_run_eddsaSign long, checkedRun, if_neg long]
      exact endsAs_decided _ (executes (.eddsaSign slot message) short)

/-- Only a command may not come to an end, if the chip goes on sending parts of a
result. -/
theorem Operation.endless {operation : Operation}
    (none : attempt (operation.run frames) device = none) :
    ∃ command, operation.command? = some command ∧ Endless frames command device := by
  cases executes : operation.command? with
  | some command =>
    obtain ⟨accept, same⟩ := run_of_command (σ := σ) executes
    rw [same, Option.map_eq_none_iff] at none
    refine ⟨command, rfl, (attempt_execute_eq_none_iff ?_).mp none⟩
    cases accepted : refusal? device command with
    | none => rfl
    | some e =>
      rw [attempt_execute_of_refusal accepted] at none
      cases none
  | none =>
    exfalso
    cases operation with
    | eddsaSign slot message =>
      have long : Limit.message < message.length := by
        by_contra short
        rw [command?, if_neg short] at executes
        cases executes
      rw [attempt_run_eddsaSign_of_long long] at none
      cases none
    | certificate => rw [run, attempt_discard] at none; cases none
    | chipId => rw [run, attempt_discard] at none; cases none
    | version object => rw [run, attempt_discard] at none; cases none
    | sessionStart => cases none
    | verifyAndStart => cases none
    | sessionAbort => cases none
    | sleep => cases none
    | reboot => cases none
    | _ => cases executes

/-! ### Runs -/

/-- What a device may have come to by operations whose accesses are checked, with a
packet buffer and arguments that can be allocated. Between the operations the transport
changes in any way. -/
inductive Ran (spoil : Bytes → Bytes) : Device σ → Prop
  | start {transport : σ} {config : Config} {device : Device σ}
      (taken : init transport config = .ok device)
      (small : config.packetCapacity.toNat < 2 ^ 63) : Ran spoil device
  | elsewhere {device : Device σ} {transport : σ} (ran : Ran spoil device) :
      Ran spoil { device with bus.transport := transport }
  | step {before after : Device σ} {operation : Operation} {frames : Nat}
      {result : Except Error Unit} (ran : Ran spoil before)
      (short : operation.payload.length < 2 ^ 63)
      (ended : operation.checkedRun spoil frames before = .ok (some (result, after))) :
      Ran spoil after

theorem History.endsAs {events : List (Event σ)} (history : History events device)
    (small : device.config.packetCapacity.toNat < 2 ^ 63)
    (spoils : ∀ frame, (spoil frame).length = frame.length) {operation : Operation}
    (short : operation.payload.length < 2 ^ 63) (frames : Nat) :
    EndsAs (operation.checkedRun spoil frames device) (attempt (operation.run frames) device) :=
  Operation.checkedRun_endsAs history.intact.framed (history.intact.room ▸ small) spoils short
    frames

/-- What is run with its accesses checked, is a history of the device. -/
theorem Ran.history (spoils : ∀ frame, (spoil frame).length = frame.length)
    (ran : Ran spoil device) :
    ∃ events, History events device ∧ device.config.packetCapacity.toNat < 2 ^ 63 := by
  induction ran with
  | start taken small => exact ⟨[], .start taken, init_config taken ▸ small⟩
  | elsewhere ran ih =>
    obtain ⟨events, history, small⟩ := ih
    exact ⟨events, history.elsewhere rfl, small⟩
  | @step before after operation frames result ran short ended ih =>
    obtain ⟨events, history, small⟩ := ih
    obtain ⟨outcome, ended', same⟩ := history.endsAs small spoils short frames
    cases ended.symm.trans ended'
    generalize plain : attempt (operation.run frames) before = outcome at same
    cases same with
    | @ended _ after₀ buffer length =>
      -- The plain step ends elsewhere in the packet buffer only, where a history may differ.
      have config := (Operation.effect history.intact.framed plain).config
      exact ⟨_, (history.step plain).elsewhere length, config.symm ▸ small⟩

/-- Whatever a device has come to, an operation with any arguments makes no access that
faults. It ends as the plain operation does, in a result or an error; it has no outcome
only where the chip goes on sending parts of a result for as long as they are read. -/
theorem Ran.no_fault (spoils : ∀ frame, (spoil frame).length = frame.length)
    (ran : Ran spoil device) {operation : Operation} (short : operation.payload.length < 2 ^ 63)
    (frames : Nat) :
    ∃ outcome, operation.checkedRun spoil frames device = .ok outcome ∧
      Same (attempt (operation.run frames) device) outcome ∧
      (outcome = none →
        ∃ command, operation.command? = some command ∧ Endless frames command device) := by
  obtain ⟨events, history, small⟩ := ran.history spoils
  obtain ⟨outcome, ended, same⟩ := history.endsAs small spoils short frames
  refine ⟨outcome, ended, same, ?_⟩
  rintro rfl
  generalize plain : attempt (operation.run frames) device = outcome at same
  cases same
  exact Operation.endless plain

end

/-- A session that is begun with a new chip may go on with any attacker in the place of
the chip. -/
theorem counting_taken_over : ∃ (keys : SessionKeys) (device : Device Chip),
    Begun .aes256Gcm keys counting device ∧ device.bus.Framed ∧ ∀ attacker : Repeater,
      Ran id ((device.moved attacker).carried (Sum.inr : Repeater → Chip ⊕ Repeater)) := by
  obtain ⟨keys, device, started, begun⟩ := counting_begins
  have embeds : Transport.Embeds (Sum.inl : Chip → Chip ⊕ Repeater) := Transport.embeds_inl
  have start : Ran id (counting.carried (Sum.inl : Chip → Chip ⊕ Repeater)) :=
    .start (init_carried embeds (init_eq_ok_iff.mpr ⟨by decide, rfl⟩)) (by decide)
  have verified : Operation.checkedRun id 0 (.verifyAndStart defaultPairing)
      (counting.carried (Sum.inl : Chip → Chip ⊕ Repeater)) =
        .ok (some (.ok (), device.carried Sum.inl)) := by
    have ran : attempt (Operation.run 0 (.verifyAndStart defaultPairing)) counting =
        some (.ok (), device) := congrArg some started
    have carried := attempt_carried embeds 0 (.verifyAndStart defaultPairing) counting
    rw [ran] at carried
    have framed : Framed (counting.carried (Sum.inl : Chip → Chip ⊕ Repeater)) :=
      List.length_replicate
    rw [Operation.checkedRun, settle, agrees_verifyAndStart defaultPairing _ framed]
    exact congrArg Except.ok carried
  exact ⟨keys, device, begun, (counting_started started).intact.framed, fun attacker =>
    .elsewhere (start.step (by decide) verified)⟩

/-- After a session was begun with a new chip, and with bytes on the wire from then on that
are no frame, a ping fails without a fault. -/
theorem counting_no_fault : ∃ (device after : Device (Chip ⊕ Repeater)) (e : Error),
    Ran id device ∧ device.state = .established ∧ device.bus.transport = .inr .noise ∧
      Operation.checkedRun id 17 (.ping [7]) device = .ok (some (.error e, after)) := by
  obtain ⟨keys, device, begun, framed, ran⟩ := counting_taken_over
  have fresh : (0 : UInt32) ≠ 0xFFFFFFFF := by decide
  have accepted : refusal? (device.moved Repeater.noise) (.ping [7]) = none :=
    counting_accepts begun
  obtain ⟨e, between, failed⟩ := attempt_execute_of_noise Standard.exact.toTotal rfl framed
    begun.config begun.session fresh accepted 17
  have plain : attempt (Operation.run 17 (.ping [7])) (device.moved Repeater.noise) =
      some (.error e, between) := by
    rw [attempt_run_ping, failed]
    rfl
  obtain ⟨outcome, ended, same, -⟩ := (ran .noise).no_fault (fun _ => rfl)
    (show (Operation.ping [7]).payload.length < 2 ^ 63 by decide) 17
  rw [attempt_carried Transport.embeds_inr, plain] at same
  cases same
  exact ⟨_, _, e, ran .noise, begun.state, rfl, ended⟩

/-- There need be neither a result nor an error. If, after a session was begun with a new
chip, an attacker takes the place of the chip who accepts a ping and then goes on sending
parts of a result without data, the ping has no outcome, however many responses are
read. -/
theorem counting_trapped : ∃ device : Device (Chip ⊕ Repeater), Ran id device ∧
    device.state = .established ∧ device.bus.transport = .inr .trap ∧
      ∀ frames, Operation.checkedRun id frames (.ping [7]) device = .ok none := by
  obtain ⟨keys, device, begun, framed, ran⟩ := counting_taken_over
  refine ⟨_, ran .trap, begun.state, rfl, fun frames => ?_⟩
  have fresh : (0 : UInt32) ≠ 0xFFFFFFFF := by decide
  have accepted : refusal? (device.moved Repeater.trap) (.ping [7]) = none :=
    counting_accepts begun
  have endless : Endless frames (.ping [7]) (device.moved Repeater.trap) :=
    endless_of_trapped Standard.exact.toTotal rfl framed begun.config begun.session fresh
      accepted (by decide) frames
  have none : attempt (Operation.run frames (.ping [7])) (device.moved Repeater.trap) = none := by
    rw [attempt_run_ping, (attempt_execute_eq_none_iff accepted).mpr endless]
    rfl
  obtain ⟨events, history, small⟩ := (ran .trap).history fun _ => rfl
  obtain ⟨outcome, ended, same⟩ := history.endsAs small (fun _ => rfl)
    (show (Operation.ping [7]).payload.length < 2 ^ 63 by decide) frames
  rw [attempt_carried Transport.embeds_inr, none] at same
  cases same
  exact ended

end SecureElement.Device
