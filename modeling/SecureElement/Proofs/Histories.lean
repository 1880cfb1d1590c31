import SecureElement.Proofs.Effects

/-!
Histories of a device on any transport.

A history takes a transport into use and goes on with any operations, in any order
and with any outcome; between them the transport may become anything, and what the
packet buffer holds is of no account (`Device.History`). Throughout, the buffers
keep their lengths, and there is a session exactly when the state says so
(`Device.Intact`).
-/

namespace SecureElement.Device

variable {σ : Type}

/-- An operation and its arguments. -/
inductive Operation where
  | certificate
  | chipId
  | version (object : Info.Object)
  | sessionStart (chipPublic : Key) (pairing : Pairing)
  | verifyAndStart (pairing : Pairing)
  | sessionAbort
  | sleep (kind : SleepKind)
  | reboot (kind : StartupKind)
  | execute (command : Command)
  | ping (data : Bytes)
  | randomValueGet (count : UInt8)
  | eddsaSign (slot : UInt16) (message : Bytes)

/-- The command that an operation executes, if it comes to that. -/
def Operation.command? : Operation → Option Command
  | execute command => some command
  | ping data => some (.ping data)
  | randomValueGet count => some (.randomValueGet count)
  | eddsaSign slot message =>
    if Limit.message < message.length then none else some (.eddsaSign slot message)
  | _ => none

/-- What an operation is for. -/
inductive Operation.Kind where
  /-- It uses the bus, and otherwise leaves the device as it is. -/
  | read
  /-- It starts a session. -/
  | start
  /-- It ends the session. -/
  | stop
  /-- It executes a command. -/
  | command

/-- The kind of an operation; only deep sleep ends the session. -/
def Operation.kind : Operation → Kind
  | certificate => .read
  | chipId => .read
  | version _ => .read
  | sleep .sleep => .read
  | sessionStart .. => .start
  | verifyAndStart _ => .start
  | sessionAbort => .stop
  | sleep .deepSleep => .stop
  | reboot _ => .stop
  | execute _ => .command
  | ping _ => .command
  | randomValueGet _ => .command
  | eddsaSign .. => .command

theorem Operation.kind_of_command? {operation : Operation} {command : Command}
    (executes : operation.command? = some command) : operation.kind = .command := by
  cases operation with
  | execute => rfl
  | ping => rfl
  | randomValueGet => rfl
  | eddsaSign => rfl
  | _ => cases executes

/-- An operation that a device has come through. -/
structure Event (σ : Type) where
  before : Device σ
  operation : Operation
  /-- The bound on the responses that a result is collected from. -/
  frames : Nat
  result : Except Error Unit
  after : Device σ

section

variable {device : Device σ}

/-- The buffers have the lengths that they were made with, and there is a session
exactly when the state says so. -/
structure Intact (device : Device σ) : Prop where
  framed : device.bus.Framed
  room : device.buffer.length = device.config.packetCapacity.toNat
  state : device.state = .established ↔ device.session.isSome

/-- The device without its session, if it has one. -/
def ended (device : Device σ) : Device σ :=
  if device.session.isSome then device.endSession .awaitingHandshake else device

theorem Intact.ended (intact : device.Intact) : device.ended.Intact := by
  unfold Device.ended
  split
  · exact ⟨intact.framed, intact.room, ⟨nofun, nofun⟩⟩
  · exact intact

theorem Intact.onBus (intact : device.Intact) {bus : Bus σ} (framed : bus.Framed) :
    Intact { device with bus } :=
  ⟨framed, intact.room, intact.state⟩

theorem Intact.session_none (intact : device.Intact) (idle : device.state ≠ .established) :
    device.session = none := by
  have absent := mt intact.state.mpr idle
  simpa using absent

end

variable [Transport σ] [Primitives]

/-- Runs an operation; where a result is collected, from at most `frames`
responses. -/
def Operation.run (frames : Nat) : Operation → DeviceRun σ Unit
  | certificate => do let _ ← bounded Device.certificate
  | chipId => do let _ ← bounded Device.chipId
  | version object => do let _ ← bounded (Device.version object)
  | sessionStart chipPublic pairing => bounded (Device.sessionStart chipPublic pairing)
  | verifyAndStart pairing => bounded (Device.verifyAndStart pairing)
  | sessionAbort => bounded Device.sessionAbort
  | sleep kind => bounded (Device.sleep kind)
  | reboot kind => bounded (Device.reboot kind)
  | execute command => do let _ ← Device.execute frames command
  | ping data => do let _ ← Device.ping frames data
  | randomValueGet count => do let _ ← Device.randomValueGet frames count
  | eddsaSign slot message => do let _ ← Device.eddsaSign frames slot message

/-- What a device may have come through, the latest event first, and where that
has brought it. -/
inductive History : List (Event σ) → Device σ → Prop
  | start {transport : σ} {config : Config} {device : Device σ}
      (taken : init transport config = .ok device) : History [] device
  /-- Between operations the transport changes in any way, and so may what is left
  in the packet buffer. -/
  | elsewhere {events : List (Event σ)} {device : Device σ} {transport : σ} {buffer : Bytes}
      (history : History events device) (same : buffer.length = device.buffer.length) :
      History events { device with bus.transport := transport, buffer }
  | step {events : List (Event σ)} {before after : Device σ} {operation : Operation}
      {frames : Nat} {result : Except Error Unit} (history : History events before)
      (ran : attempt (operation.run frames) before = some (result, after)) :
      History (⟨before, operation, frames, result, after⟩ :: events) after

/-! ### Commands -/

variable {device after : Device σ} {frames : Nat} {result : Except Error Unit}

omit [Transport σ] [Primitives] in
/-- If what follows an action only decides on its result, the state is that of the
action. -/
theorem attempt_bind_decide {α β : Type} {act : DeviceRun σ α} {next : α → DeviceRun σ β}
    (decide : α → Except Error β)
    (still : ∀ a device, attempt (next a) device = some (decide a, device)) (device : Device σ) :
    attempt (act >>= next) device =
      (attempt act device).map fun ended => (ended.1.bind decide, ended.2) := by
  rw [attempt_bind]
  rcases attempt act device with _ | ⟨e | a, after⟩
  · rfl
  · rfl
  · exact still a after

theorem eddsaSign_eq (frames : Nat) (slot : UInt16) (message : Bytes) :
    (eddsaSign frames slot message : DeviceRun σ (Octets 64)) =
      if Limit.message < message.length then throw (.capacity message.length Limit.message)
      else execute frames (.eddsaSign slot message) := by
  unfold eddsaSign
  split <;> rfl

theorem attempt_run_execute (frames : Nat) (command : Command) (device : Device σ) :
    attempt ((Operation.execute command).run frames) device =
      (attempt (execute frames command) device).map
        fun ended => (ended.1.bind fun _ => .ok (), ended.2) :=
  attempt_bind_decide _ (fun _ _ => rfl) device

/-- Only the data that was sent is accepted. -/
theorem attempt_run_ping (frames : Nat) (data : Bytes) (device : Device σ) :
    attempt ((Operation.ping data).run frames) device =
      (attempt (execute frames (.ping data)) device).map fun ended =>
        (ended.1.bind fun echo => if echo ≠ data then .error Command.malformed else .ok (),
          ended.2) := by
  rw [Operation.run, ping, bind_assoc]
  refine attempt_bind_decide _ (fun echo device => ?_) device
  split <;> rfl

/-- Only as many bytes as were asked for are accepted. -/
theorem attempt_run_randomValueGet (frames : Nat) (count : UInt8) (device : Device σ) :
    attempt ((Operation.randomValueGet count).run frames) device =
      (attempt (execute frames (.randomValueGet count)) device).map
        fun ended => (ended.1.bind (Command.checkCount count), ended.2) := by
  rw [Operation.run, randomValueGet, bind_assoc]
  refine attempt_bind_decide _ (fun bytes device => ?_) device
  cases Command.checkCount count bytes <;> rfl

theorem attempt_run_eddsaSign_of_long {message : Bytes} (long : Limit.message < message.length)
    (frames : Nat) (slot : UInt16) (device : Device σ) :
    attempt ((Operation.eddsaSign slot message).run frames) device =
      some (.error (.capacity message.length Limit.message), device) := by
  rw [Operation.run, eddsaSign_eq, if_pos long]
  rfl

theorem attempt_run_eddsaSign {message : Bytes} (short : ¬Limit.message < message.length)
    (frames : Nat) (slot : UInt16) (device : Device σ) :
    attempt ((Operation.eddsaSign slot message).run frames) device =
      (attempt (execute frames (.eddsaSign slot message)) device).map
        fun ended => (ended.1.bind fun _ => .ok (), ended.2) := by
  rw [Operation.run, eddsaSign_eq, if_neg short]
  exact attempt_bind_decide _ (fun _ _ => rfl) device

/-- An operation that executes a command ends as the command does; at most, a result
that the command returns is not accepted. -/
theorem Operation.run_of_command {operation : Operation} {command : Command}
    (executes : operation.command? = some command) :
    ∃ accept : command.Response → Except Error Unit, ∀ frames (device : Device σ),
      attempt (operation.run frames) device =
        (attempt (Device.execute frames command) device).map
          fun ended => (ended.1.bind accept, ended.2) := by
  cases operation with
  | execute =>
    cases executes
    exact ⟨_, fun frames => attempt_run_execute frames command⟩
  | ping data =>
    cases executes
    exact ⟨_, fun frames => attempt_run_ping frames data⟩
  | randomValueGet count =>
    cases executes
    exact ⟨_, fun frames => attempt_run_randomValueGet frames count⟩
  | eddsaSign slot message =>
    by_cases long : Limit.message < message.length
    · rw [command?, if_pos long] at executes
      cases executes
    · rw [command?, if_neg long] at executes
      cases executes
      exact ⟨_, fun frames => attempt_run_eddsaSign long frames slot⟩
  | _ => cases executes

/-! ### Effects -/

/-- What an operation does to a device. -/
inductive Effect (before : Device σ) (frames : Nat) :
    Operation → Except Error Unit → Device σ → Prop
  | read {operation : Operation} {result : Except Error Unit} {bus : Bus σ}
      (reads : operation.kind = .read) (framed : bus.Framed) :
      Effect before frames operation result { before with bus }
  | ended {operation : Operation} {result : Except Error Unit} {bus : Bus σ}
      (stops : operation.kind = .stop) (framed : bus.Framed) :
      Effect before frames operation result { before.ended with bus }
  | active {operation : Operation} (starts : operation.kind = .start)
      (established : before.state = .established) :
      Effect before frames operation (.error .sessionActive) before
  | started {chipPublic : Key} {pairing : Pairing} {result : Except Error Unit} {after : Device σ}
      (idle : before.state ≠ .established) (start : Start before result after) :
      Effect before frames (.sessionStart chipPublic pairing) result after
  | verified {pairing : Pairing} {result : Except Error Unit} {after : Device σ}
      (idle : before.state ≠ .established)
      (verification : Verification before pairing result after) :
      Effect before frames (.verifyAndStart pairing) result after
  | tooLong {slot : UInt16} {message : Bytes} (long : Limit.message < message.length) :
      Effect before frames (.eddsaSign slot message)
        (.error (.capacity message.length Limit.message)) before
  | refused {operation : Operation} {command : Command} {e : Error}
      (executes : operation.command? = some command)
      (refused : refusal? before command = some e) :
      Effect before frames operation (.error e) before
  | broken {operation : Operation} {command : Command} {host : Session} {e : Error}
      {between : Device σ} (executes : operation.command? = some command)
      (accepted : refusal? before command = none) (held : before.session = some host)
      (exchange : Exchange frames command before host (.error e) between) :
      Effect before frames operation (.error e) (between.endSession .aborted)
  | answered {operation : Operation} {command : Command} {host : Session} {packet : Bytes}
      {between : Device σ} {result : Except Error Unit}
      (executes : operation.command? = some command)
      (accepted : refusal? before command = none) (held : before.session = some host)
      (exchange : Exchange frames command before host (.ok packet) between) :
      Effect before frames operation result (between.wiped packet)

theorem Effect.of_read {operation : Operation} {α : Type} {Q : α → Prop} {E : Error → Prop}
    {act : DeviceM σ α} (reads : operation.kind = .read)
    (contract : Contract (OnBus device) Q E act) (framed : device.bus.Framed)
    (same : (perform act device).2 = after) :
    Effect device frames operation result after := by
  obtain ⟨bus, kept, rfl⟩ := same ▸ (contract device (.refl framed)).1
  exact .read reads kept

theorem Effect.of_end {operation : Operation} {Q : Unit → Prop} {E : Error → Prop}
    {act : DeviceM σ Unit} (stops : operation.kind = .stop)
    (contract : Contract (OnBus device.ended) Q E act) (framed : device.bus.Framed)
    (same : (perform act device.ended).2 = after) :
    Effect device frames operation result after := by
  have framed' : device.ended.bus.Framed := by
    unfold Device.ended
    split <;> exact framed
  obtain ⟨bus, kept, rfl⟩ := same ▸ (contract device.ended (.refl framed')).1
  exact .ended stops kept

theorem Effect.of_command {operation : Operation} {command : Command}
    (executes : operation.command? = some command)
    (ran : attempt (operation.run frames) device = some (result, after)) :
    Effect device frames operation result after := by
  obtain ⟨accept, same⟩ := Operation.run_of_command (σ := σ) executes
  rw [same] at ran
  obtain ⟨⟨outcome, after'⟩, executed, ended⟩ := Option.map_eq_some_iff.mp ran
  cases ended
  cases accepted : refusal? device command with
  | some e =>
    rw [attempt_execute_of_refusal accepted] at executed
    cases executed
    exact .refused executes accepted
  | none =>
    obtain ⟨host, between, held, ⟨e, exchange, rfl, rfl⟩ | ⟨packet, exchange, rfl, rfl⟩⟩ :=
      execute_cases accepted executed
    · exact .broken executes accepted held exchange
    · exact .answered executes accepted held exchange

/-- Every operation has an effect of these. -/
theorem Operation.effect (framed : device.bus.Framed) {operation : Operation}
    (ran : attempt (operation.run frames) device = some (result, after)) :
    Effect device frames operation result after := by
  cases operation with
  | certificate =>
    exact .of_read rfl contract_certificate framed (of_attempt_discard_bounded ran)
  | chipId => exact .of_read rfl contract_chipId framed (of_attempt_discard_bounded ran)
  | version object =>
    exact .of_read rfl (contract_version object) framed (of_attempt_discard_bounded ran)
  | sessionStart chipPublic pairing =>
    have ran := of_attempt_bounded ran
    by_cases established : device.state = .established
    · rw [perform_sessionStart_active established] at ran
      cases ran
      exact .active rfl established
    · exact .started established (sessionStart_cases framed established ran)
  | verifyAndStart pairing =>
    have ran := of_attempt_bounded ran
    by_cases established : device.state = .established
    · rw [perform_verifyAndStart_active established] at ran
      cases ran
      exact .active rfl established
    · exact .verified established (verifyAndStart_cases framed established ran)
  | sessionAbort =>
    have ran := congrArg Prod.snd (of_attempt_bounded ran)
    rw [perform_sessionAbort] at ran
    by_cases held : device.session.isSome
    · rw [if_pos held] at ran
      refine .of_end rfl contract_abort framed ?_
      rwa [Device.ended, if_pos held]
    · rw [if_neg held] at ran
      have same : { device.ended with bus := device.bus } = after := by
        rwa [Device.ended, if_neg held]
      exact same ▸ .ended rfl framed
  | sleep kind =>
    have ran := congrArg Prod.snd (of_attempt_bounded ran)
    rw [perform_sleep] at ran
    cases kind with
    | sleep => exact .of_read rfl (contract_sleep .sleep) framed ran
    | deepSleep =>
      refine .of_end rfl (contract_sleep .deepSleep) framed ?_
      simpa only [Device.ended, true_and] using ran
  | reboot kind =>
    have ran := congrArg Prod.snd (of_attempt_bounded ran)
    rw [perform_reboot] at ran
    exact .of_end rfl (contract_startup kind) framed ran
  | execute command => exact .of_command rfl ran
  | ping data => exact .of_command rfl ran
  | randomValueGet count => exact .of_command rfl ran
  | eddsaSign slot message =>
    by_cases long : Limit.message < message.length
    · rw [attempt_run_eddsaSign_of_long long] at ran
      cases ran
      exact .tooLong long
    · exact .of_command (if_neg long) ran

/-! ### What holds throughout -/

omit [Primitives] in
theorem init_intact {transport : σ} {config : Config}
    (taken : init transport config = .ok device) :
    device.Intact ∧ device.session = none := by
  unfold init at taken
  dsimp only at taken
  split at taken
  · cases taken
  · rcases begun : (Transport.init (σ := σ)).run.run transport with ⟨cause | _, transport'⟩
    all_goals rw [begun] at taken
    · cases taken
    · cases taken
      exact ⟨⟨List.length_replicate, List.length_replicate, ⟨nofun, nofun⟩⟩, rfl⟩

omit [Primitives] in
theorem init_config {transport : σ} {config : Config}
    (taken : init transport config = .ok device) : device.config = config := by
  unfold init at taken
  dsimp only at taken
  split at taken
  · cases taken
  · split at taken
    · cases taken
    · cases taken
      rfl

omit [Transport σ] [Primitives] in
theorem Start.intact (start : Start device result after) (intact : device.Intact)
    (idle : device.state ≠ .established) : after.Intact := by
  have none := intact.session_none idle
  cases start with
  | failed framed other => exact ⟨framed, intact.room, by simp [none]⟩
  | begun framed keys => exact ⟨framed, intact.room, by simp⟩

theorem Exchange.intact {command : Command} {host : Session} {outcome : Except Error Bytes}
    (exchange : Exchange frames command device host outcome after) (intact : device.Intact)
    (accepted : refusal? device command = none) :
    after.bus.Framed ∧ after.buffer.length = after.config.packetCapacity.toNat := by
  have room := (room_for_command accepted).2
  rw [Session.overhead] at room
  obtain ⟨framed, same⟩ := exchange.kept intact.framed (by omega)
  exact ⟨framed, by rw [same, intact.room, exchange.config]⟩

theorem Effect.intact {operation : Operation} (effect : Effect device frames operation result after)
    (intact : device.Intact) : after.Intact := by
  cases effect with
  | read reads framed => exact intact.onBus framed
  | ended stops framed => exact intact.ended.onBus framed
  | active starts established => exact intact
  | started idle start => exact start.intact intact idle
  | verified idle verification =>
    cases verification with
    | stopped framed other => exact intact.onBus framed
    | started framed read found start =>
      have intact' := intact.onBus framed
      exact (sessionStart_cases intact'.framed idle start).intact intact' idle
  | tooLong long => exact intact
  | refused executes refused => exact intact
  | broken executes accepted held exchange =>
    obtain ⟨framed, room⟩ := exchange.intact intact accepted
    exact ⟨framed, room, ⟨nofun, nofun⟩⟩
  | @answered _ _ _ packet between _ executes accepted held exchange =>
    obtain ⟨framed, room⟩ := exchange.intact intact accepted
    have inside := exchange.packet_le rfl
    have state := exchange.state
    obtain ⟨counted, -⟩ := exchange.counted rfl
    refine ⟨framed, ?_, ?_⟩
    · have blank : (between.wiped packet).buffer.length = between.buffer.length := by
        apply Bytes.length_overlay
        rw [List.length_replicate]
        omega
      exact blank.trans room
    · unfold wiped
      dsimp only
      rw [state, counted, intact.state, held]
      simp

omit [Transport σ] [Primitives] in
theorem Start.config (start : Start device result after) : after.config = device.config := by
  cases start <;> rfl

theorem Effect.config {operation : Operation}
    (effect : Effect device frames operation result after) : after.config = device.config := by
  cases effect with
  | ended stops framed =>
    unfold Device.ended
    split <;> rfl
  | started idle start => exact start.config
  | verified idle verification =>
    cases verification with
    | stopped framed other => rfl
    | @started _ _ bus _ _ framed read found start =>
      have start : Start { device with bus } result after := sessionStart_cases framed idle start
      exact start.config
  | broken executes accepted held exchange => exact exchange.config
  | answered executes accepted held exchange => exact exchange.config
  | _ => rfl

/-- Every device that has a history is intact. -/
theorem History.intact {events : List (Event σ)} (history : History events device) :
    device.Intact := by
  induction history with
  | start taken => exact (init_intact taken).1
  | elsewhere history same intact => exact ⟨intact.framed, same.trans intact.room, intact.state⟩
  | step history ran intact => exact (Operation.effect intact.framed ran).intact intact

end SecureElement.Device
