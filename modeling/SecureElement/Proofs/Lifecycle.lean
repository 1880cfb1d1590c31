import SecureElement.Proofs.Outcomes

/-!
The life of a session.

What each operation does to the session and to the state that is reported beside
it, whatever fails on the way (`Device.Event.Lawful`). Over a history the two never
disagree, and both counters of a session are the number of results that were
decrypted since it began (`Device.answered`).
-/

namespace SecureElement.Device

variable {σ : Type}

section

variable [Transport σ] [Primitives]

/-! ### Events -/

/-- The operation comes to an attempt to start a session: at once, or with the key
that it has found in the certificate. -/
inductive Event.Attempts (event : Event σ) : Prop
  | start {chipPublic : Key} {pairing : Pairing}
      (chosen : event.operation = .sessionStart chipPublic pairing)
      (ran : perform (sessionStart chipPublic pairing) event.before = (event.result, event.after))
  | verified {pairing : Pairing} {bytes : Bytes} {chipPublic : Key} {bus : Bus σ}
      (chosen : event.operation = .verifyAndStart pairing) (framed : bus.Framed)
      (read : perform certificate event.before = (.ok bytes, { event.before with bus }))
      (found : Info.staticKey bytes = .ok chipPublic)
      (ran : perform (sessionStart chipPublic pairing) { event.before with bus } =
        (event.result, event.after))

/-- Whether the operation was to start a session and has done so. -/
def Event.begins (event : Event σ) : Bool :=
  match event.operation.kind, event.result with
  | .start, .ok () => true
  | _, _ => false

/-- Whether the operation executes a command whose result is decrypted. -/
def Event.opens (event : Event σ) : Bool :=
  match event.operation.command? with
  | none => false
  | some command =>
    (refusal? event.before command).isNone &&
      match attempt (exchange event.frames command) event.before with
      | some (.ok _, _) => true
      | _ => false

/-- The number of results that were decrypted since the last session began. -/
def answered : List (Event σ) → Nat
  | [] => 0
  | event :: earlier =>
    if event.begins then 0
    else if event.opens then answered earlier + 1
    else answered earlier

theorem Event.opens_iff {event : Event σ} :
    event.opens ↔ ∃ command, event.operation.command? = some command ∧
      refusal? event.before command = none ∧
      ∃ packet between, attempt (exchange event.frames command) event.before =
        some (.ok packet, between) := by
  unfold opens
  cases event.operation.command? with
  | none => exact ⟨nofun, nofun⟩
  | some command =>
    simp only [Option.some.injEq, exists_eq_left', Bool.and_eq_true, Option.isNone_iff_eq_none]
    refine and_congr_right fun _ => ?_
    rcases attempt (exchange event.frames command) event.before with _ | ⟨e | packet, between⟩ <;>
      simp

/-- What an operation may do to the session and to the state. -/
structure Event.Lawful (event : Event σ) : Prop where
  /-- A session is established only by an attempt that succeeds where there is none. -/
  established : event.before.state ≠ .established → event.after.state = .established →
    event.Attempts ∧ event.result = .ok () ∧ event.before.session = none ∧
      ∃ session, event.after.session = some session ∧
        session.sending.counter = 0 ∧ session.receiving.counter = 0
  /-- A session is aborted only by the exchange of a command that fails. -/
  aborted : event.before.state ≠ .aborted → event.after.state = .aborted →
    event.before.state = .established ∧ ∃ command host e between,
      event.operation.command? = some command ∧ event.before.session = some host ∧
        Exchange event.frames command event.before host (.error e) between ∧
        event.result = .error e
  /-- An attempt that fails leaves no session, unless there was one already. -/
  failed : event.Attempts → ∀ e, event.result = .error e → e ≠ .sessionActive →
    event.after.state = .awaitingHandshake ∧ event.after.session = none
  /-- Where there is a session already, nothing changes. -/
  active : event.operation.kind = .start → event.result = .error .sessionActive →
    event.after = event.before
  /-- An operation that ends the session does so however it ends itself. -/
  stopped : event.operation.kind = .stop → event.after.session = none ∧
    event.after.state =
      if event.before.session.isSome then .awaitingHandshake else event.before.state
  /-- A command counts a packet in each direction if its result is decrypted, and
  otherwise it ends the session or was refused. -/
  executed : event.operation.kind = .command →
    event.opens ∧ event.after.state = event.before.state ∧
      (∃ host, event.before.session = some host ∧ event.after.session = some host.counted) ∨
    ¬event.opens ∧ event.after.session = none ∧ event.after.state = .aborted ∨
    ¬event.opens ∧ event.after.session = event.before.session ∧
      event.after.state = event.before.state
  /-- Nothing else changes the session or the state. -/
  kept : event.operation.kind = .read ∨ event.operation.kind = .start ∧ ¬event.Attempts →
    event.after.session = event.before.session ∧ event.after.state = event.before.state

/-! ### Attempts to start a session -/

variable {event : Event σ} {before after : Device σ} {result : Except Error Unit}

theorem sessionStart_failed {e : Error} {chipPublic : Key} {pairing : Pairing}
    (intact : before.Intact) (other : e ≠ .sessionActive)
    (ran : perform (sessionStart chipPublic pairing) before = (.error e, after)) :
    after.state = .awaitingHandshake ∧ after.session = none := by
  by_cases established : before.state = .established
  · rw [perform_sessionStart_active established] at ran
    cases ran
    exact absurd rfl other
  · cases sessionStart_cases intact.framed established ran with
    | failed => exact ⟨rfl, intact.session_none established⟩

theorem Event.Attempts.failed {e : Error} (attempts : event.Attempts)
    (intact : event.before.Intact) (failed : event.result = .error e)
    (other : e ≠ .sessionActive) :
    event.after.state = .awaitingHandshake ∧ event.after.session = none := by
  cases attempts with
  | start chosen ran =>
    rw [failed] at ran
    exact sessionStart_failed intact other ran
  | verified chosen framed read found ran =>
    rw [failed] at ran
    exact sessionStart_failed (intact.onBus framed) other ran

/-- What comes of an operation that is there to start a session. -/
inductive Event.Started (event : Event σ) : Prop
  /-- There is a session already. -/
  | active (result : event.result = .error .sessionActive) (same : event.after = event.before)
  /-- There is no key in the certificate. -/
  | unread {e : Error} (result : event.result = .error e) (other : e ≠ .sessionActive)
      (session : event.after.session = event.before.session)
      (state : event.after.state = event.before.state)
  /-- The attempt fails. -/
  | failed {e : Error} (attempts : event.Attempts) (result : event.result = .error e)
      (other : e ≠ .sessionActive) (state : event.after.state = .awaitingHandshake)
      (session : event.after.session = none)
  /-- The attempt succeeds. -/
  | begun {keys : SessionKeys} (attempts : event.Attempts)
      (none : event.before.session = none) (result : event.result = .ok ())
      (state : event.after.state = .established)
      (session : event.after.session =
        some (Session.forHost event.before.config.suite keys))

theorem Event.started_of_attempts {chipPublic : Key} {pairing : Pairing} {bus : Bus σ}
    (attempts : event.Attempts) (intact : event.before.Intact) (framed : bus.Framed)
    (idle : event.before.state ≠ .established)
    (ran : perform (sessionStart chipPublic pairing) { event.before with bus } =
      (event.result, event.after)) : event.Started := by
  have none := intact.session_none idle
  have start := sessionStart_cases (intact.onBus framed).framed idle ran
  obtain ⟨before, operation, frames, result, after⟩ := event
  dsimp only at start
  cases start with
  | failed framed other => exact .failed attempts rfl other rfl none
  | begun framed keys => exact .begun attempts none rfl rfl rfl

theorem Event.started (intact : event.before.Intact) (starts : event.operation.kind = .start)
    (ran : attempt (event.operation.run event.frames) event.before =
      some (event.result, event.after)) : event.Started := by
  cases chosen : event.operation with
  | sessionStart chipPublic pairing =>
    rw [chosen] at ran
    have ran := of_attempt_bounded ran
    by_cases established : event.before.state = .established
    · rw [perform_sessionStart_active established] at ran
      exact .active (congrArg Prod.fst ran).symm (congrArg Prod.snd ran).symm
    · exact started_of_attempts (.start chosen ran) intact intact.framed established ran
  | verifyAndStart pairing =>
    rw [chosen] at ran
    have ran := of_attempt_bounded ran
    by_cases established : event.before.state = .established
    · rw [perform_verifyAndStart_active established] at ran
      exact .active (congrArg Prod.fst ran).symm (congrArg Prod.snd ran).symm
    · have verification := verifyAndStart_cases intact.framed established ran
      obtain ⟨before, operation, frames, result, after⟩ := event
      dsimp only at verification
      cases verification with
      | stopped framed other => exact .unread rfl other rfl rfl
      | started framed read found start =>
        exact started_of_attempts (.verified chosen framed read found start) intact framed
          established start
  | sleep kind => rw [chosen] at starts; cases kind <;> cases starts
  | _ => rw [chosen] at starts; cases starts

theorem Event.Attempts.kind (attempts : event.Attempts) : event.operation.kind = .start := by
  cases attempts with
  | start chosen => rw [chosen]; rfl
  | verified chosen => rw [chosen]; rfl

/-! ### Every event is lawful -/

theorem Event.lawful_of_read (reads : event.operation.kind = .read)
    (session : event.after.session = event.before.session)
    (state : event.after.state = event.before.state) : event.Lawful where
  established idle now := absurd (state.symm.trans now) idle
  aborted sound now := absurd (state.symm.trans now) sound
  failed attempts := by cases reads.symm.trans attempts.kind
  active starts := by cases reads.symm.trans starts
  stopped stops := by cases reads.symm.trans stops
  executed executes := by cases reads.symm.trans executes
  kept _ := ⟨session, state⟩

theorem Event.lawful_of_stop (stops : event.operation.kind = .stop) {bus : Bus σ}
    (ended : event.after = { event.before.ended with bus }) : event.Lawful := by
  have after : event.after.session = none ∧ event.after.state =
      if event.before.session.isSome then .awaitingHandshake else event.before.state := by
    rw [ended]
    unfold Device.ended
    by_cases held : event.before.session.isSome
    · rw [if_pos held, if_pos held]
      exact ⟨rfl, rfl⟩
    · rw [if_neg held, if_neg held]
      exact ⟨by simpa using held, rfl⟩
  have stays : ∀ state, state ≠ .awaitingHandshake → event.after.state = state →
      event.before.state = state := by
    intro state other now
    rw [after.2] at now
    split at now
    · exact absurd now.symm other
    · exact now
  refine ⟨fun idle now => absurd (stays .established nofun now) idle,
    fun sound now => absurd (stays .aborted nofun now) sound, fun attempts => ?_, fun starts => ?_,
    fun _ => after, fun executes => ?_, fun other => ?_⟩
  · cases stops.symm.trans attempts.kind
  · cases stops.symm.trans starts
  · cases stops.symm.trans executes
  · rcases other with reads | ⟨starts, -⟩
    · cases stops.symm.trans reads
    · cases stops.symm.trans starts

theorem Event.lawful_of_start (starts : event.operation.kind = .start)
    (intact : event.before.Intact)
    (ran : attempt (event.operation.run event.frames) event.before =
      some (event.result, event.after)) : event.Lawful := by
  have failed : event.Attempts → ∀ e, event.result = .error e → e ≠ .sessionActive →
      event.after.state = .awaitingHandshake ∧ event.after.session = none :=
    fun attempts e => attempts.failed intact
  have other : ∀ kind, kind ≠ .start → event.operation.kind ≠ kind := by
    rintro _ differs rfl
    exact differs starts
  have stopped := other .stop nofun
  have executed := other .command nofun
  have unmoved : event.after.session = event.before.session →
      event.after.state = event.before.state →
      (event.result = .error .sessionActive → event.after = event.before) → event.Lawful := by
    intro session state active
    refine ⟨fun idle now => absurd (state.symm.trans now) idle,
      fun sound now => absurd (state.symm.trans now) sound, failed, fun _ => active,
      fun stops => absurd stops stopped, fun executes => absurd executes executed,
      fun _ => ⟨session, state⟩⟩
  cases started intact starts ran with
  | active result same => exact unmoved (same ▸ rfl) (same ▸ rfl) fun _ => same
  | unread result differs session state =>
    exact unmoved session state fun active =>
      absurd (Except.error.inj (result.symm.trans active)) differs
  | failed attempts result differs state session =>
    refine ⟨fun _ now => ?_, fun _ now => ?_, failed, fun _ active => ?_,
      fun stops => absurd stops stopped, fun executes => absurd executes executed, ?_⟩
    · cases state.symm.trans now
    · cases state.symm.trans now
    · exact absurd (Except.error.inj (result.symm.trans active)) differs
    · rintro (reads | ⟨-, unattempted⟩)
      · exact absurd reads (other .read nofun)
      · exact absurd attempts unattempted
  | begun attempts none result state session =>
    refine ⟨fun _ _ => ⟨attempts, result, none, _, session, rfl, rfl⟩, fun _ now => ?_, failed,
      fun _ active => ?_, fun stops => absurd stops stopped,
      fun executes => absurd executes executed, ?_⟩
    · cases state.symm.trans now
    · cases result.symm.trans active
    · rintro (reads | ⟨-, unattempted⟩)
      · exact absurd reads (other .read nofun)
      · exact absurd attempts unattempted

/-- What comes of an operation that executes a command. -/
inductive Event.Executed (event : Event σ) : Prop
  /-- The command is refused. -/
  | refused (unopened : ¬event.opens) (same : event.after = event.before)
  /-- The exchange fails. -/
  | broken {command : Command} {host : Session} {e : Error} {between : Device σ}
      (unopened : ¬event.opens) (executes : event.operation.command? = some command)
      (held : event.before.session = some host)
      (exchange : Exchange event.frames command event.before host (.error e) between)
      (result : event.result = .error e) (session : event.after.session = none)
      (state : event.after.state = .aborted)
  /-- The result is decrypted. -/
  | answered {host : Session} (opens : event.opens) (held : event.before.session = some host)
      (more : host.sending.counter ≠ 0xFFFFFFFF ∧ host.receiving.counter ≠ 0xFFFFFFFF)
      (session : event.after.session = some host.counted)
      (state : event.after.state = event.before.state)

theorem Event.executed (intact : event.before.Intact) (commands : event.operation.kind = .command)
    (ran : attempt (event.operation.run event.frames) event.before =
      some (event.result, event.after)) : event.Executed := by
  have effect := Operation.effect intact.framed ran
  obtain ⟨before, operation, frames, result, after⟩ := event
  dsimp only at *
  cases effect with
  | read reads => cases reads.symm.trans commands
  | ended stops => cases stops.symm.trans commands
  | active starts => cases starts.symm.trans commands
  | started => cases commands
  | verified => cases commands
  | tooLong long =>
    refine .refused ?_ rfl
    rw [opens_iff]
    rintro ⟨command, executes, -⟩
    rw [Operation.command?, if_pos long] at executes
    cases executes
  | refused executes refused =>
    refine .refused ?_ rfl
    rw [opens_iff]
    rintro ⟨command, executes', accepted, -⟩
    cases executes.symm.trans executes'
    cases refused.symm.trans accepted
  | broken executes accepted held exchange =>
    refine .broken ?_ executes held exchange rfl rfl rfl
    rw [opens_iff]
    rintro ⟨command, executes', -, packet, between, opened⟩
    cases executes.symm.trans executes'
    cases (exchange.ran held).symm.trans opened
  | answered executes accepted held exchange =>
    obtain ⟨session, more⟩ := exchange.counted rfl
    refine .answered ?_ held more session exchange.state
    exact opens_iff.mpr ⟨_, executes, accepted, _, _, exchange.ran held⟩

theorem Event.lawful_of_command (intact : event.before.Intact)
    (commands : event.operation.kind = .command)
    (ran : attempt (event.operation.run event.frames) event.before =
      some (event.result, event.after)) : event.Lawful := by
  have other : ∀ kind, kind ≠ .command → event.operation.kind ≠ kind := by
    rintro _ differs rfl
    exact differs commands
  have starts := other .start nofun
  have reads := other .read nofun
  have stops := other .stop nofun
  have failed : event.Attempts → ∀ e, event.result = .error e → e ≠ .sessionActive →
      event.after.state = .awaitingHandshake ∧ event.after.session = none :=
    fun attempts => absurd attempts.kind starts
  have kept : event.operation.kind = .read ∨ event.operation.kind = .start ∧ ¬event.Attempts →
      event.after.session = event.before.session ∧ event.after.state = event.before.state := by
    rintro (read | ⟨start, -⟩)
    · exact absurd read reads
    · exact absurd start starts
  cases executed intact commands ran with
  | refused unopened same =>
    refine ⟨fun idle now => ?_, fun sound now => ?_, failed, fun start => absurd start starts,
      fun stop => absurd stop stops, fun _ => ?_, kept⟩
    · exact absurd (same ▸ now) idle
    · exact absurd (same ▸ now) sound
    · exact .inr (.inr ⟨unopened, same ▸ rfl, same ▸ rfl⟩)
  | broken unopened executes held exchange result session state =>
    have established := intact.state.mpr (held ▸ rfl)
    refine ⟨fun idle => absurd established idle, fun _ _ => ?_, failed,
      fun start => absurd start starts, fun stop => absurd stop stops, fun _ => ?_, kept⟩
    · exact ⟨established, _, _, _, _, executes, held, exchange, result⟩
    · exact .inr (.inl ⟨unopened, session, state⟩)
  | answered opens held more session state =>
    refine ⟨fun idle now => ?_, fun sound now => ?_, failed, fun start => absurd start starts,
      fun stop => absurd stop stops, fun _ => ?_, kept⟩
    · exact absurd (state.symm.trans now) idle
    · exact absurd (state.symm.trans now) sound
    · exact .inl ⟨opens, state, _, held, session⟩

/-- An operation that neither starts a session nor executes a command uses the bus, and
besides it at most ends the session. -/
theorem Event.moved (intact : event.before.Intact) (unstarting : event.operation.kind ≠ .start)
    (uncommanding : event.operation.kind ≠ .command)
    (ran : attempt (event.operation.run event.frames) event.before =
      some (event.result, event.after)) :
    ∃ bus, event.operation.kind = .read ∧ event.after = { event.before with bus } ∨
      event.operation.kind = .stop ∧ event.after = { event.before.ended with bus } := by
  have effect := Operation.effect intact.framed ran
  obtain ⟨before, operation, frames, result, after⟩ := event
  dsimp only at *
  cases effect with
  | @read _ _ bus reads => exact ⟨bus, .inl ⟨reads, rfl⟩⟩
  | @ended _ _ bus stops => exact ⟨bus, .inr ⟨stops, rfl⟩⟩
  | active starts => exact absurd starts unstarting
  | started => exact absurd rfl unstarting
  | verified => exact absurd rfl unstarting
  | tooLong => exact absurd rfl uncommanding
  | refused executes => exact absurd (Operation.kind_of_command? executes) uncommanding
  | broken executes => exact absurd (Operation.kind_of_command? executes) uncommanding
  | answered executes => exact absurd (Operation.kind_of_command? executes) uncommanding

/-- Every operation on a device that is intact does what it may. -/
theorem Event.lawful (event : Event σ) (intact : event.before.Intact)
    (ran : attempt (event.operation.run event.frames) event.before =
      some (event.result, event.after)) : event.Lawful := by
  by_cases starts : event.operation.kind = .start
  · exact lawful_of_start starts intact ran
  by_cases commands : event.operation.kind = .command
  · exact lawful_of_command intact commands ran
  obtain ⟨bus, ⟨reads, same⟩ | ⟨stops, ended⟩⟩ := moved intact starts commands ran
  · exact lawful_of_read reads (same ▸ rfl) (same ▸ rfl)
  · exact lawful_of_stop stops ended

/-! ### Counters -/

/-- Both counters of the session, if there is one, stand at the number. -/
def Stands (device : Device σ) (count : Nat) : Prop :=
  ∀ session, device.session = some session →
    session.sending.counter.toNat = count ∧ session.receiving.counter.toNat = count

theorem Event.opens_eq_false (event : Event σ) (differs : event.operation.kind ≠ .command) :
    event.opens = false := by
  cases opened : event.opens with
  | false => rfl
  | true =>
    obtain ⟨command, executes, -⟩ := opens_iff.mp opened
    exact absurd (Operation.kind_of_command? executes) differs

omit [Transport σ] [Primitives] in
theorem Event.begins_iff {event : Event σ} :
    event.begins ↔ event.operation.kind = .start ∧ event.result = .ok () := by
  unfold begins
  split
  · simp [*]
  · simp_all

/-- What an event does to the counters is what it does to the number of results. -/
theorem Event.stands (event : Event σ) {earlier : List (Event σ)} (intact : event.before.Intact)
    (ran : attempt (event.operation.run event.frames) event.before =
      some (event.result, event.after)) (stands : event.before.Stands (answered earlier)) :
    event.after.Stands (answered (event :: earlier)) := by
  have apart : ∀ kind, event.operation.kind = kind → kind ≠ .start → event.begins = false := by
    intro kind chosen differs
    rw [← Bool.not_eq_true, begins_iff]
    exact fun ⟨starts, _⟩ => differs (chosen.symm.trans starts)
  have unbegun : ∀ {e : Error}, event.result = .error e → event.begins = false := by
    intro e failed
    rw [← Bool.not_eq_true, begins_iff]
    rintro ⟨-, result⟩
    cases failed.symm.trans result
  -- Where the event neither begins a session nor opens a result, or leaves no session, there
  -- is nothing to count.
  have unmoved : event.after.session = event.before.session → event.begins = false →
      event.opens = false → event.after.Stands (answered (event :: earlier)) := by
    intro session waiting unopened
    rw [answered, waiting, unopened]
    intro other held
    exact stands other (session.symm.trans held)
  have ended : event.after.session = none → event.after.Stands (answered (event :: earlier)) := by
    intro none session held
    cases none.symm.trans held
  cases kind : event.operation.kind with
  | read =>
    obtain ⟨session, -⟩ := (event.lawful intact ran).kept (.inl kind)
    exact unmoved session (apart _ kind nofun) (event.opens_eq_false (kind ▸ nofun))
  | stop => exact ended ((event.lawful intact ran).stopped kind).1
  | start =>
    have unopened := event.opens_eq_false (kind ▸ nofun)
    cases started intact kind ran with
    | active result same => exact unmoved (same ▸ rfl) (unbegun result) unopened
    | unread result other session state => exact unmoved session (unbegun result) unopened
    | failed attempts result other state session => exact ended session
    | begun attempts none result state session =>
      rw [answered, if_pos (begins_iff.mpr ⟨kind, result⟩)]
      intro other held
      cases session.symm.trans held
      exact ⟨rfl, rfl⟩
  | command =>
    cases executed intact kind ran with
    | refused unopened same =>
      exact unmoved (same ▸ rfl) (apart _ kind nofun) (by simpa using unopened)
    | broken unopened executes held exchange result session state => exact ended session
    | answered opens held more session state =>
      rw [answered, apart _ kind nofun, opens]
      intro other held'
      cases session.symm.trans held'
      obtain ⟨sent, received⟩ := stands _ held
      exact ⟨(Direction.toNat_advance more.1).trans (congrArg (· + 1) sent),
        (Direction.toNat_advance more.2).trans (congrArg (· + 1) received)⟩

/-- The state says whether there is a session; both counters of a session are the
number of results that were decrypted since it began; and every operation has done
only what it may. -/
theorem History.lifecycle {events : List (Event σ)} {device : Device σ}
    (history : History events device) :
    (device.session.isSome ↔ device.state = .established) ∧
      (∀ session, device.session = some session →
        session.sending.counter.toNat = answered events ∧
        session.receiving.counter.toNat = answered events) ∧
      ∀ event ∈ events, event.Lawful := by
  refine ⟨history.intact.state.symm, ?_, ?_⟩
  · induction history with
    | start taken =>
      intro session held
      rw [(init_intact taken).2] at held
      cases held
    | elsewhere history same ih => exact ih
    | @step events before after operation frames result history ran ih =>
      exact Event.stands ⟨before, operation, frames, result, after⟩ history.intact ran ih
  · induction history with
    | start taken =>
      intro event none
      cases none
    | elsewhere history same ih => exact ih
    | @step events before after operation frames result history ran ih =>
      intro event member
      rcases List.mem_cons.mp member with rfl | earlier
      · exact Event.lawful _ history.intact ran
      · exact ih event earlier

end

/-- After a device on a new chip has begun a session and has executed a ping, both
counters stand at one. -/
theorem counting_lives :
    ∃ (events : List (Event Chip)) (device : Device Chip) (session : Session),
      History events device ∧ events.length = 2 ∧ device.session = some session ∧
        session.sending.counter = 1 ∧ session.receiving.counter = 1 ∧
        answered events = 1 ∧ device.state = .established ∧ ∀ event ∈ events, event.Lawful := by
  obtain ⟨keys, device, after, started, executed, counted⟩ := counting_pings
  have history := counting_started started
  have ran : attempt (Operation.run 17 (.execute (.ping [7]))) device = some (.ok (), after) :=
    attempt_bind_ok executed
  obtain ⟨state, counters, lawful⟩ := (history.step ran).lifecycle
  refine ⟨_, after, _, history.step ran, rfl, counted, rfl, rfl, ?_, ?_, lawful⟩
  · exact (counters _ counted).1.symm
  · exact state.mp (counted ▸ rfl)

end SecureElement.Device
