import Mathlib.Logic.ExistsUnique
import SecureElement.Proofs.Handshakes
import SecureElement.Proofs.Histories
import SecureElement.Proofs.Transparency

/-!
Outcomes of a command on any transport.

Executing a command ends in exactly one of three ways (`Device.Outcome`). It is
refused for a reason that the host has by itself, and the transport is not used.
Its exchange fails, and the session with it. Or the collected frame opens as the
next one of the session, and what is returned is read from its packet alone. A
chip that never sends a last response keeps the host waiting, and that is the only
way in which there is no outcome (`Device.attempt_execute_eq_none_iff`).
-/

namespace SecureElement

namespace Link

variable {σ : Type} [Transport σ] {c : Config} {frames : Nat}

/-- The next `frames` responses are all parts of a result but the last, and there
is room for their data. -/
inductive Continues (c : Config) : (frames room : Nat) → Bus σ → Prop
  | done {room : Nat} {bus : Bus σ} : Continues c 0 room bus
  | more {frames room : Nat} {bus after : Bus σ} {reply : Frame.Reply}
      (received : perform (receive c) bus = (.ok reply, after))
      (status : reply.status = .resultCont) (fits : reply.data.length ≤ room)
      (rest : Continues c frames (room - reply.data.length) after) :
      Continues c (frames + 1) room bus

/-- There is no result if and only if the chip goes on for as long as is asked. -/
theorem collect_eq_none_iff {out : Bytes} {length : Nat} {bus : Bus σ}
    (inside : length ≤ out.length) :
    ((collect c frames out length).run bus).1 = none ↔
      Continues c frames (out.length - length) bus := by
  induction frames generalizing out length bus with
  | zero => exact ⟨fun _ => .done, fun _ => rfl⟩
  | succ frames ih =>
    -- What `Continues` says of the next response is what keeps the loop going.
    rw [run_collect]
    rcases received : perform (receive c) bus with ⟨e | reply, after⟩
    · refine ⟨nofun, ?_⟩
      rintro (_ | ⟨received', -⟩)
      rw [received] at received'
      cases received'
    dsimp only
    have step : Continues c (frames + 1) (out.length - length) bus ↔
        reply.status = .resultCont ∧ reply.data.length ≤ out.length - length ∧
          Continues c frames (out.length - length - reply.data.length) after := by
      constructor
      · rintro (_ | ⟨received', status, fits, rest⟩)
        rw [received] at received'
        cases received'
        exact ⟨status, fits, rest⟩
      · rintro ⟨status, fits, rest⟩
        exact .more received status fits rest
    rw [step]
    by_cases result : reply.status = .resultCont ∨ reply.status = .resultOk
    case neg =>
      rw [if_neg result]
      exact ⟨nofun, fun ⟨status, _⟩ => absurd (.inl status) result⟩
    rw [if_pos result]
    by_cases long : out.length < length + reply.data.length
    case pos =>
      rw [if_pos long]
      exact ⟨nofun, fun ⟨_, fits, _⟩ => by omega⟩
    rw [if_neg long]
    by_cases last : reply.status = .resultOk
    case pos =>
      rw [if_pos last]
      exact ⟨nofun, fun ⟨status, _⟩ => by rw [last] at status; cases status⟩
    have fits := Nat.le_of_not_lt long
    rw [if_neg last, ih (Bytes.length_overlay fits ▸ fits), Bytes.length_overlay fits,
      Nat.sub_add_eq]
    exact ⟨fun rest => ⟨result.resolve_right last, by omega, rest⟩, fun ⟨_, _, rest⟩ => rest⟩

/-- A result that is complete does not depend on how many more responses would have
been read. -/
theorem collect_stable {out : Bytes} {length : Nat} {bus after : Bus σ}
    {outcome : Except Error Nat × Bytes}
    (collects : (collect c frames out length).run bus = (some outcome, after)) (more : Nat) :
    (collect c (frames + more) out length).run bus = (some outcome, after) := by
  induction frames generalizing out length bus with
  | zero => cases collects
  | succ frames ih =>
    rw [Nat.succ_add, run_collect]
    rw [run_collect] at collects
    rcases performed : perform (receive c) bus with ⟨e | reply, between⟩
    all_goals rw [performed] at collects
    · exact collects
    dsimp only at collects ⊢
    split
    case isFalse other => rwa [if_neg other] at collects
    case isTrue result =>
      rw [if_pos result] at collects
      split
      case isTrue long => rwa [if_pos long] at collects
      case isFalse fits =>
        rw [if_neg fits] at collects
        split
        case isTrue last => rwa [if_pos last] at collects
        case isFalse unfinished =>
          rw [if_neg unfinished] at collects
          exact ih collects

end Link

namespace Device

variable {σ : Type}

/-! ### The three outcomes -/

/-- Why a command can be refused, and how that is reported. -/
inductive Refusal (device : Device σ) (command : Command) : Error → Prop
  | tooLong (long : command.maxDataLength < command.dataLength) :
      Refusal device command (.capacity command.dataLength command.maxDataLength)
  | noRoom (short : command.dataLength ≤ command.maxDataLength)
      (small : device.buffer.length < frameLength command) :
      Refusal device command (.capacity (frameLength command) device.buffer.length)
  | noSession (short : command.dataLength ≤ command.maxDataLength)
      (room : frameLength command ≤ device.buffer.length) (absent : device.session = none) :
      Refusal device command .noSession

/-- The device on another bus. -/
def onto {τ : Type} (device : Device σ) (bus : Bus τ) : Device τ :=
  { device with bus }

variable {device : Device σ} {command : Command}

theorem refusal?_eq_some_iff {e : Error} :
    refusal? device command = some e ↔ Refusal device command e := by
  unfold refusal?
  constructor
  · intro refused
    split at refused
    case isTrue long =>
      cases refused
      exact .tooLong long
    case isFalse short =>
      split at refused
      case isTrue small =>
        cases refused
        exact .noRoom (Nat.le_of_not_lt short) small
      case isFalse room =>
        split at refused
        case isTrue absent =>
          cases refused
          exact .noSession (Nat.le_of_not_lt short) (Nat.le_of_not_lt room) (by simpa using absent)
        case isFalse => cases refused
  · rintro (long | ⟨short, small⟩ | ⟨short, room, absent⟩)
    · rw [if_pos long]
    · rw [if_neg (Nat.not_lt_of_le short), if_pos small]
    · rw [if_neg (Nat.not_lt_of_le short), if_neg (Nat.not_lt_of_le room), absent]
      rfl

section

variable [Transport σ] [Primitives]

/-- The command was refused up front: nothing has changed, and the same happens over
any transport at all, also over one that records what is asked of it. -/
structure Refused (frames : Nat) (command : Command) (before : Device σ)
    (result : Except Error command.Response) (after : Device σ) : Prop where
  grounds : ∃ e, Refusal before command e ∧ result = .error e
  unchanged : after = before
  silent : ∀ {τ : Type} [Transport τ] (bus : Bus τ),
    attempt (execute frames command) (before.onto bus) = some (result, before.onto bus)

/-- The exchange failed: its error is returned, the chip's refusals as failures of
the session, and the session is gone. -/
structure Failed (frames : Nat) (command : Command) (before : Device σ)
    (result : Except Error command.Response) (after : Device σ) : Prop where
  accepted : ∀ e, ¬Refusal before command e
  exchange : ∃ host e between, before.session = some host ∧
    Exchange frames command before host (.error e) between ∧
    result = .error e ∧ after = between.endSession .aborted
  renamed : result ≠ .error (.protocol (.status .tagErr)) ∧
    result ≠ .error (.protocol (.status .noSession))
  session : after.session = none
  state : after.state = .aborted

/-- The frame that was collected opens under the receiving key and the nonce that
the receiving counter stood at, and the result is read from its packet. -/
inductive Answered (frames : Nat) (command : Command) (before : Device σ)
    (result : Except Error command.Response) (after : Device σ) : Prop
  | opened {host sealing : Session} {length count : Nat} {tag : Tag}
      {buffer collected cipher packet : Bytes} {sent : Bus σ}
      (accepted : ∀ e, ¬Refusal before command e)
      (held : before.session = some host)
      (sealed : host.protect (before.buffer.overlay Session.sizeLength command.packet)
        command.packet.length = .ok (length, buffer, sealing))
      (sends : perform (Link.sendEncrypted before.config (buffer.take length)) before.bus =
        (.ok (), sent))
      (collects : (Link.receiveEncrypted before.config frames buffer).run sent =
        (some (.ok count, collected), after.bus))
      (frame : collected.take count = Session.sealed cipher tag)
      (opens : Primitives.decrypt? host.suite host.receiving.key
        (Session.nonce host.receiving.counter) [] cipher tag = some packet)
      (read : result = command.decodePacket packet)
      (empty : packet = [] → result = .error (.protocol .malformedResponse))
      (session : after.session = some host.counted)
      (counted : host.counted.sending.counter.toNat = host.sending.counter.toNat + 1 ∧
        host.counted.receiving.counter.toNat = host.receiving.counter.toNat + 1)
      (state : after.state = .established)

/-- How executing a command ends. -/
inductive Outcome where
  | refused
  | failed
  | answered
deriving DecidableEq, Repr

/-- What the outcome says of a run of the command. -/
def Outcome.Holds (frames : Nat) (command : Command) (before : Device σ)
    (result : Except Error command.Response) (after : Device σ) : Outcome → Prop
  | refused => Refused frames command before result after
  | failed => Failed frames command before result after
  | answered => Answered frames command before result after

variable {frames : Nat} {host : Session} {after : Device σ}

theorem Outcome.unique {result : Except Error command.Response} {outcome other : Outcome}
    (holds : outcome.Holds frames command device result after)
    (holds' : other.Holds frames command device result after) : outcome = other := by
  cases outcome <;> cases other <;> try rfl
  case refused.failed =>
    obtain ⟨e, refusal, -⟩ := Refused.grounds holds
    exact absurd refusal (Failed.accepted holds' e)
  case failed.refused =>
    obtain ⟨e, refusal, -⟩ := Refused.grounds holds'
    exact absurd refusal (Failed.accepted holds e)
  case refused.answered =>
    obtain ⟨e, refusal, -⟩ := Refused.grounds holds
    cases holds' with
    | opened accepted => exact absurd refusal (accepted e)
  case answered.refused =>
    obtain ⟨e, refusal, -⟩ := Refused.grounds holds'
    cases holds with
    | opened accepted => exact absurd refusal (accepted e)
  case failed.answered =>
    have gone := Failed.session holds
    cases holds' with
    | opened _ _ _ _ _ _ _ _ _ session => rw [gone] at session; cases session
  case answered.failed =>
    have gone := Failed.session holds'
    cases holds with
    | opened _ _ _ _ _ _ _ _ _ session => rw [gone] at session; cases session

/-! ### Which one it is -/

omit [Transport σ] in
theorem refused_of_refusal {e : Error} (refused : refusal? device command = some e) :
    Refused frames command device (.error e) device where
  grounds := ⟨e, refusal?_eq_some_iff.mp refused, rfl⟩
  unchanged := rfl
  silent _ := attempt_execute_of_refusal refused

omit [Transport σ] [Primitives] in
theorem rejectedByChip_ne (e : Error) :
    rejectedByChip e ≠ .protocol (.status .tagErr) ∧
      rejectedByChip e ≠ .protocol (.status .noSession) := by
  unfold rejectedByChip
  split
  case h_3 tagErr noSession => exact ⟨tagErr, noSession⟩
  all_goals exact ⟨nofun, nofun⟩

/-- A failure of an exchange is not reported as the status with which the chip
refuses a session. -/
theorem Exchange.renamed {e : Error}
    (exchange : Exchange frames command device host (.error e) after) :
    e ≠ .protocol (.status .tagErr) ∧ e ≠ .protocol (.status .noSession) := by
  cases exchange with
  | unsealed => exact ⟨nofun, nofun⟩
  | unsent => exact rejectedByChip_ne _
  | uncollected => exact rejectedByChip_ne _
  | unopened => exact ⟨nofun, nofun⟩

omit [Transport σ] [Primitives] in
theorem not_refusal (accepted : refusal? device command = none) (e : Error) :
    ¬Refusal device command e := by
  intro refusal
  rw [refusal?_eq_some_iff.mpr refusal] at accepted
  cases accepted

theorem Exchange.failed {e : Error} {between : Device σ}
    (accepted : refusal? device command = none) (held : device.session = some host)
    (exchange : Exchange frames command device host (.error e) between) :
    Failed frames command device (.error e) (between.endSession .aborted) where
  accepted := not_refusal accepted
  exchange := ⟨host, e, between, held, exchange, rfl, rfl⟩
  renamed := by
    obtain ⟨tagErr, noSession⟩ := exchange.renamed
    exact ⟨fun same => tagErr (Except.error.inj same),
      fun same => noSession (Except.error.inj same)⟩
  session := rfl
  state := rfl

theorem Exchange.answered {packet : Bytes} {between : Device σ}
    (established : device.state = .established) (accepted : refusal? device command = none)
    (held : device.session = some host)
    (exchange : Exchange frames command device host (.ok packet) between) :
    Answered frames command device (command.decodePacket packet) (between.wiped packet) := by
  obtain ⟨session, more, more'⟩ := exchange.counted rfl
  have state := exchange.state.trans established
  cases exchange with
  | opened sealed sends collects opens =>
    obtain rfl := Session.counted_of_protect sealed
    obtain ⟨-, -, cipher, tag, -, frame, decrypted⟩ := Session.unprotect_eq_ok_iff.mp opens
    refine .opened (not_refusal accepted) held sealed sends collects frame decrypted rfl ?_ session
      ⟨Direction.toNat_advance more, Direction.toNat_advance more'⟩ state
    rintro rfl
    rfl

/-- A run of a command has one of the three outcomes. -/
theorem execute_outcome {result : Except Error command.Response} (intact : device.Intact)
    (ran : attempt (execute frames command) device = some (result, after)) :
    ∃ outcome : Outcome, outcome.Holds frames command device result after := by
  cases accepted : refusal? device command with
  | some e =>
    rw [attempt_execute_of_refusal accepted] at ran
    cases ran
    exact ⟨.refused, refused_of_refusal accepted⟩
  | none =>
    obtain ⟨host, between, held, ⟨e, exchange, rfl, rfl⟩ | ⟨packet, exchange, rfl, rfl⟩⟩ :=
      execute_cases accepted ran
    · exact ⟨.failed, exchange.failed accepted held⟩
    · have established : device.state = .established := intact.state.mpr (held ▸ rfl)
      exact ⟨.answered, exchange.answered established accepted held⟩

/-! ### No outcome -/

/-- The command was sealed and sent, and the chip goes on sending parts of a result
for as long as is asked. -/
def Endless (frames : Nat) (command : Command) (device : Device σ) : Prop :=
  ∃ host length buffer sealing sent, device.session = some host ∧
    host.protect (device.buffer.overlay Session.sizeLength command.packet)
      command.packet.length = .ok (length, buffer, sealing) ∧
    perform (Link.sendEncrypted device.config (buffer.take length)) device.bus = (.ok (), sent) ∧
    Link.Continues device.config frames device.buffer.length sent

theorem attempt_exchange_eq_none_iff (held : device.session = some host)
    (room : Session.sizeLength + command.packet.length ≤ device.buffer.length) :
    attempt (exchange frames command) device = none ↔ Endless frames command device := by
  have written : (device.buffer.overlay Session.sizeLength command.packet).length =
      device.buffer.length := Bytes.length_overlay room
  rw [attempt_exchange_phases held]
  constructor
  · intro none
    rcases sealed : host.protect (device.buffer.overlay Session.sizeLength command.packet)
        command.packet.length with cause | ⟨length, buffer, sealing⟩
    all_goals rw [sealed] at none
    · cases none
    dsimp only at none
    rcases sends : perform (Link.sendEncrypted device.config (buffer.take length)) device.bus with
      ⟨e | _, sent⟩
    all_goals rw [sends] at none
    · cases none
    dsimp only at none
    rcases collects : (Link.receiveEncrypted device.config frames buffer).run sent with
      ⟨_ | ⟨e | count, collected⟩, bus⟩
    all_goals rw [collects] at none
    · have continues := (Link.collect_eq_none_iff (Nat.zero_le _)).mp (congrArg Prod.fst collects)
      rw [Nat.sub_zero, Session.length_of_protect sealed, written] at continues
      exact ⟨host, length, buffer, sealing, sent, held, sealed, sends, continues⟩
    · cases none
    · dsimp only at none
      cases opens : sealing.unprotect (collected.take count) <;> rw [opens] at none <;> cases none
  · rintro ⟨host', length, buffer, sealing, sent, held', sealed, sends, continues⟩
    cases held.symm.trans held'
    rw [sealed]
    dsimp only
    rw [sends]
    dsimp only
    rw [← written, ← Session.length_of_protect sealed] at continues
    have none := (Link.collect_eq_none_iff (Nat.zero_le buffer.length)).mpr continues
    rw [Link.receiveEncrypted]
    rcases collects : (Link.collect device.config frames buffer 0).run sent with
      ⟨_ | outcome, bus⟩
    · rfl
    · rw [collects] at none
      cases none

theorem attempt_execute_eq_none_iff (accepted : refusal? device command = none) :
    attempt (execute frames command) device = none ↔ Endless frames command device := by
  obtain ⟨host, held⟩ := session_of_refusal accepted
  have room := (room_for_command accepted).2
  rw [Session.overhead] at room
  rw [attempt_execute accepted, ← attempt_exchange_eq_none_iff held (by omega)]
  rcases attempt (exchange frames command) device with _ | ⟨e | packet, between⟩
  · exact ⟨fun _ => rfl, fun _ => rfl⟩
  all_goals
    constructor
    · intro none
      cases none
    · intro none
      cases none

/-- An outcome does not depend on how many more responses would have been read. -/
theorem attempt_exchange_stable {outcome : Except Error Bytes × Device σ}
    (held : device.session = some host)
    (ran : attempt (exchange frames command) device = some outcome) (more : Nat) :
    attempt (exchange (frames + more) command) device = some outcome := by
  rw [attempt_exchange_phases held] at ran ⊢
  revert ran
  rcases host.protect (device.buffer.overlay Session.sizeLength command.packet)
      command.packet.length with cause | ⟨length, buffer, sealing⟩
  · exact id
  dsimp only
  rcases perform (Link.sendEncrypted device.config (buffer.take length)) device.bus with
    ⟨e | _, sent⟩
  · exact id
  dsimp only [Link.receiveEncrypted]
  rcases collects : (Link.collect device.config frames buffer 0).run sent with ⟨_ | collected, bus⟩
  · exact nofun
  · rw [Link.collect_stable collects more]
    exact id

theorem attempt_execute_stable {outcome : Except Error command.Response × Device σ}
    (ran : attempt (execute frames command) device = some outcome) (more : Nat) :
    attempt (execute (frames + more) command) device = some outcome := by
  cases accepted : refusal? device command with
  | some e => rwa [attempt_execute_of_refusal accepted] at ran ⊢
  | none =>
    obtain ⟨host, held⟩ := session_of_refusal accepted
    rw [attempt_execute accepted] at ran ⊢
    rcases exchanged : attempt (exchange frames command) device with _ | exchanged'
    all_goals rw [exchanged] at ran
    · cases ran
    · rw [attempt_exchange_stable held exchanged more]
      exact ran

/-! ### Commands -/

/-- After any history, executing a command ends in exactly one of the three
outcomes, however many more responses would be read; what it returns as a success
was read from an authenticated packet; and only a chip that goes on sending parts
of a result keeps it from ending. -/
theorem History.execute_once {events : List (Event σ)} (history : History events device)
    (frames : Nat) (command : Command) :
    (∀ result after, attempt (execute frames command) device = some (result, after) →
      (∃! outcome : Outcome, outcome.Holds frames command device result after) ∧
      (∀ response, result = .ok response → Answered frames command device result after) ∧
      ∀ more, attempt (execute (frames + more) command) device = some (result, after)) ∧
    (attempt (execute frames command) device = none ↔
      (∀ e, ¬Refusal device command e) ∧ Endless frames command device) := by
  constructor
  · intro result after ran
    obtain ⟨outcome, holds⟩ := execute_outcome history.intact ran
    refine ⟨⟨outcome, holds, fun other holds' => Outcome.unique holds' holds⟩, ?_,
      attempt_execute_stable ran⟩
    rintro response rfl
    cases outcome with
    | refused =>
      obtain ⟨e, -, failed⟩ := Refused.grounds holds
      cases failed
    | failed =>
      obtain ⟨-, e, -, -, -, failed, -⟩ := Failed.exchange holds
      cases failed
    | answered => exact holds
  · cases accepted : refusal? device command with
    | some e =>
      rw [attempt_execute_of_refusal accepted]
      exact ⟨nofun, fun ⟨no, _⟩ => absurd (refusal?_eq_some_iff.mp accepted) (no e)⟩
    | none =>
      rw [attempt_execute_eq_none_iff accepted]
      exact ⟨fun endless => ⟨not_refusal accepted, endless⟩, And.right⟩

end

/-! ### A new chip -/

theorem counting_started {device : Device Chip}
    (started : perform (verifyAndStart defaultPairing) counting = (.ok (), device)) :
    History [⟨counting, .verifyAndStart defaultPairing, 0, .ok (), device⟩] device :=
  (History.start (init_eq_ok_iff.mpr ⟨by decide, rfl⟩)).step (congrArg some started)

/-- A device on a new chip begins a session and has the data of a ping returned. -/
theorem counting_pings : ∃ keys device after,
    perform (verifyAndStart defaultPairing) counting = (.ok (), device) ∧
      attempt (execute 17 (.ping [7])) device = some (.ok [7], after) ∧
      after.session = some (Session.forHost .aes256Gcm keys).counted := by
  obtain ⟨keys, device, started, begun⟩ := counting_begins
  have reached : Reached (fun _ _ => True) device := reached_of_started trivial started
  have accepted := counting_accepts begun
  have fresh : (0 : UInt32) ≠ 0xFFFFFFFF := by decide
  obtain ⟨after, exchanged, counted⟩ := attempt_exchange Standard.exact.toTotal reached.sound
    begun.session begun.chip (.start _ _) fresh fresh begun.faultless
    (by rw [begun.config]; decide) accepted (show 17 ≤ 17 from Nat.le_refl 17)
  have executed : attempt (execute 17 (.ping [7])) device = _ := attempt_execute accepted
  rw [exchanged] at executed
  exact ⟨keys, device, _, started, executed, counted.host⟩

/-- That ping is answered. -/
theorem counting_answered :
    ∃ (events : List (Event Chip)) (device after : Device Chip), History events device ∧
    attempt (execute 17 (.ping [7])) device = some (.ok [7], after) ∧
    Answered 17 (.ping [7]) device (.ok [7]) after := by
  obtain ⟨keys, device, after, started, ran, -⟩ := counting_pings
  have history := counting_started started
  obtain ⟨outcomes, -⟩ := history.execute_once 17 (.ping [7])
  obtain ⟨-, answered, -⟩ := outcomes _ _ ran
  exact ⟨_, device, after, history, ran, answered _ rfl⟩

end Device

end SecureElement
