import SecureElement.Primitives.Standard
import SecureElement.Proofs.Attempts
import SecureElement.Proofs.Contracts
import SecureElement.Proofs.Responses

/-!
Whose answers the host accepts.

On a wire that corrupts nothing, whatever polls find the chip busy and whatever transfers
fail, reading takes the response at the front of the queue in full, or nothing, and then
it is still there (`Link.receive_takes`). So what an exchange accepts is the first
response to its own request (`Link.turn_obtains`), also for the pieces of an encrypted
command (`Link.sendChunks_obtains`). Over a window that was left open nothing is
accepted at all.
-/

namespace SecureElement

namespace Bus

variable {bus : Bus Chip}

/-- An action keeps what it keeps, whatever else is known of its outcome. -/
theorem Leads.keeping {α : Type} {act : BusM Chip α} {Q : Except Error α → Bus Chip → Prop}
    {P : Bus Chip → Prop} (leads : Leads act bus Q) (kept : P (perform act bus).2) :
    Leads act bus fun result after => Q result after ∧ P after :=
  ⟨leads.1, leads.2, kept⟩

/-- The bus is between two windows and the wire corrupts nothing. -/
structure Genuine (bus : Bus Chip) : Prop extends bus.Ready where
  genuine : bus.transport.faults.corruptResponse = none

/-- What the stack does does not corrupt responses. -/
theorem Genuine.kept [Primitives] {α : Type} {act : BusM Chip α} (genuine : bus.Genuine)
    (between : Between (fun _ left right => left = right ∧ left.faults.corruptResponse = none)
      Frame.maxLength act act) :
    (perform act bus).2.transport.faults.corruptResponse = none :=
  (between.perform ⟨rfl, genuine.length, rfl, genuine.genuine⟩).same.2.transport.2

/-- Outcome of reading from a wire that corrupts nothing: the response at the front of
the queue, which has left it, or nothing, and it is still there. -/
def Fetched (chip : Chip) (status : Status) (data : Bytes) :
    Except Error Nat → Bus Chip → Prop
  | .ok count, after => Frame.parseResponse (after.frame.take count) = .ok ⟨status, data⟩ ∧
      after.transport.settled = { chip with responses := chip.responses.tail }
  | .error _, after => after.transport.settled = chip

variable [Primitives] {c : Config} {status : Status} {data : Bytes} {settled : Chip}

theorem leads_pollUpTo_genuine (short : data.length ≤ Frame.maxData)
    (front : settled.front = Frame.encode status.byte data) (tries : Nat)
    (genuine : bus.Genuine) (same : bus.transport.settled = settled) :
    Leads (pollUpTo c tries) bus (Fetched settled status data) := by
  induction tries generalizing bus with
  | zero => exact .of_eq (perform_throw _ bus) (.refl genuine.toReady) same
  | succ tries ih =>
    have polled := leads_poll (c := c) short (same ▸ front) genuine.toReady
    rw [same] at polled
    have kept := genuine.kept (coupled_poll Chip.maintains_genuine.coupled c (Nat.le_refl _))
    unfold pollUpTo
    refine (polled.keeping (P := fun after => after.transport.faults.corruptResponse = none)
      kept).bind ?_ ?_
    · intro e after outcome
      exact outcome.1.2
    · rintro (_ | count) after follows ⟨outcome, still⟩
      · have waited := follows_delay c.readRetryDelay follows.ready
        have genuine' : Genuine ⟨after.transport.onWire
          (after.transport.wire.waited c.readRetryDelay), after.frame⟩ := ⟨waited.ready, still⟩
        have again := ih genuine' outcome.2
        unfold Leads
        dsimp only
        rw [perform_bind_ok (perform_delay c.readRetryDelay after)]
        exact ⟨waited.trans again.1, again.2⟩
      · obtain ⟨queue, kept, shown⟩ := outcome
        obtain ⟨parsed, rfl⟩ := shown.resolve_right fun corrupted => corrupted.1 genuine.genuine
        exact .of_eq (perform_pure _ _) (.refl follows.ready) ⟨parsed, kept⟩

theorem leads_read_genuine (short : data.length ≤ Frame.maxData)
    (front : settled.front = Frame.encode status.byte data) (genuine : bus.Genuine)
    (same : bus.transport.settled = settled) :
    Leads (read c) bus (Fetched settled status data) := by
  have polled := leads_pollUpTo_genuine (c := c) short front c.readMaxTries.toNat genuine same
  unfold read
  unfold Leads at polled ⊢
  rw [perform_bind_ok (perform_checkBounds genuine.length (by decide))]
  exact polled

end Bus

namespace Link

open Bus

variable [Primitives] {c : Config} {bus : Bus Chip}

/-- Outcome of reading a response from a wire that corrupts nothing: the response at
the front of the queue in full, which has left it, or nothing, and it is still there. -/
def Takes (chip : Chip) : Except Error Frame.Reply → Chip → Prop
  | .ok reply, after => reply.data.length ≤ Frame.maxData ∧
      chip.front = Chip.frameResponse reply.status reply.data ∧
      after = { chip with responses := chip.responses.tail }
  | .error _, after => after = chip

theorem leads_receive_genuine (sound : bus.Sound) (genuine : bus.Genuine) :
    Leads (receive c) bus fun result after =>
      Takes bus.transport.settled result after.transport.settled := by
  obtain ⟨status, data, short, front⟩ := sound.settled.framed.front
  have read : Leads (withRetries c (Bus.read c) c.transportRetries.toNat) bus
      (Fetched bus.transport.settled status data) := by
    refine leads_withRetries_of (P := fun other => other.transport.settled = bus.transport.settled ∧
        other.transport.faults.corruptResponse = none)
      (Q := fun _ => Fetched bus.transport.settled status data) ?_ ?_ ?_ ?_ _ genuine.toReady
      ⟨rfl, genuine.genuine⟩
    · intro other ready held
      exact leads_read_genuine short front ⟨ready, held.2⟩ held.1
    · intro other cause ready held failed
      have outcome := (leads_read_genuine (c := c) short front ⟨ready, held.2⟩ held.1).2
      rw [failed] at outcome
      exact ⟨outcome, Genuine.kept ⟨ready, held.2⟩ (coupled_read Chip.maintains_genuine.coupled c)⟩
    · exact fun _ _ held => held
    · exact fun _ _ _ _ _ outcome => outcome
  unfold receive
  refine read.bind ?_ ?_
  · exact fun e after same => same
  · rintro count after follows ⟨parsed, same⟩
    have whole : bus.transport.settled.front = Chip.frameResponse status data := by
      rw [Chip.frameResponse_eq short, front]
    unfold Leads
    rw [perform_bind_ok (perform_get after), parsed]
    exact ⟨.refl follows.ready, short, whole, same⟩

/-- Outcome of an exchange for a chip: what is accepted is the first response to the
request, and the others wait in the queue. If the exchange fails, the request did not
arrive, or its responses wait, or the first of them had another status. -/
inductive Obtains (chip : Chip) (request : Frame.Request) (expected : Status) :
    Except Error Bytes → Chip → Prop
  | accepted {answer : Bytes} {rest : List Bytes} {after : Chip}
      (first : (chip.processRequest (Frame.encode request.id request.data)).responses =
        Chip.frameResponse expected answer :: rest)
      (behind : after =
        { chip.processRequest (Frame.encode request.id request.data) with responses := rest }) :
      Obtains chip request expected (.ok answer) after
  | unsent (e : Error) : Obtains chip request expected (.error e) chip
  | unread (e : Error) : Obtains chip request expected (.error e)
      (chip.processRequest (Frame.encode request.id request.data))
  | refused {status : Status} {data : Bytes} {rest : List Bytes} {after : Chip}
      (other : status ≠ expected)
      (first : (chip.processRequest (Frame.encode request.id request.data)).responses =
        Chip.frameResponse status data :: rest)
      (behind : after =
        { chip.processRequest (Frame.encode request.id request.data) with responses := rest }) :
      Obtains chip request expected (.error (.protocol (.status status))) after

theorem leads_turn_genuine (id : UInt8) (data : Bytes) (expected : Status) (sound : bus.Sound)
    (genuine : bus.Genuine) :
    Leads (turn c id data expected) bus fun result after =>
      Obtains bus.transport.settled ⟨id, data⟩ expected result after.transport.settled := by
  by_cases long : Frame.maxData < data.length
  · exact .of_eq (perform_bind_error (perform_send_of_long id long)) (.refl genuine.toReady)
      (.unsent _)
  have short := Nat.le_of_not_lt long
  have kept := genuine.kept (coupled_send Chip.maintains_genuine.coupled c id data)
  have arrives : bus.transport.settled.processRequest (Frame.encode id data) =
      bus.transport.settled.served ⟨id, data⟩ :=
    List.append_nil (Frame.encode id data) ▸ Chip.processRequest_encode _ short []
  refine ((leads_send id short genuine.toReady).keeping
    (P := fun after => after.transport.faults.corruptResponse = none) kept).bind ?_ ?_
  · rintro e after ⟨⟨ok, -⟩ | ⟨-, -, same⟩, -⟩
    · cases ok
    · exact same ▸ .unsent e
  rintro _ between sent ⟨⟨-, same⟩ | ⟨⟨cause, failed⟩, -⟩, still⟩
  · obtain ⟨status, first, rest, -, queued⟩ :=
      Chip.exists_first_response sound.settled ⟨id, data⟩
    have sound' : between.Sound := .of_settled sent.ready (sound.settled.served ⟨id, data⟩) same
    rw [← arrives] at queued same
    refine (leads_receive_genuine sound' ⟨sent.ready, still⟩).bind ?_ ?_
    · exact fun e after unread => (unread.trans same) ▸ .unread e
    · rintro reply after received ⟨-, front, taken⟩
      rw [same, Chip.front, queued, List.headD_cons] at front
      rw [same, queued, List.tail_cons] at taken
      rw [front] at queued
      unfold expectStatus
      split
      · rename_i expects
        exact .of_eq rfl (.refl received.ready) (.accepted (expects ▸ queued) taken)
      · rename_i unexpected
        exact .of_eq rfl (.refl received.ready) (.refused unexpected queued taken)
  · cases failed

/-- How an encrypted command goes, piece by piece: each piece is answered to, and the
pieces behind one whose exchange fails are not sent. -/
inductive Rounds : List Bytes → Except Error Unit → Chip → Chip → Prop
  | done (chip : Chip) : Rounds [] (.ok ()) chip chip
  | accepted {piece answer : Bytes} {rest : List Bytes} {result : Except Error Unit}
      {chip between after : Chip}
      (obtains : Obtains chip ⟨RequestId.encryptedCommand, piece⟩
        (if rest = [] then .requestOk else .requestCont) (.ok answer) between)
      (later : Rounds rest result between after) : Rounds (piece :: rest) result chip after
  | failed {piece : Bytes} {rest : List Bytes} {e : Error} {chip after : Chip}
      (obtains : Obtains chip ⟨RequestId.encryptedCommand, piece⟩
        (if rest = [] then .requestOk else .requestCont) (.error e) after) :
      Rounds (piece :: rest) (.error e) chip after

theorem sendChunks_rounds {pieces : List Bytes}
    (short : ∀ piece ∈ pieces, piece.length ≤ Frame.maxData) (sound : bus.Sound)
    (genuine : bus.Genuine) :
    Rounds pieces (perform (sendChunks c pieces) bus).1 bus.transport.settled
      (perform (sendChunks c pieces) bus).2.transport.settled := by
  induction pieces generalizing bus with
  | nil => exact .done _
  | cons piece rest ih =>
    have small := short piece (List.mem_cons_self ..)
    generalize expected : (if rest = [] then Status.requestOk else .requestCont) = status
    have turned := leads_turn_genuine (c := c) RequestId.encryptedCommand piece status sound genuine
    have sound' := turn_sound (c := c) RequestId.encryptedCommand sound small status
    have kept := genuine.kept
      (coupled_turn Chip.maintains_genuine.coupled c RequestId.encryptedCommand piece status)
    rw [sendChunks_cons, expected, perform_bind]
    unfold Leads at turned
    rcases performed : perform (turn c RequestId.encryptedCommand piece status) bus with
      ⟨e | answer, after⟩
    all_goals rw [performed] at turned sound' kept
    · exact .failed (expected ▸ turned.2)
    · exact .accepted (expected ▸ turned.2)
        (ih (fun other member => short other (List.mem_cons_of_mem piece member)) sound'
          ⟨turned.1.ready, kept⟩)

end Link

/-! ### A window that was left open -/

namespace Bus

variable {chip : Chip}

/-- The window of the chip was left open, so that no other can be opened. -/
structure Stuck (chip : Chip) (bus : Bus Chip) : Prop where
  framed : bus.Framed
  selected : bus.transport.window.selected = true
  same : bus.transport.settled = chip

/-- The action fails while a window is open, and does nothing to the chip. -/
abbrev Fails {α : Type} (chip : Chip) (act : BusM Chip α) : Prop :=
  Contract (Stuck chip) (fun _ => False) (fun _ => True) act

/-- The action does nothing to the chip. -/
abbrev Waits {α : Type} (chip : Chip) (act : BusM Chip α) : Prop :=
  Contract (Stuck chip) (fun _ => True) (fun _ => True) act

theorem waits_modifyFrame {change : Bytes → Bytes}
    (kept : ∀ frame : Bytes, frame.length = Frame.maxLength →
      (change frame).length = Frame.maxLength) : Waits chip (modifyFrame change) :=
  .modify fun bus stuck => ⟨kept bus.frame stuck.framed, stuck.selected, stuck.same⟩

theorem waits_checkBounds (offset length : Nat) : Waits chip (checkBounds offset length) := by
  refine .bind .get fun bus _ => ?_
  cases Transport.checkBounds bus.frame offset length with
  | ok _ => exact .pure trivial
  | error cause => exact .throw trivial

/-- What fails over an open window fails with the chip as it was. -/
theorem Stuck.failed {α : Type} {act : BusM Chip α} {bus : Bus Chip} (stuck : bus.Stuck chip)
    (fails : Fails chip act) : ∃ e, (perform act bus).1 = .error e ∧
      (perform act bus).2.transport.settled = chip := by
  obtain ⟨kept, never, -⟩ := fails bus stuck
  cases result : (perform act bus).1 with
  | ok a => exact (never a result).elim
  | error e => exact ⟨e, rfl, kept.same⟩

variable [Primitives] {c : Config}

theorem waits_delay (duration : UInt32) : Waits chip (delay duration) :=
  fun _ stuck => ⟨⟨stuck.framed, stuck.selected, stuck.same⟩, fun _ _ => trivial, nofun⟩

theorem fails_select : Fails chip (lift Transport.select : BusM Chip Unit) := by
  intro bus stuck
  rw [perform_lift, bus.transport.perform_select_of_open stuck.selected]
  exact ⟨stuck, nofun, fun _ _ => trivial⟩

theorem fails_write (length : Nat) : Fails chip (write c length) :=
  .ite (fun _ => .throw_bind trivial) fun _ => .bind (waits_checkBounds 0 length) fun _ _ =>
    .bind fails_select fun _ => False.elim

theorem fails_poll : Fails chip (poll c) := by
  refine .bind (waits_modifyFrame fun frame framed => ?_) fun _ _ =>
    .bind fails_select fun _ => False.elim
  rw [Bytes.length_overlay (by rw [framed]; decide), framed]

theorem fails_pollUpTo (tries : Nat) : Fails chip (pollUpTo c tries) := by
  cases tries with
  | zero => exact .throw trivial
  | succ tries => exact .bind fails_poll fun _ => False.elim

theorem fails_read : Fails chip (read c) :=
  .bind (waits_checkBounds 0 _) fun _ _ => fails_pollUpTo _

end Bus

namespace Link

open Bus

variable [Primitives] {c : Config} {bus : Bus Chip} {chip : Chip}

theorem fails_withRetries {α : Type} {attempt : BusM Chip α} (once : Fails chip attempt)
    (retries : Nat) : Fails chip (withRetries c attempt retries) := by
  induction retries with
  | zero => exact once
  | succ retries ih =>
    exact .tryCatch once fun e _ => .ite (fun _ => .bind (waits_delay _) fun _ _ => ih)
      fun _ => .throw trivial

theorem fails_sendOnce (id : UInt8) (data : Bytes) : Fails chip (sendOnce c id data) := by
  refine .bind .get fun bus stuck => ?_
  cases built : Frame.buildRequest bus.frame id data with
  | error cause => exact .throw trivial
  | ok outcome =>
    refine .bind (waits_modifyFrame fun _ _ => ?_) fun _ _ => fails_write outcome.1
    exact (Frame.length_of_build built).trans stuck.framed

theorem fails_receive : Fails chip (receive c) :=
  .bind (fails_withRetries fails_read _) fun _ => False.elim

theorem fails_turn (id : UInt8) (data : Bytes) (expected : Status) :
    Fails chip (turn c id data expected) :=
  .bind (fails_withRetries (fails_sendOnce id data) _) fun _ => False.elim

/-! ### Answers and their requests -/

section

variable (framed : bus.Framed) (sound : bus.transport.Sound)
  (genuine : bus.transport.faults.corruptResponse = none)
include framed sound genuine

/-- What an exchange accepts is the first response to its request. -/
theorem turn_obtains (id : UInt8) (data : Bytes) (expected : Status) :
    Obtains bus.transport.settled ⟨id, data⟩ expected (perform (turn c id data expected) bus).1
      (perform (turn c id data expected) bus).2.transport.settled := by
  cases selected : bus.transport.window.selected with
  | false =>
    exact (leads_turn_genuine id data expected ⟨⟨framed, selected⟩, sound⟩
      ⟨⟨framed, selected⟩, genuine⟩).2
  | true =>
    have stuck : bus.Stuck bus.transport.settled := ⟨framed, selected, rfl⟩
    obtain ⟨e, failed, same⟩ := stuck.failed (fails_turn (c := c) id data expected)
    rw [failed, same]
    exact .unsent e

/-- Each piece of an encrypted command that is accepted is so by its own answer. -/
theorem sendChunks_obtains {pieces : List Bytes}
    (short : ∀ piece ∈ pieces, piece.length ≤ Frame.maxData) :
    Rounds pieces (perform (sendChunks c pieces) bus).1 bus.transport.settled
      (perform (sendChunks c pieces) bus).2.transport.settled := by
  cases selected : bus.transport.window.selected with
  | false =>
    exact sendChunks_rounds short ⟨⟨framed, selected⟩, sound⟩ ⟨⟨framed, selected⟩, genuine⟩
  | true =>
    have stuck : bus.Stuck bus.transport.settled := ⟨framed, selected, rfl⟩
    cases pieces with
    | nil => exact .done _
    | cons piece rest =>
      rw [sendChunks_cons]
      obtain ⟨e, failed, same⟩ := stuck.failed (.bind
        (fails_turn (c := c) RequestId.encryptedCommand piece
          (if rest = [] then .requestOk else .requestCont)) fun _ => False.elim)
      rw [failed, same]
      exact .failed (.unsent e)

/-- Reading a response takes the one at the front in full, or nothing. -/
theorem receive_takes : Takes bus.transport.settled (perform (receive c) bus).1
    (perform (receive c) bus).2.transport.settled := by
  cases selected : bus.transport.window.selected with
  | false =>
    exact (leads_receive_genuine ⟨⟨framed, selected⟩, sound⟩ ⟨⟨framed, selected⟩, genuine⟩).2
  | true =>
    have stuck : bus.Stuck bus.transport.settled := ⟨framed, selected, rfl⟩
    obtain ⟨e, failed, same⟩ := stuck.failed (fails_receive (c := c))
    rw [failed, same]
    rfl

end

/-- An answer belongs to its request, whatever reached the chip before, whatever was
left unread or arrived in part, whatever polls find the chip busy and whatever transfers
fail. What an exchange accepts, also for a piece of an encrypted command, is the first
response to that request, and what was left unread before has no part in it; what
reading a response accepts is the response at the front in full; and reading that fails,
or a poll that is broken off, leaves it there. -/
theorem answers_belong (suite : CipherSuite) (random : RandomSource) (inputs : List Chip.Input)
    {bus : Bus Chip} (reached : bus.transport = (Chip.create suite random).after inputs)
    (framed : bus.Framed) (genuine : bus.transport.faults.corruptResponse = none) (c : Config) :
    (∀ id data, Obtains bus.transport.settled ⟨id, data⟩ .requestOk
      (perform (transceive c id data) bus).1
      (perform (transceive c id data) bus).2.transport.settled) ∧
    (∀ packet, Rounds (Frame.chunks packet) (perform (sendEncrypted c packet) bus).1
      bus.transport.settled (perform (sendEncrypted c packet) bus).2.transport.settled) ∧
    (∀ unread received, Chip.processRequest { bus.transport with responses := unread } received =
      bus.transport.processRequest received) ∧
    Takes bus.transport.settled (perform (receive c) bus).1
      (perform (receive c) bus).2.transport.settled ∧
    ∀ regions, bus.transport.window.selected = false → Chip.Polls regions →
      regions.flatten.length ≤ bus.transport.front.length →
      (bus.transport.exchanged regions).settled = bus.transport.settled := by
  have sound : bus.transport.Sound := reached ▸ Chip.sound_after suite random inputs
  refine ⟨fun id data => ?_, fun packet => ?_, fun _ _ => rfl, ?_, fun regions closed => ?_⟩
  · exact turn_obtains framed sound genuine id data .requestOk
  · exact sendChunks_obtains framed sound genuine
      fun _ member => (Frame.bounds_of_mem_chunks member).2
  · exact receive_takes framed sound genuine
  · exact Chip.settled_exchanged_of_short _ closed

end Link

namespace Link

/-- What leaves a response that was read in part, on a wire where a transfer will fail and
polls will find the chip busy. -/
def littering : List Chip.Input :=
  [.select, .transfer (Frame.encode RequestId.getInfo [0x01, 0x00]), .deselect,
    .select, .transfer [Bus.responseRequest], .transfer [0, 0], .deselect,
    .turn (.busyPolls 2), .turn (.failTransfers 1)]

/-- A new chip on which that was left. -/
def littered : Chip :=
  (Chip.create .aes256Gcm ⟨fun i => UInt8.ofNat i, 0, none⟩).after littering

/-- Light sleep is accepted over the response that was left, and the answer is its own. -/
theorem littered_answers_belong : littered.responses.length = 1 ∧
    (perform (transceive {} RequestId.sleep [SleepKind.sleep.byte]) (start littered)).1 = .ok [] ∧
    ∃ rest, (littered.settled.processRequest
      (Frame.encode RequestId.sleep [SleepKind.sleep.byte])).responses =
        Chip.frameResponse .requestOk [] :: rest := by
  have framed : (start littered).Framed := List.length_replicate
  have genuine : (start littered).transport.faults.corruptResponse = none := by decide +kernel
  have ran : (perform (transceive {} RequestId.sleep [SleepKind.sleep.byte])
      (start littered)).1.toOption = some [] := by
    decide +kernel
  have reached : (start littered).transport =
      (Chip.create .aes256Gcm ⟨fun i => UInt8.ofNat i, 0, none⟩).after littering := rfl
  have obtains := (answers_belong _ _ _ reached framed genuine {}).1 RequestId.sleep
    [SleepKind.sleep.byte]
  generalize perform (transceive {} RequestId.sleep [SleepKind.sleep.byte]) (start littered) = ended
    at ran obtains ⊢
  obtain ⟨_ | answer, after⟩ := ended
  · cases ran
  · cases ran
    cases obtains with
    | accepted first => exact ⟨by decide +kernel, rfl, _, first⟩

end Link

end SecureElement
