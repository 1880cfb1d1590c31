import SecureElement.Chip
import SecureElement.Proofs.Actions
import SecureElement.Proofs.Frames

/-!
What goes over the wire.

`Chip.Wire` is what belongs to the wire alone: the current window, the faults
that wait to happen on the wire, and the counts of transfers and waits. Serving a
request neither looks at it nor changes it (`serve_onWire`). What a window does
to the chip is therefore said of chips apart from the wire (`Chip.settled`): a
window in which a transfer fails does nothing, any other request is served, and a
poll that is read to the end takes a response from the queue.
-/

namespace SecureElement

namespace Chip

/-! ### Chips apart from the wire -/

/-- The state of the wire. -/
structure Wire where
  window : Window
  failTransfers : Nat
  busyPolls : Nat
  corruptResponse : Option Nat
  transfers : Nat
  delayed : Nat

/-- The wire between two windows and without faults. -/
def Wire.quiet : Wire := ⟨.closed, 0, 0, none, 0, 0⟩

def wire (chip : Chip) : Wire where
  window := chip.window
  failTransfers := chip.faults.failTransfers
  busyPolls := chip.faults.busyPolls
  corruptResponse := chip.faults.corruptResponse
  transfers := chip.transfers
  delayed := chip.delayed

/-- The chip with another state of the wire. -/
def onWire (chip : Chip) (wire : Wire) : Chip :=
  { chip with
    window := wire.window
    faults := { chip.faults with
      failTransfers := wire.failTransfers
      busyPolls := wire.busyPolls
      corruptResponse := wire.corruptResponse }
    transfers := wire.transfers
    delayed := wire.delayed }

/-- The chip apart from the wire. -/
def settled (chip : Chip) : Chip := chip.onWire .quiet

theorem wire_onWire (chip : Chip) (wire : Wire) : (chip.onWire wire).wire = wire := rfl

/-- No fault waits to happen on the wire. -/
structure Wire.Clear (wire : Wire) : Prop where
  transfers : wire.failTransfers = 0
  polls : wire.busyPolls = 0
  response : wire.corruptResponse = none

theorem Wire.not_clear_of_faulty {wire : Wire} (faulty : 0 < wire.failTransfers) :
    ¬wire.Clear := by
  intro clear
  rw [clear.transfers] at faulty
  exact Nat.lt_irrefl 0 faulty

theorem Wire.not_clear_of_busy {wire : Wire} (busy : 0 < wire.busyPolls) : ¬wire.Clear := by
  intro clear
  rw [clear.polls] at busy
  exact Nat.lt_irrefl 0 busy

/-- A chip has no faults if its wire has none and it has none apart from the
wire. -/
theorem faults_eq_none_iff {chip : Chip} :
    chip.faults = Faults.none ↔ chip.wire.Clear ∧ chip.settled.faults = Faults.none := by
  constructor
  · intro faultless
    refine ⟨⟨?_, ?_, ?_⟩, ?_⟩ <;> simp [Chip.wire, Chip.settled, Chip.onWire, Chip.Wire.quiet,
      faultless, Faults.none]
  · rintro ⟨⟨transfers, polls, response⟩, settled⟩
    simp only [Chip.settled, Chip.onWire, Chip.Wire.quiet, Chip.wire, Faults.none,
      Faults.mk.injEq, true_and] at transfers polls response settled
    cases faults : chip.faults
    simp_all [Faults.none]

/-! ### Exchanging bytes -/

namespace Wire

variable (w : Wire)

/-- A window is opened. -/
def opened : Wire := { w with window := .opened }

/-- A transfer fails. -/
def failed : Wire :=
  { w with
    window.failed := true
    failTransfers := w.failTransfers - 1
    transfers := w.transfers + 1 }

/-- A transfer succeeds, in which `region` comes in. -/
def collected (region : Bytes) : Wire :=
  { w with
    window.received := w.window.received ++ region
    transfers := w.transfers + 1 }

/-- The first transfer of a poll that finds the chip busy. -/
def busy : Wire :=
  { w with
    window := ⟨true, [Bus.responseRequest], [0], some false, false⟩
    busyPolls := w.busyPolls - 1
    transfers := w.transfers + 1 }

/-- The first transfer of a poll that has `outgoing` clocked out. -/
def polled (outgoing : Bytes) : Wire :=
  { w with
    window := ⟨true, [Bus.responseRequest], outgoing, some true, false⟩
    corruptResponse := none
    transfers := w.transfers + 1 }

/-- Time passes. -/
def waited (duration : UInt32) : Wire := { w with delayed := w.delayed + duration.toNat }

/-- The window is closed. -/
def closed : Wire := { w with window := ⟨false, [], w.window.outgoing, none, false⟩ }

end Wire

/-- The response that a poll clocks out. -/
def front (chip : Chip) : Bytes := chip.responses.headD (frameResponse .noResp [])

/-- What a poll clocks out with it, if the chip is not busy. -/
def outgoing (chip : Chip) (corruptResponse : Option Nat) : Bytes :=
  match corruptResponse with
  | some i => Bytes.alter (Bus.readyBit :: chip.front) ((i + 1) % UInt64.size) (· ^^^ 0x01)
  | none => Bus.readyBit :: chip.front

variable {chip : Chip} {w : Wire} {region : Bytes}

/-- A transfer that fails spoils its window. -/
theorem clock_of_faulty (chip : Chip) (region : Bytes) (selected : w.window.selected = true)
    (faulty : 0 < w.failTransfers) :
    (chip.onWire w).clock region = ((.error .timeout, region), chip.onWire w.failed) := by
  refine (if_neg (by simp [onWire, selected])).trans ?_
  exact if_pos faulty

/-- The rest of a transfer, once the window is prepared for it: what is left to be
sent goes out and what comes in is collected. -/
def shift (region : Bytes) (chip : Chip) : (Except TransportError Unit × Bytes) × Chip :=
  ((.ok (), (Octets.fit region.length
      (chip.window.outgoing.drop chip.window.received.length)).val),
    { chip with window.received := chip.window.received ++ region })

theorem clock_collect (chip : Chip) (region : Bytes) (selected : w.window.selected = true)
    (sound : w.failTransfers = 0)
    (collecting : ¬(w.window.received = [] ∧ region = [Bus.responseRequest])) :
    (chip.onWire w).clock region =
      ((.ok (), (Octets.fit region.length
        (w.window.outgoing.drop w.window.received.length)).val),
        chip.onWire (w.collected region)) := by
  refine (if_neg (by simp [onWire, selected])).trans ((if_neg (by simp [onWire, sound])).trans ?_)
  exact congrArg (shift region) (if_neg collecting)

theorem clock_poll_busy (sound : w.failTransfers = 0) (busy : 0 < w.busyPolls) :
    (chip.onWire w.opened).clock [Bus.responseRequest] = ((.ok (), [0]), chip.onWire w.busy) := by
  refine (if_neg (by simp [onWire, Wire.opened, Window.opened])).trans
    ((if_neg (by simp [onWire, Wire.opened, sound])).trans ?_)
  exact congrArg (shift _) ((if_pos ⟨rfl, rfl⟩).trans (if_pos busy))

theorem clock_poll_ready (chip : Chip) (sound : w.failTransfers = 0) (idle : w.busyPolls = 0) :
    (chip.onWire w.opened).clock [Bus.responseRequest] =
      ((.ok (), (Octets.fit 1 (chip.outgoing w.corruptResponse)).val),
        chip.onWire (w.polled (chip.outgoing w.corruptResponse))) := by
  refine (if_neg (by simp [onWire, Wire.opened, Window.opened])).trans
    ((if_neg (by simp [onWire, Wire.opened, sound])).trans ?_)
  exact congrArg (shift _)
    ((if_pos ⟨rfl, rfl⟩).trans (if_neg (by simp [onWire, Wire.opened, idle])))

/-! ### Serving a request -/

theorem respond_onWire (chip : Chip) (w : Wire) (status : Status) (data : Bytes) :
    (chip.onWire w).respond status data = (chip.respond status data).onWire w := rfl

theorem respondChunks_onWire (chip : Chip) (w : Wire) (chunks : List Bytes) :
    (chip.onWire w).respondChunks chunks = (chip.respondChunks chunks).onWire w := by
  induction chunks generalizing chip with
  | nil => rfl
  | cons chunk rest ih =>
    simp only [respondChunks]
    rw [respond_onWire, ih]

theorem getInfo_onWire (chip : Chip) (w : Wire) (data : Bytes) :
    (chip.onWire w).getInfo data = (chip.getInfo data).onWire w := by
  unfold getInfo
  rw [show (chip.onWire w).infoObject? = chip.infoObject? from rfl]
  split
  · split
    · rfl
    · dsimp only
      split <;> rfl
  · rfl

theorem sleep_onWire (chip : Chip) (w : Wire) (data : Bytes) :
    (chip.onWire w).sleep data = (chip.sleep data).onWire w := by
  unfold sleep
  split
  · rfl
  · split <;> rfl

theorem startup_onWire (chip : Chip) (w : Wire) (data : Bytes) :
    (chip.onWire w).startup data = (chip.startup data).onWire w := by
  unfold startup
  split <;> rfl

variable [Primitives]

theorem handshake_onWire (chip : Chip) (w : Wire) (data : Bytes) :
    (chip.onWire w).handshake data = (chip.handshake data).onWire w := by
  simp only [handshake, onWire, dropSession]
  split <;> rfl

theorem sendResult_onWire (chip : Chip) (w : Wire) (packet : Bytes) :
    (chip.onWire w).sendResult packet = (chip.sendResult packet).onWire w := by
  unfold sendResult
  rw [show (chip.onWire w).session = chip.session from rfl]
  split
  · rfl
  · dsimp only
    split
    · rfl
    · rw [← respondChunks_onWire]
      rfl

theorem openCommand_onWire (chip : Chip) (w : Wire) (session : Session) (frame : Bytes) :
    (chip.onWire w).openCommand session frame = (chip.openCommand session frame).onWire w := by
  unfold openCommand
  split
  · unfold execute
    rw [← sendResult_onWire]
    rfl
  · rfl

theorem encryptedCommand_onWire (chip : Chip) (w : Wire) (chunk : Bytes) :
    (chip.onWire w).encryptedCommand chunk = (chip.encryptedCommand chunk).onWire w := by
  unfold encryptedCommand
  rw [show (chip.onWire w).session = chip.session from rfl,
    show (chip.onWire w).pending = chip.pending from rfl]
  split
  · rfl
  · dsimp only
    split
    · rfl
    · split
      · rfl
      · exact openCommand_onWire { chip with pending := [] } w _ _

/-- Serving a request has nothing to do with the wire. -/
theorem serve_onWire (chip : Chip) (w : Wire) (request : Frame.Request) :
    (chip.onWire w).serve request = (chip.serve request).onWire w := by
  unfold serve
  split
  · exact getInfo_onWire chip w _
  · exact handshake_onWire chip w _
  · exact encryptedCommand_onWire chip w _
  · rfl
  · exact sleep_onWire chip w _
  · exact startup_onWire chip w _
  · rfl

/-- The chip after a request, with whatever was not read discarded. -/
def served (chip : Chip) (request : Frame.Request) : Chip :=
  { chip with responses := [] }.serve request

/-- A request that arrives is served. -/
theorem processRequest_encode (chip : Chip) {id : UInt8} {data : Bytes}
    (short : data.length ≤ Frame.maxData) (rest : Bytes) :
    chip.processRequest (Frame.encode id data ++ rest) = chip.served ⟨id, data⟩ := by
  unfold processRequest
  rw [Frame.parseRequest_encode short]
  rfl

theorem settled_served (chip : Chip) (request : Frame.Request) :
    (chip.served request).settled = chip.settled.served request :=
  (serve_onWire { chip with responses := [] } .quiet request).symm

theorem wire_served (chip : Chip) (request : Frame.Request) :
    (chip.served request).wire = chip.wire := by
  have whole := serve_onWire { chip with responses := [] } chip.wire request
  exact (congrArg wire whole).trans (wire_onWire _ _)

/-! ### Opening and closing a window -/

theorem perform_select (closed : chip.window.selected = false) :
    perform (Transport.select : ExceptT TransportError (StateM Chip) Unit) chip =
      (.ok (), chip.onWire chip.wire.opened) := by
  simp only [Transport.select, perform_bind, perform_get, closed]
  rfl

/-- A window in which a transfer failed has no effect. -/
theorem close_of_failed (selected : w.window.selected = true) :
    (chip.onWire w.failed).close = chip.onWire w.failed.closed := by
  refine (if_neg (by simp [onWire, Wire.failed, selected])).trans ?_
  exact if_pos rfl

/-- A window with a request is processed. -/
theorem close_request (some : region ≠ []) :
    (chip.onWire (w.opened.collected region)).close =
      (chip.onWire (w.opened.collected region).closed).processRequest region := by
  refine (if_neg (by simp [onWire, Wire.collected, Wire.opened, Window.opened])).trans
    ((if_neg (by simp [onWire, Wire.collected, Wire.opened, Window.opened])).trans ?_)
  exact if_neg some

end Chip

/-! ### The bus -/

namespace Bus

open Chip (Wire)

/-- The bus between two windows. -/
structure Ready (bus : Bus Chip) : Prop where
  length : bus.frame.length = Frame.maxLength
  closed : bus.transport.window.selected = false

/-- What was between two windows is so again, and no fault has come up. -/
structure Follows (before after : Bus Chip) : Prop where
  ready : after.Ready
  clear : before.transport.wire.Clear → after.transport.wire.Clear

theorem Follows.refl {bus : Bus Chip} (ready : bus.Ready) : Follows bus bus := ⟨ready, id⟩

theorem Follows.trans {first second third : Bus Chip} (one : Follows first second)
    (other : Follows second third) : Follows first third :=
  ⟨other.ready, other.clear ∘ one.clear⟩

/-- An action leaves the bus between two windows, and its outcome is as `Q`
says. -/
def Leads {α : Type} (act : BusM Chip α) (before : Bus Chip)
    (Q : Except Error α → Bus Chip → Prop) : Prop :=
  Follows before (perform act before).2 ∧ Q (perform act before).1 (perform act before).2

section

variable {α β : Type} {act : BusM Chip α} {before after : Bus Chip}
  {Q : Except Error α → Bus Chip → Prop} {R : Except Error β → Bus Chip → Prop}

theorem Leads.of_eq {result : Except Error α} (performed : perform act before = (result, after))
    (follows : Follows before after) (outcome : Q result after) : Leads act before Q := by
  unfold Leads
  rw [performed]
  exact ⟨follows, outcome⟩

theorem Leads.bind {next : α → BusM Chip β} (first : Leads act before Q)
    (failed : ∀ e after, Q (.error e) after → R (.error e) after)
    (rest : ∀ a after, Follows before after → Q (.ok a) after → Leads (next a) after R) :
    Leads (act >>= next) before R := by
  unfold Leads at first
  rcases performed : perform act before with ⟨result, after⟩
  rw [performed] at first
  cases result with
  | error e =>
    exact .of_eq (perform_bind_error performed) first.1 (failed e after first.2)
  | ok a =>
    obtain ⟨follows, outcome⟩ := rest a after first.1 first.2
    exact .of_eq (perform_bind_ok performed) (first.1.trans follows) outcome

theorem Leads.mono {Q' : Except Error α → Bus Chip → Prop} (leads : Leads act before Q)
    (weaker : ∀ result after, Q result after → Q' result after) : Leads act before Q' :=
  ⟨leads.1, weaker _ _ leads.2⟩

end

variable {c : Config} {bus : Bus Chip} {frame : Bytes} {chip : Chip} {w : Wire}

theorem perform_checkBounds {offset length : Nat} (fits : bus.frame.length = Frame.maxLength)
    (inside : offset + length ≤ Frame.maxLength) :
    perform (checkBounds offset length : BusM Chip Unit) bus = (.ok (), bus) := by
  have ok := Transport.checkBounds_eq_ok_iff.mpr ⟨inside, fits.symm ▸ inside⟩
  simp [checkBounds, perform_bind, ok]

theorem perform_lift {α : Type} (act : ExceptT TransportError (StateM Chip) α) (bus : Bus Chip) :
    perform (lift act) bus = ((perform act bus.transport).1.mapError .transport,
      { bus with transport := (perform act bus.transport).2 }) := rfl

theorem follows_delay (duration : UInt32) (ready : bus.Ready) :
    Follows bus ⟨bus.transport.onWire (bus.transport.wire.waited duration), bus.frame⟩ :=
  ⟨⟨ready.length, ready.closed⟩, fun clear => ⟨clear.transfers, clear.polls, clear.response⟩⟩

variable [Primitives]

theorem perform_lift_select (closed : bus.transport.window.selected = false) :
    perform (lift Transport.select : BusM Chip Unit) bus =
      (.ok (), ⟨bus.transport.onWire bus.transport.wire.opened, bus.frame⟩) := by
  rw [perform_lift, Chip.perform_select closed]
  rfl

theorem perform_lift_deselect (bus : Bus Chip) :
    perform (lift Transport.deselect : BusM Chip Unit) bus =
      (.ok (), { bus with transport := bus.transport.close }) := rfl

theorem perform_abandon {α : Type} (e : Error) (bus : Bus Chip) :
    perform (abandon e : BusM Chip α) bus =
      (.error e, { bus with transport := bus.transport.close }) := rfl

theorem perform_delay (duration : UInt32) (bus : Bus Chip) :
    perform (delay duration) bus =
      (.ok (), ⟨bus.transport.onWire (bus.transport.wire.waited duration), bus.frame⟩) := rfl

theorem leads_pause (duration : UInt32) (ready : bus.Ready) :
    Leads (if 0 < duration then delay duration else pure ()) bus fun result after =>
      result = .ok () ∧ after.transport.settled = bus.transport.settled := by
  split
  · exact .of_eq (perform_delay duration bus) (follows_delay duration ready) ⟨rfl, rfl⟩
  · exact .of_eq (perform_pure () bus) (.refl ready) ⟨rfl, rfl⟩

/-- A transfer inside the buffer is what the chip makes of it. -/
theorem perform_transfer {offset length : Nat} (fits : frame.length = Frame.maxLength)
    (inside : offset + length ≤ Frame.maxLength) {answer : Bytes} {after : Chip}
    {result : Except TransportError Unit}
    (clocked : chip.clock (frame.slice offset length) = ((result, answer), after)) :
    perform (transfer c offset length) ⟨chip, frame⟩ =
      (result.mapError .transport, ⟨after, frame.overlay offset answer⟩) := by
  have ok := Transport.checkBounds_eq_ok_iff.mpr ⟨inside, fits.symm ▸ inside⟩
  have transferred : Transport.transfer frame offset length c.transferTimeout chip =
      ((result, frame.overlay offset answer), after) := by
    have exchanged : Transport.exchange offset (frame.slice offset length) c.transferTimeout chip =
      ((result, answer), after) := clocked
    unfold Transport.transfer
    rw [ok]
    simp only [bind, StateT.bind, exchanged]
    rfl
  exact congrArg (fun r : (Except TransportError Unit × Bytes) × Chip =>
    (r.1.1.mapError Error.transport, (⟨r.2, r.1.2⟩ : Bus Chip))) transferred

theorem perform_transferOrClose_ok {offset length : Nat} (fits : frame.length = Frame.maxLength)
    (inside : offset + length ≤ Frame.maxLength) {answer : Bytes} {after : Chip}
    (clocked : chip.clock (frame.slice offset length) = ((.ok (), answer), after)) :
    perform (transferOrClose c offset length) ⟨chip, frame⟩ =
      (.ok (), ⟨after, frame.overlay offset answer⟩) := by
  unfold transferOrClose
  rw [perform_tryCatch, perform_transfer fits inside clocked]
  rfl

/-- A transfer that fails closes its window, which has no effect. -/
theorem perform_transferOrClose_of_faulty {offset length : Nat}
    (fits : frame.length = Frame.maxLength) (inside : offset + length ≤ Frame.maxLength)
    (selected : w.window.selected = true) (faulty : 0 < w.failTransfers) :
    perform (transferOrClose c offset length) ⟨chip.onWire w, frame⟩ =
      (.error (.transport .timeout), ⟨chip.onWire w.failed.closed,
        frame.overlay offset (frame.slice offset length)⟩) := by
  have clocked := Chip.clock_of_faulty chip (frame.slice offset length) selected faulty
  unfold transferOrClose
  rw [perform_tryCatch, perform_transfer fits inside clocked]
  simp only [mapError_error]
  rw [perform_abandon, Chip.close_of_failed selected]

/-! ### Writing a request -/

/-- Outcome of an attempt to bring a request to the chip: it is served, or the
transport failed and it came to nothing. -/
def Sent (chip : Chip) (request : Frame.Request) (clear : Prop) (result : Except Error Unit)
    (after : Bus Chip) : Prop :=
  (result = .ok () ∧ after.transport.settled = chip.served request) ∨
    (∃ cause, result = .error (.transport cause)) ∧ ¬clear ∧ after.transport.settled = chip

/-- Serving a request in a window that is closed is no fault. -/
theorem follows_served (bus : Bus Chip) {frame : Bytes} (fits : frame.length = Frame.maxLength)
    (region : Bytes) (request : Frame.Request) :
    Follows bus ⟨(bus.transport.onWire (bus.transport.wire.opened.collected region).closed).served
      request, frame⟩ := by
  refine ⟨⟨fits, ?_⟩, fun clear => ?_⟩
  · exact congrArg (fun w : Wire => w.window.selected) (Chip.wire_served _ _)
  · dsimp only
    rw [Chip.wire_served]
    exact ⟨clear.transfers, clear.polls, clear.response⟩

omit [Primitives] in
theorem length_request_le {data : Bytes} (short : data.length ≤ Frame.maxData) :
    0 + (data.length + Frame.overhead) ≤ Frame.maxLength := by
  unfold Frame.maxLength
  omega

/-- A window that no transfer fails in brings the request to the chip. Then there is the
pause. -/
theorem perform_write {id : UInt8} {data : Bytes} (short : data.length ≤ Frame.maxData)
    (ready : bus.Ready) (sound : bus.transport.wire.failTransfers = 0)
    (written : bus.frame.slice 0 (data.length + Frame.overhead) = Frame.encode id data) :
    ∃ frame, frame.length = Frame.maxLength ∧
      perform (write c (data.length + Frame.overhead)) bus =
        perform (if 0 < c.turnaroundDelay then delay c.turnaroundDelay else pure ())
          ⟨(bus.transport.onWire
            (bus.transport.wire.opened.collected (Frame.encode id data)).closed).served
              ⟨id, data⟩, frame⟩ := by
  have inside := length_request_le short
  have fits : 0 + (data.length + Frame.overhead) ≤ bus.frame.length := ready.length ▸ inside
  have selected : bus.transport.wire.opened.window.selected = true := rfl
  have request : bus.frame.slice 0 (data.length + Frame.overhead) ≠ [Bus.responseRequest] := by
    intro poll
    have := Bytes.length_slice fits
    rw [poll, List.length_singleton] at this
    unfold Frame.overhead at this
    omega
  obtain ⟨answer, size, clocked⟩ : ∃ answer : Bytes, answer.length = data.length + Frame.overhead ∧
      (bus.transport.onWire bus.transport.wire.opened).clock
        (bus.frame.slice 0 (data.length + Frame.overhead)) = ((.ok (), answer),
          bus.transport.onWire (bus.transport.wire.opened.collected (Frame.encode id data))) := by
    rw [written]
    exact ⟨_, (Octets.fit _ _).property.trans (Frame.length_encode id data),
      Chip.clock_collect _ _ selected sound fun poll => request (written.trans poll.2)⟩
  have some : Frame.encode id data ≠ [] := by simp [Frame.encode, Frame.content]
  have heard (chip : Chip) :
      chip.processRequest (Frame.encode id data) = chip.served ⟨id, data⟩ := by
    rw [← List.append_nil (Frame.encode id data)]
    exact chip.processRequest_encode short []
  refine ⟨bus.frame.overlay 0 answer, ?_, ?_⟩
  · exact (Bytes.length_overlay (size ▸ fits)).trans ready.length
  · unfold write
    rw [if_neg (by unfold minLength Frame.overhead; omega)]
    dsimp only
    rw [perform_bind_ok (perform_checkBounds ready.length inside),
      perform_bind_ok (perform_lift_select ready.closed),
      perform_bind_ok (perform_transferOrClose_ok ready.length inside clocked),
      perform_bind_ok (perform_lift_deselect _)]
    dsimp only
    rw [Chip.close_request some, heard]

theorem leads_write {id : UInt8} {data : Bytes} (short : data.length ≤ Frame.maxData)
    (ready : bus.Ready)
    (written : bus.frame.slice 0 (data.length + Frame.overhead) = Frame.encode id data) :
    Leads (write c (data.length + Frame.overhead)) bus
      (Sent bus.transport.settled ⟨id, data⟩ bus.transport.wire.Clear) := by
  by_cases faulty : 0 < bus.transport.wire.failTransfers
  · have inside := length_request_le short
    have fits : 0 + (data.length + Frame.overhead) ≤ bus.frame.length := ready.length ▸ inside
    have selected : bus.transport.wire.opened.window.selected = true := rfl
    have unclear : ¬bus.transport.wire.Clear := Wire.not_clear_of_faulty faulty
    unfold write
    rw [if_neg (by unfold minLength Frame.overhead; omega), Leads]
    dsimp only
    rw [perform_bind_ok (perform_checkBounds ready.length inside),
      perform_bind_ok (perform_lift_select ready.closed),
      perform_bind_error (perform_transferOrClose_of_faulty ready.length inside selected faulty)]
    refine ⟨⟨⟨?_, rfl⟩, fun clear => absurd clear unclear⟩, .inr ⟨⟨_, rfl⟩, unclear, rfl⟩⟩
    exact (Bytes.length_overlay (by rwa [Bytes.length_slice fits])).trans ready.length
  · obtain ⟨frame, length, performed⟩ :=
      perform_write (c := c) short ready (Nat.eq_zero_of_not_pos faulty) written
    have follows := follows_served bus length (Frame.encode id data) ⟨id, data⟩
    have paused := leads_pause c.turnaroundDelay follows.ready
    rw [Leads, performed]
    refine ⟨follows.trans paused.1, .inl ⟨paused.2.1, paused.2.2.trans ?_⟩⟩
    exact Chip.settled_served _ _

/-! ### Sending a request -/

/-- An attempt to send builds the request at the front of the buffer and writes it. -/
theorem perform_sendOnce (id : UInt8) {data : Bytes} (short : data.length ≤ Frame.maxData)
    (ready : bus.Ready) :
    ∃ frame, frame.length = Frame.maxLength ∧
      frame.slice 0 (data.length + Frame.overhead) = Frame.encode id data ∧
      perform (Link.sendOnce c id data) bus =
        perform (write c (data.length + Frame.overhead)) ⟨bus.transport, frame⟩ := by
  have fits : data.length + Frame.overhead ≤ bus.frame.length := by
    rw [ready.length]
    unfold Frame.maxLength
    omega
  have built := Frame.build_eq_ok id short fits
  have size : (Frame.encode id data).length = data.length + Frame.overhead :=
    Frame.length_encode id data
  refine ⟨bus.frame.overlay 0 (Frame.encode id data), ?_, ?_, ?_⟩
  · exact (Bytes.length_overlay (by rw [size]; omega)).trans ready.length
  · rw [← size]
    exact Bytes.take_overlay_zero _ _
  · unfold Link.sendOnce
    rw [perform_bind_ok (perform_get bus)]
    simp only [Frame.buildRequest, built]
    rfl

theorem leads_sendOnce {id : UInt8} {data : Bytes} (short : data.length ≤ Frame.maxData)
    (ready : bus.Ready) :
    Leads (Link.sendOnce c id data) bus
      (Sent bus.transport.settled ⟨id, data⟩ bus.transport.wire.Clear) := by
  obtain ⟨frame, length, written, performed⟩ := perform_sendOnce (c := c) id short ready
  have sent : Leads (write c (data.length + Frame.overhead)) ⟨bus.transport, frame⟩
      (Sent bus.transport.settled ⟨id, data⟩ bus.transport.wire.Clear) :=
    leads_write short ⟨length, ready.closed⟩ written
  rw [Leads, performed]
  exact ⟨⟨sent.1.ready, sent.1.clear⟩, sent.2⟩

end Bus

namespace Link

open Bus

variable [Primitives] {c : Config} {bus : Bus Chip} {α : Type}

/-- What an attempt leads to, a number of attempts lead to, if what it needs outlasts a
failure of the transport and a wait. -/
theorem leads_withRetries_of {attempt : BusM Chip α} {P : Bus Chip → Prop}
    {Q : Prop → Except Error α → Bus Chip → Prop}
    (once : ∀ bus, bus.Ready → P bus → Leads attempt bus (Q bus.transport.wire.Clear))
    (failed : ∀ bus cause, bus.Ready → P bus →
      (perform attempt bus).1 = .error (.transport cause) → P (perform attempt bus).2)
    (waits : ∀ (bus : Bus Chip) duration, P bus →
      P ⟨bus.transport.onWire (bus.transport.wire.waited duration), bus.frame⟩)
    (weaker : ∀ (clear clear' : Prop) result after, (clear → clear') → Q clear' result after →
      Q clear result after)
    (retries : Nat) (ready : bus.Ready) (held : P bus) :
    Leads (withRetries c attempt retries) bus (Q bus.transport.wire.Clear) := by
  induction retries generalizing bus with
  | zero => exact once bus ready held
  | succ retries ih =>
    have first := once bus ready held
    have still := failed bus
    unfold withRetries
    rw [Leads, perform_tryCatch]
    unfold Leads at first
    rcases performed : perform attempt bus with ⟨result, after⟩
    rw [performed] at first still
    rcases result with (cause | _) | a
    · have waiting := follows_delay c.retryDelay first.1.ready
      have again := ih waiting.ready (waits after _ (still cause ready held rfl))
      dsimp only
      rw [if_pos (show isRetried (.transport cause) = true from rfl),
        perform_bind_ok (perform_delay c.retryDelay after)]
      exact ⟨(first.1.trans waiting).trans again.1,
        weaker _ _ _ _ (first.1.trans waiting).clear again.2⟩
    all_goals exact first

/-- What an attempt leads to, a number of attempts lead to, if a failure of the
transport leaves the chip apart from the wire as it was. -/
theorem leads_withRetries {attempt : BusM Chip α} {chip : Chip}
    {Q : Prop → Except Error α → Bus Chip → Prop}
    (once : ∀ bus, bus.Ready → bus.transport.settled = chip →
      Leads attempt bus (Q bus.transport.wire.Clear))
    (failed : ∀ clear cause after, Q clear (.error (.transport cause)) after →
      after.transport.settled = chip)
    (weaker : ∀ (clear clear' : Prop) result after, (clear → clear') → Q clear' result after →
      Q clear result after)
    (retries : Nat) (ready : bus.Ready) (settled : bus.transport.settled = chip) :
    Leads (withRetries c attempt retries) bus (Q bus.transport.wire.Clear) := by
  refine leads_withRetries_of once ?_ (fun _ _ settled => settled) weaker retries ready settled
  intro other cause ready settled same
  have outcome := (once other ready settled).2
  rw [same] at outcome
  exact failed _ cause _ outcome

/-- A request is served, or the transport failed and it came to nothing. -/
theorem leads_send (id : UInt8) {data : Bytes} (short : data.length ≤ Frame.maxData)
    (ready : bus.Ready) : Leads (send c id data) bus
      (Sent bus.transport.settled ⟨id, data⟩ bus.transport.wire.Clear) := by
  refine leads_withRetries ?_ ?_ ?_ _ ready rfl
  · intro other ready settled
    rw [← settled]
    exact leads_sendOnce short ready
  · rintro clear cause after (⟨ok, -⟩ | ⟨-, -, same⟩)
    · cases ok
    · exact same
  · rintro clear clear' result after earlier (sent | ⟨failed, unclear, same⟩)
    · exact .inl sent
    · exact .inr ⟨failed, unclear ∘ earlier, same⟩

end Link

end SecureElement
