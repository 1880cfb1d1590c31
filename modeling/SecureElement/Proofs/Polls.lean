import SecureElement.Proofs.Taps

/-!
How the windows of the bus go.

What is heard of a poll decides what it comes to, and the other way round: `PollRun`
has one case for each place where a window can end. A read is polls with a wait after
each that found the chip busy (`ReadRun`), and a write is one window (`WriteRun`). The
bus runs like this on every transport (`Bus.steady_read`, `Bus.steady_write`).

Without failures of the transport, the polls that find the chip idle come first, and
one window at most decides (`ReadRun.law`).
-/

namespace SecureElement

/-! ### Calls -/

namespace Heard

/-- A window is opened. -/
abbrev opened : Heard := .silent .select (.ok ())

/-- A window is closed, or that fails. -/
abbrev closed (closing : Except TransportError Unit) : Heard := .silent .deselect closing

/-- A wait. -/
abbrev waited (duration : UInt32) : Heard := .silent (.delay duration) (.ok ())

/-- The chip status is asked for. -/
abbrev asked (c : Config) (result : Except TransportError Unit) (incoming : Bytes) : Heard :=
  ⟨.transfer 0 c.transferTimeout [Bus.responseRequest], result, incoming⟩

/-- The header of a frame is read. -/
abbrev header (c : Config) (result : Except TransportError Unit) (incoming : Bytes) : Heard :=
  ⟨.transfer 1 c.transferTimeout [0, 0], result, incoming⟩

/-- The rest of a frame is read, with so much data. -/
abbrev remainder (c : Config) (length : UInt8) (result : Except TransportError Unit)
    (incoming : Bytes) : Heard :=
  ⟨.transfer 3 c.transferTimeout (List.replicate (length.toNat + 2) 0), result, incoming⟩

end Heard

/-- On the tap an action does what it does on the transport, and these are its calls. -/
def Tapped.Hears {σ α : Type} (before : Tapped σ) (act : BusM σ α) (tap : BusM (Tapped σ) α)
    (frame : Bytes) (calls : List Heard) : Prop :=
  perform tap ⟨before, frame⟩ =
    let (result, bus) := perform act ⟨before.transport, frame⟩
    (result, ⟨⟨bus.transport, before.record ++ calls⟩, bus.frame⟩)

theorem Tapped.Hears.of_between {σ α : Type} {before : Tapped σ} {act : BusM σ α}
    {tap : BusM (Tapped σ) α} {frame : Bytes} {calls : List Heard}
    (coupled : Bus.Between (fun _ transport tapped => tapped.transport = transport) frame.length
      act tap)
    (record : (perform tap ⟨before, frame⟩).2.transport.record = before.record ++ calls) :
    before.Hears act tap frame calls := by
  have begun : Bus.Alike (fun _ transport tapped => tapped.transport = transport) frame.length
      .outside ⟨before.transport, frame⟩ ⟨before, frame⟩ := .of_related rfl frame
  obtain ⟨same, alike⟩ := (coupled.perform begun).same
  obtain ⟨frames, -, transports⟩ := alike
  unfold Hears
  rcases ran : perform tap ⟨before, frame⟩ with ⟨result, ⟨⟨transport, heard⟩, bytes⟩⟩
  rw [ran] at same frames transports record
  obtain rfl : heard = before.record ++ calls := record
  obtain rfl : transport = _ := transports
  obtain rfl : _ = bytes := frames
  obtain rfl : _ = result := same
  rfl

namespace Bus

/-- None of the bits that end the polling is set. -/
structure Idle (status : UInt8) : Prop where
  calm : status &&& alarmBit = 0
  started : status &&& startupBit = 0
  unready : status &&& readyBit = 0

/-- A frame can be read. -/
structure Readable (status : UInt8) : Prop where
  calm : status &&& alarmBit = 0
  started : status &&& startupBit = 0
  ready : status &&& readyBit ≠ 0

/-- The calls of a poll and what it comes to: the bytes of a frame, or nothing if the
chip is busy. Of several failures the first is the outcome, and the alarm bit stands
before the startup bit. -/
inductive PollRun (c : Config) : List Heard → Except Error (Option Bytes) → Prop
  | refused (cause : TransportError) :
      PollRun c [.silent .select (.error cause)] (.error (.transport cause))
  | unasked (cause : TransportError) (incoming : Bytes) (closing : Except TransportError Unit) :
      PollRun c [.opened, .asked c (.error cause) incoming, .closed closing]
        (.error (.transport cause))
  | alarm {status : UInt8} (alarm : status &&& alarmBit ≠ 0)
      (closing : Except TransportError Unit) :
      PollRun c [.opened, .asked c (.ok ()) [status], .closed closing]
        (.error (.protocol .chipAlarm))
  | startup {status : UInt8} (calm : status &&& alarmBit = 0)
      (startup : status &&& startupBit ≠ 0) (closing : Except TransportError Unit) :
      PollRun c [.opened, .asked c (.ok ()) [status], .closed closing]
        (.error (.protocol .chipInStartup))
  | busy {status : UInt8} (idle : Idle status) (closing : Except TransportError Unit) :
      PollRun c [.opened, .asked c (.ok ()) [status], .closed closing]
        ((closing.mapError .transport).map fun _ => none)
  | headless {status : UInt8} (readable : Readable status) (cause : TransportError)
      (incoming : Bytes) (closing : Except TransportError Unit) :
      PollRun c [.opened, .asked c (.ok ()) [status], .header c (.error cause) incoming,
        .closed closing] (.error (.transport cause))
  | long {status length : UInt8} (readable : Readable status)
      (long : Frame.maxData < length.toNat) (code : UInt8)
      (closing : Except TransportError Unit) :
      PollRun c [.opened, .asked c (.ok ()) [status], .header c (.ok ()) [length, code],
        .closed closing] (.error (.frame (.length length.toNat)))
  | cut {status length : UInt8} (readable : Readable status)
      (short : length.toNat ≤ Frame.maxData) (code : UInt8) (cause : TransportError)
      (incoming : Bytes) (closing : Except TransportError Unit) :
      PollRun c [.opened, .asked c (.ok ()) [status], .header c (.ok ()) [length, code],
        .remainder c length (.error cause) incoming, .closed closing] (.error (.transport cause))
  | frame {status length : UInt8} (readable : Readable status)
      (short : length.toNat ≤ Frame.maxData) (code : UInt8) {rest : Bytes}
      (whole : rest.length = length.toNat + 2) (closing : Except TransportError Unit) :
      PollRun c [.opened, .asked c (.ok ()) [status], .header c (.ok ()) [length, code],
        .remainder c length (.ok ()) rest, .closed closing]
        ((closing.mapError .transport).map fun _ => some (status :: length :: code :: rest))

/-- A poll that finds a frame has read all of it. -/
theorem PollRun.found {c : Config} {calls : List Heard} {outcome : Except Error (Option Bytes)}
    (run : PollRun c calls outcome) {bytes : Bytes} (found : outcome = .ok (some bytes)) :
    ∃ status length code rest, bytes = status :: length :: code :: rest ∧
      length.toNat ≤ Frame.maxData ∧ rest.length = length.toNat + 2 ∧
      calls = [.opened, .asked c (.ok ()) [status], .header c (.ok ()) [length, code],
        .remainder c length (.ok ()) rest, .closed (.ok ())] := by
  cases run with
  | busy _ closing => cases closing <;> cases found
  | frame _ short code whole closing =>
    cases closing with
    | error cause => cases found
    | ok _ =>
      cases found
      exact ⟨_, _, _, _, rfl, short, whole, rfl⟩
  | _ => cases found

/-- The calls of a read with so many tries and what it comes to. -/
inductive ReadRun (c : Config) : Nat → List Heard → Except Error Bytes → Prop
  | exhausted : ReadRun c 0 [] (.error (.transport .notReady))
  | failed {tries : Nat} {calls : List Heard} {e : Error} (polled : PollRun c calls (.error e)) :
      ReadRun c (tries + 1) calls (.error e)
  | found {tries : Nat} {calls : List Heard} {bytes : Bytes}
      (polled : PollRun c calls (.ok (some bytes))) : ReadRun c (tries + 1) calls (.ok bytes)
  | busy {tries : Nat} {calls more : List Heard} {outcome : Except Error Bytes}
      (polled : PollRun c calls (.ok none)) (rest : ReadRun c tries more outcome) :
      ReadRun c (tries + 1) (calls ++ .waited c.readRetryDelay :: more) outcome

/-- What is waited after a window of a write, so that the chip can turn around. -/
def turnaround (c : Config) : List Heard :=
  if 0 < c.turnaroundDelay then [.waited c.turnaroundDelay] else []

/-- The calls of a write of a frame and what it comes to. -/
inductive WriteRun (c : Config) (frame : Bytes) : List Heard → Except Error Unit → Prop
  | refused (cause : TransportError) :
      WriteRun c frame [.silent .select (.error cause)] (.error (.transport cause))
  | broken (cause : TransportError) (incoming : Bytes) (closing : Except TransportError Unit) :
      WriteRun c frame [.opened, ⟨.transfer 0 c.transferTimeout frame, .error cause, incoming⟩,
        .closed closing] (.error (.transport cause))
  | unclosed (incoming : Bytes) (cause : TransportError) :
      WriteRun c frame [.opened, ⟨.transfer 0 c.transferTimeout frame, .ok (), incoming⟩,
        .closed (.error cause)] (.error (.transport cause))
  | sent (incoming : Bytes) :
      WriteRun c frame (.opened :: ⟨.transfer 0 c.transferTimeout frame, .ok (), incoming⟩ ::
        .closed (.ok ()) :: turnaround c) (.ok ())

/-! ### Windows on the bus -/

section

variable {σ α : Type} [Transport σ] (c : Config)

/-- What is returned is how many bytes are known, and calls with these bytes are such a run
of a poll. -/
def Tells (count? : α → Option Nat) (result : Except Error α) (known : Bytes)
    (calls : List Heard) : Prop :=
  PollRun c calls (result.map fun a => (count? a).map fun _ => known) ∧
    ∀ a count, result = .ok a → count? a = some count → known.length = count

variable {c} in
theorem Tells.failed {count? : α → Option Nat} {e : Error} {known : Bytes} {calls : List Heard}
    (run : PollRun c calls (.error e)) : Tells c count? (.error e) known calls := by
  refine ⟨run, ?_⟩
  rintro _ _ ⟨⟩

theorem steady_readRest {status : UInt8} (readable : Readable status) (length code : UInt8) :
    Steady (perform (readRest (σ := Tapped σ) c length)) [status, length, code]
      fun result known calls => Tells c some result known
        (.opened :: .asked c (.ok ()) [status] :: .header c (.ok ()) [length, code] :: calls) := by
  refine .ite (fun long => ?_) fun short => ?_
  · exact .bind (steady_abandon _ fun closing => .failed (.long readable long code closing))
  have short := Nat.le_of_not_lt short
  have fits : 3 + (length.toNat + 2) ≤ Frame.maxLength := by
    simp only [Frame.maxData, Frame.maxLength, Frame.overhead] at short ⊢
    omega
  refine .bind (steady_overlay (by rfl) ?_ (by rw [List.length_replicate]; exact fits))
  refine .bind (steady_transferOrClose c [status, length, code] _ (by rfl)
    List.length_replicate.symm fits (fun rest whole => ?_) fun cause rest closing known =>
      .failed (.cut readable short code cause rest closing))
  rw [List.length_replicate] at whole
  refine .bind (steady_lift .deselect Transport.deselect fun closing => ?_)
  cases closing with
  | error cause => exact .failed (.frame readable short code whole (.error cause))
  | ok _ =>
    refine .pure ⟨.frame readable short code whole (.ok ()), ?_⟩
    rintro _ _ ⟨⟩ ⟨⟩
    simp only [List.length_append, List.length_cons, List.length_nil, whole]
    omega

theorem steady_readFrame {status : UInt8} (readable : Readable status) :
    Steady (perform (readFrame (σ := Tapped σ) c)) [status] fun result known calls =>
      Tells c some result known (.opened :: .asked c (.ok ()) [status] :: calls) := by
  rw [readFrame_eq]
  refine .bind (steady_overlay (by rfl) ?_ (by decide))
  refine .bind (steady_transferOrClose c [status] [0, 0] (by rfl) (by rfl)
    (by decide) (fun header two => ?_) fun cause header closing known =>
      .failed (.headless readable cause header closing))
  match header, two with
  | [length, code], _ =>
    exact .look _ (steady_readRest c readable length code) fun _ _ _ => rfl

theorem steady_pollRest (status : UInt8) :
    Steady (perform (pollRest (σ := Tapped σ) c status)) [status] fun result known calls =>
      Tells c id result known (.opened :: .asked c (.ok ()) [status] :: calls) := by
  refine .ite (fun alarm => steady_abandon _ fun closing => .failed (.alarm alarm closing))
    fun calm => ?_
  have calm := Decidable.not_not.mp calm
  refine .ite (fun startup => steady_abandon _ fun closing =>
    .failed (.startup calm startup closing)) fun started => ?_
  have started := Decidable.not_not.mp started
  refine .ite (fun unready => ?_) fun ready => ?_
  · refine .bind (steady_lift .deselect Transport.deselect fun closing => ?_)
    cases closing with
    | error cause => exact .failed (.busy ⟨calm, started, unready⟩ (.error cause))
    | ok _ =>
      refine .pure ⟨.busy ⟨calm, started, unready⟩ (.ok ()), ?_⟩
      rintro _ _ ⟨⟩ ⟨⟩
  · refine .bind ((steady_readFrame c ⟨calm, started, ready⟩).mono fun result known calls tells => ?_)
    cases result with
    | error e => exact .failed tells.1
    | ok count =>
      refine .pure ?_
      rw [List.append_nil]
      refine ⟨tells.1, ?_⟩
      rintro _ _ ⟨⟩ ⟨⟩
      exact tells.2 count count rfl rfl

theorem steady_poll : Steady (perform (poll (σ := Tapped σ) c)) [] (Tells c id) := by
  rw [poll_eq]
  refine .bind (steady_overlay (by rfl) ?_ (by decide))
  refine .bind (steady_lift .select Transport.select fun opening => ?_)
  cases opening with
  | error cause => exact .failed (.refused cause)
  | ok _ =>
    refine .bind (steady_transferOrClose c [] [responseRequest] (by rfl)
      (by rfl) (by decide) (fun status one => ?_) fun cause incoming closing known =>
        .failed (.unasked cause incoming closing))
    match status, one with
    | [status], _ => exact .look _ (steady_pollRest c status) fun _ _ _ => rfl

/-- What is returned is how many bytes are known, and calls with these bytes are such a run
of a read. -/
def Fetches (tries : Nat) (result : Except Error Nat) (known : Bytes) (calls : List Heard) :
    Prop :=
  ReadRun c tries calls (result.map fun _ => known) ∧
    ∀ count, result = .ok count → known.length = count

theorem steady_pollUpTo (tries : Nat) :
    Steady (perform (pollUpTo (σ := Tapped σ) c tries)) [] (Fetches c tries) := by
  induction tries with
  | zero => exact .throw ⟨.exhausted, nofun⟩
  | succ tries ih =>
    refine .bind ((steady_poll c).mono fun result known calls tells => ?_)
    cases result with
    | error e => exact ⟨.failed tells.1, nofun⟩
    | ok found =>
      cases found with
      | some count =>
        refine .pure ?_
        rw [List.append_nil]
        refine ⟨.found tells.1, ?_⟩
        rintro _ ⟨⟩
        exact tells.2 _ count rfl rfl
      | none =>
        refine .bind (steady_delay _ (.forget (ih.mono fun result known more fetches => ?_)))
        exact ⟨.busy tells.1 fetches.1, fetches.2⟩

theorem steady_read :
    Steady (perform (read (σ := Tapped σ) c)) [] (Fetches c c.readMaxTries.toNat) :=
  .bind (steady_checkBounds (Nat.le_of_eq (Nat.zero_add _)) (steady_pollUpTo c _))

/-- A write sends out what is known. -/
theorem steady_write {frame : Bytes} (some : minLength ≤ frame.length)
    (fits : frame.length ≤ Frame.maxLength) :
    Steady (perform (write (σ := Tapped σ) c frame.length)) frame
      fun result _ calls => WriteRun c frame calls result := by
  refine .ite (fun none => absurd none (Nat.not_lt.mpr some)) fun _ => ?_
  refine .bind (steady_checkBounds (by omega) ?_)
  refine .bind (steady_lift .select Transport.select fun opening => ?_)
  cases opening with
  | error cause => exact .refused cause
  | ok _ =>
    refine .bind (steady_transferOrClose c [] frame (by rfl) rfl (by omega)
      (fun incoming _ => ?_) fun cause incoming closing known => .broken cause incoming closing)
    refine .bind (steady_lift .deselect Transport.deselect fun closing => ?_)
    cases closing with
    | error cause => exact .unclosed incoming cause
    | ok _ =>
      have run : WriteRun c frame _ _ := .sent incoming
      unfold turnaround at run
      refine .ite (fun pause => ?_) fun pause => ?_
      · rw [if_pos pause] at run
        exact steady_delay _ run
      · rw [if_neg pause] at run
        exact .pure run

/-! ### Longer buffers -/

/-- The same bus with more bytes behind the buffer. -/
def Padded (extra : Bytes) (left right : Bus σ) : Prop :=
  left.frame.length = Frame.maxLength ∧ right = ⟨left.transport, left.frame ++ extra⟩

/-- Actions that do not touch what is behind the longest frame. -/
abbrev Within (extra : Bytes) (act : BusM σ α) : Prop :=
  Coupled (Padded extra) (Padded extra) (Padded extra) act act

variable (extra : Bytes)

omit [Transport σ] in
theorem within_lift (act : ExceptT TransportError (StateM σ) α) : Within extra (lift act) := by
  rintro left _ ⟨whole, rfl⟩
  refine ⟨rfl, ?_⟩
  split
  · exact ⟨whole, rfl⟩
  · exact ⟨whole, rfl⟩

theorem within_transfer {offset length : Nat} (fits : offset + length ≤ Frame.maxLength) :
    Within (σ := σ) extra (transfer c offset length) := by
  rintro left _ ⟨whole, rfl⟩
  have inside : offset + length ≤ left.frame.length := whole.symm ▸ fits
  have part := Bytes.slice_append_of_le inside extra
  have kept := Transport.length_exchange offset (left.frame.slice offset length)
    c.transferTimeout left.transport
  rw [Bytes.length_slice inside] at kept
  rw [run_transfer_of_inside c (Nat.le_min.mpr ⟨fits, inside⟩), run_transfer_of_inside c
    (Nat.le_min.mpr ⟨fits, Nat.le_trans inside (by simp)⟩)]
  dsimp only
  rw [part]
  have padded : Padded extra
      ⟨(Transport.exchange offset (left.frame.slice offset length) c.transferTimeout
        left.transport).2, left.frame.overlay offset _⟩ ⟨_, _⟩ :=
    ⟨(Bytes.length_overlay (by rw [kept]; exact inside)).trans whole,
      congrArg _ (Bytes.overlay_append (by rw [kept]; exact inside) extra)⟩
  refine ⟨rfl, ?_⟩
  split
  · exact padded
  · exact padded

theorem padded_tracks : Tracks (σ := σ) c Frame.maxLength fun _ => Padded extra where
  overlay := by
    rintro phase offset piece fits left _ ⟨whole, rfl⟩
    have inside : offset + piece.length ≤ left.frame.length := whole.symm ▸ fits
    exact ⟨(Bytes.length_overlay inside).trans whole,
      congrArg (Bus.mk left.transport) (Bytes.overlay_append inside extra)⟩
  byte := by
    rintro phase index inside left _ ⟨whole, rfl⟩
    simp only [List.getD_eq_getElem?_getD, List.getElem?_append_left (whole.symm ▸ inside)]
  select := within_lift extra _
  transfer _ fits := within_transfer c extra fits
  deselect _ := within_lift extra _
  delay _ := within_lift extra _

theorem within_read : Within (σ := σ) extra (read c) := by
  refine .bind (.get fun left right padded => ?_) fun _ =>
    tracked_pollUpTo (padded_tracks c extra) (Nat.le_refl _) _
  obtain ⟨whole, rfl⟩ := padded
  have fits (extra : Bytes) :
      Transport.checkBounds (left.frame ++ extra) 0 Frame.maxLength = .ok () :=
    Transport.checkBounds_eq_ok_iff.mpr ⟨by simp, by simp [whole]⟩
  have fits' := fits []
  rw [List.append_nil] at fits'
  dsimp only
  rw [fits, fits']
  exact .pure fun _ _ padded => padded

/-- A read that succeeds had room for the longest frame. -/
theorem room_of_read {bus : Bus σ} {count : Nat} (ok : (perform (read c) bus).1 = .ok count) :
    Frame.maxLength ≤ bus.frame.length := by
  cases checked : Transport.checkBounds bus.frame 0 Frame.maxLength with
  | ok _ =>
    have inside := Transport.checkBounds_eq_ok_iff.mp checked
    omega
  | error cause =>
    have refused : perform (checkBounds 0 Frame.maxLength) bus = (.error (.transport cause), bus) := by
      rw [checkBounds, perform_bind_ok (perform_get bus), checked]
      rfl
    rw [read, perform_bind_error refused] at ok
    cases ok

/-- A read with room for the longest frame is a run, on every transport; what it returns is
how many bytes stand in the front of the buffer. -/
theorem read_run (before : Tapped σ) {frame : Bytes} (room : Frame.maxLength ≤ frame.length) :
    ∃ calls outcome, before.Hears (read c) (read c) frame calls ∧
      ReadRun c c.readMaxTries.toNat calls outcome ∧
      (perform (read c) ⟨before.transport, frame⟩).1 = outcome.map List.length ∧
      ∀ bytes, outcome = .ok bytes →
        (perform (read c) ⟨before.transport, frame⟩).2.frame.take bytes.length = bytes := by
  obtain ⟨result, after, known, calls, ⟨run, count⟩, record, runs⟩ := steady_read c before
  obtain ⟨rest, -, ran⟩ := runs (frame.take Frame.maxLength) (List.length_take_of_le room)
  rw [List.nil_append] at ran
  have padded : Padded (frame.drop Frame.maxLength) ⟨before, frame.take Frame.maxLength⟩
      ⟨before, frame⟩ := ⟨List.length_take_of_le room, by rw [List.take_append_drop]⟩
  obtain ⟨same, ended⟩ := ((within_read c _).perform padded).same
  rw [ran] at same ended
  obtain ⟨-, ended⟩ := ended
  have hears : before.Hears (read c) (read c) frame calls :=
    .of_between (coupled_read Tapped.coupled_untapped.toCoupled c) (by rw [ended]; exact record)
  have result_eq := congrArg Prod.fst hears
  have frame_eq := congrArg (fun ran => ran.2.frame) hears
  dsimp only at result_eq frame_eq
  refine ⟨calls, result.map fun _ => known, hears, run, ?_, fun bytes ok => ?_⟩
  · rw [← result_eq, ← same]
    cases result with
    | error e => rfl
    | ok length => exact congrArg Except.ok (count length rfl).symm
  · rw [← frame_eq, ended]
    cases result with
    | error e => cases ok
    | ok length =>
      cases ok
      dsimp only
      rw [List.append_assoc, List.take_left]

end

/-! ### Runs without failures -/

/-- The calls of a poll that finds the chip busy, and the wait after it. -/
def idlePoll (c : Config) (status : UInt8) : List Heard :=
  [.opened, .asked c (.ok ()) [status], .closed (.ok ()), .waited c.readRetryDelay]

/-- The window that decides a read, and what the read comes to. -/
inductive Decides (c : Config) : List Heard → Except Error Bytes → Prop
  | alarm {status : UInt8} (alarm : status &&& alarmBit ≠ 0) :
      Decides c [.opened, .asked c (.ok ()) [status], .closed (.ok ())]
        (.error (.protocol .chipAlarm))
  | startup {status : UInt8} (calm : status &&& alarmBit = 0)
      (startup : status &&& startupBit ≠ 0) :
      Decides c [.opened, .asked c (.ok ()) [status], .closed (.ok ())]
        (.error (.protocol .chipInStartup))
  | long {status length : UInt8} (readable : Readable status)
      (long : Frame.maxData < length.toNat) (code : UInt8) :
      Decides c [.opened, .asked c (.ok ()) [status], .header c (.ok ()) [length, code],
        .closed (.ok ())] (.error (.frame (.length length.toNat)))
  | frame {status length : UInt8} (readable : Readable status)
      (short : length.toNat ≤ Frame.maxData) (code : UInt8) {rest : Bytes}
      (whole : rest.length = length.toNat + 2) :
      Decides c [.opened, .asked c (.ok ()) [status], .header c (.ok ()) [length, code],
        .remainder c length (.ok ()) rest, .closed (.ok ())]
        (.ok (status :: length :: code :: rest))

/-- The polls that find the chip busy come first; then one window decides, or the tries are
used up. -/
def Law (c : Config) (tries : Nat) (calls : List Heard) (outcome : Except Error Bytes) : Prop :=
  ∃ busy : List UInt8, (∀ status ∈ busy, Idle status) ∧
    ((busy.length = tries ∧ calls = busy.flatMap (idlePoll c) ∧
        outcome = .error (.transport .notReady)) ∨
      busy.length < tries ∧ ∃ window, Decides c window outcome ∧
        calls = busy.flatMap (idlePoll c) ++ window)

section

variable {c : Config} {calls : List Heard}

theorem PollRun.decides {outcome : Except Error (Option Bytes)} (run : PollRun c calls outcome)
    (well : ∀ heard ∈ calls, heard.result = .ok ()) :
    (∃ status, Idle status ∧ outcome = .ok none ∧
      calls = [.opened, .asked c (.ok ()) [status], .closed (.ok ())]) ∨
    ∃ decided, Decides c calls decided ∧ outcome = decided.map some := by
  cases run with
  | refused cause => simp [Heard.silent] at well
  | unasked cause incoming closing => simp at well
  | headless readable cause incoming closing => simp at well
  | cut readable short code cause incoming closing => simp at well
  | alarm alarm closing =>
    obtain rfl : closing = .ok () := well (.closed closing) (by simp)
    exact .inr ⟨_, .alarm alarm, rfl⟩
  | startup calm startup closing =>
    obtain rfl : closing = .ok () := well (.closed closing) (by simp)
    exact .inr ⟨_, .startup calm startup, rfl⟩
  | busy idle closing =>
    obtain rfl : closing = .ok () := well (.closed closing) (by simp)
    exact .inl ⟨_, idle, rfl, rfl⟩
  | long readable long code closing =>
    obtain rfl : closing = .ok () := well (.closed closing) (by simp)
    exact .inr ⟨_, .long readable long code, rfl⟩
  | frame readable short code whole closing =>
    obtain rfl : closing = .ok () := well (.closed closing) (by simp)
    exact .inr ⟨_, .frame readable short code whole, rfl⟩

/-- A read without failures of the transport. -/
theorem ReadRun.law {tries : Nat} {outcome : Except Error Bytes}
    (run : ReadRun c tries calls outcome) (well : ∀ heard ∈ calls, heard.result = .ok ()) :
    Law c tries calls outcome := by
  induction run with
  | exhausted => exact ⟨[], nofun, .inl ⟨rfl, rfl, rfl⟩⟩
  | @failed tries calls e polled =>
    obtain ⟨status, -, ⟨⟩, -⟩ | ⟨decided, decides, same⟩ := polled.decides well
    cases decided with
    | ok bytes => cases same
    | error e =>
      cases same
      exact ⟨[], nofun, .inr ⟨Nat.succ_pos tries, calls, decides, rfl⟩⟩
  | @found tries calls bytes polled =>
    obtain ⟨status, -, ⟨⟩, -⟩ | ⟨decided, decides, same⟩ := polled.decides well
    cases decided with
    | ok bytes =>
      cases same
      exact ⟨[], nofun, .inr ⟨Nat.succ_pos tries, calls, decides, rfl⟩⟩
    | error e => cases same
  | @busy tries calls more outcome polled rest ih =>
    rw [List.forall_mem_append] at well
    obtain ⟨status, idle, -, rfl⟩ | ⟨decided, decides, same⟩ := polled.decides well.1
    · obtain ⟨busy, all, used | ⟨fewer, window, decides, rfl⟩⟩ :=
        ih (List.forall_mem_cons.mp well.2).2
      · obtain ⟨rfl, rfl, rfl⟩ := used
        exact ⟨status :: busy, List.forall_mem_cons.mpr ⟨idle, all⟩, .inl ⟨rfl, rfl, rfl⟩⟩
      · exact ⟨status :: busy, List.forall_mem_cons.mpr ⟨idle, all⟩,
          .inr ⟨Nat.succ_lt_succ fewer, window, decides, rfl⟩⟩
    · cases decided <;> cases same

end

end Bus

end SecureElement
