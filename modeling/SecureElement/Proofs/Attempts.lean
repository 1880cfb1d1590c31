import SecureElement.Proofs.Exchange
import SecureElement.Proofs.Unseen

/-!
Attempts over a wire on which transfers fail.

A window begins with the exchange of a piece that is put in the buffer for it. If
that transfer fails, nothing comes of the window but the piece in the buffer, and
the next attempt does what this one would have done. So as long as there are no
more failures than attempts to spare, they cost transfers and time and nothing
else; one failure more, and the chip has not noticed any of the attempts.
-/

namespace SecureElement

namespace Chip

variable {chip : Chip} {transfers duration : Nat}

/-! ### Transfers and time -/

/-- The chip after more transfers and a longer wait. -/
def aged (chip : Chip) (transfers duration : Nat) : Chip :=
  { chip with transfers := chip.transfers + transfers, delayed := chip.delayed + duration }

theorem aged_aged (chip : Chip) (transfers duration transfers' duration' : Nat) :
    (chip.aged transfers duration).aged transfers' duration' =
      chip.aged (transfers + transfers') (duration + duration') := by
  simp only [aged, Nat.add_assoc]

/-- What has nothing to do with the wire has nothing to do with transfers and time. -/
theorem aged_of_onWire (act : Chip → Chip)
    (apart : ∀ chip w, act (chip.onWire w) = (act chip).onWire w) (chip : Chip)
    (transfers duration : Nat) :
    act (chip.aged transfers duration) = (act chip).aged transfers duration := by
  have same : (act chip).wire = chip.wire :=
    (congrArg wire (apart chip chip.wire)).trans (wire_onWire _ _)
  have older := apart chip (chip.aged transfers duration).wire
  change act (chip.aged transfers duration) = (act chip).onWire
    { chip.wire with
      transfers := chip.wire.transfers + transfers
      delayed := chip.wire.delayed + duration } at older
  rw [older, ← same]
  rfl

section

variable [Primitives]

theorem processRequest_onWire (received : Bytes) (chip : Chip) (w : Wire) :
    (chip.onWire w).processRequest received = (chip.processRequest received).onWire w := by
  unfold processRequest
  split
  · exact serve_onWire { chip with responses := [] } w _
  · exact respond_onWire { chip with responses := [] } w _ _
  · exact respond_onWire { chip with responses := [] } w _ _

theorem close_aged (chip : Chip) (transfers duration : Nat) :
    (chip.aged transfers duration).close = chip.close.aged transfers duration := by
  unfold close
  rw [show (chip.aged transfers duration).window = chip.window from rfl]
  split
  · rfl
  · dsimp only
    split
    · rfl
    · split
      · split <;> rfl
      · rfl
      · split
        · rfl
        · exact aged_of_onWire (processRequest · _) (processRequest_onWire _)
            { chip with window := _ } _ _

end

theorem startPoll_aged (chip : Chip) (transfers duration : Nat) :
    (chip.aged transfers duration).startPoll = chip.startPoll.aged transfers duration := by
  unfold startPoll
  rw [show (chip.aged transfers duration).faults = chip.faults from rfl]
  split <;> rfl

/-- A transfer in an open window, once it is counted. -/
def carry (region : Bytes) (chip : Chip) : (Except TransportError Unit × Bytes) × Chip :=
  if 0 < chip.faults.failTransfers then
    ((.error .timeout, region), { chip with
      faults.failTransfers := chip.faults.failTransfers - 1
      window.failed := true })
  else
    shift region (if chip.window.received = [] ∧ region = [Bus.responseRequest] then
      chip.startPoll else chip)

theorem clock_eq (chip : Chip) (region : Bytes) :
    chip.clock region =
      if chip.window.selected = false then
        ((.error (.bus "transfer without chip select"), region), chip)
      else carry region (chip.aged 1 0) := rfl

theorem carry_aged (region : Bytes) (chip : Chip) (transfers duration : Nat) :
    carry region (chip.aged transfers duration) =
      Prod.map id (fun chip : Chip => chip.aged transfers duration) (carry region chip) := by
  unfold carry
  rw [show (chip.aged transfers duration).faults = chip.faults from rfl,
    show (chip.aged transfers duration).window = chip.window from rfl]
  split
  · rfl
  · split
    · rw [startPoll_aged]
      rfl
    · rfl

theorem clock_aged (chip : Chip) (region : Bytes) (transfers duration : Nat) :
    (chip.aged transfers duration).clock region =
      Prod.map id (fun chip : Chip => chip.aged transfers duration) (chip.clock region) := by
  rw [clock_eq, clock_eq, aged_aged, Nat.add_comm transfers, Nat.add_comm duration, ← aged_aged,
    carry_aged, show (chip.aged transfers duration).window = chip.window from rfl]
  split
  · rfl
  · rfl

/-- A transfer that does not fail is counted. -/
theorem clock_of_sound (selected : chip.window.selected = true)
    (sound : chip.faults.failTransfers = 0) (region : Bytes) :
    ∃ answer after, chip.clock region = ((.ok (), answer), after) ∧
      after.transfers = chip.transfers + 1 := by
  rw [clock_eq, if_neg (by simp [selected])]
  unfold carry
  rw [if_neg (by simp [aged, sound])]
  refine ⟨_, _, rfl, ?_⟩
  split
  · unfold startPoll
    split <;> rfl
  · rfl

/-- No operation of the chip sees transfers and time. -/
theorem unseen_aged [Primitives] (transfers duration : Nat) :
    Transport.Unseen fun chip : Chip => chip.aged transfers duration where
  select := .get (fun _ => rfl) fun _ => .ite (.bind (.throw _) fun _ => .modify fun _ => rfl)
    (.modify fun _ => rfl)
  deselect := .modify fun chip => close_aged chip transfers duration
  exchange _ region _ chip := clock_aged chip region transfers duration
  delay waited chip := by
    change ((), { chip.aged transfers duration with
      delayed := chip.delayed + duration + waited.toNat }) = ((), { chip with
        transfers := chip.transfers + transfers
        delayed := chip.delayed + waited.toNat + duration })
    rw [Nat.add_right_comm]
    rfl
  random count := by
    intro chip
    change perform (Transport.random count) (chip.aged transfers duration) =
      Prod.map id (fun chip : Chip => chip.aged transfers duration)
        (perform (Transport.random count) chip)
    simp only [Transport.random, perform_bind, perform_get]
    rw [show (chip.aged transfers duration).random = chip.random from rfl]
    rcases chip.random.tryDraw count with ⟨reason | bytes, random⟩
    · rfl
    · rfl
  entropy _ := rfl

/-! ### Readiness -/

/-- The next poll finds the chip ready: no poll is left that finds it busy, and if a bit is
left to be flipped in a response it is none of the chip status. (The index counts from the
byte after the chip status, which is hit only if counting past it overflows.) -/
structure Prompt (chip : Chip) : Prop where
  idle : chip.faults.busyPolls = 0
  status : ∀ i, chip.faults.corruptResponse = some i → (i + 1) % UInt64.size ≠ 0

theorem Prompt.outgoing_ne (prompt : chip.Prompt) (rest : Bytes) :
    chip.outgoing chip.faults.corruptResponse ≠ 0 :: rest := by
  have ready : Bus.readyBit ≠ 0 := by decide
  unfold outgoing
  cases corrupt : chip.faults.corruptResponse with
  | none => exact fun same => ready (List.cons.inj same).1
  | some i =>
    obtain ⟨index, behind⟩ := Nat.exists_eq_succ_of_ne_zero (prompt.status i corrupt)
    dsimp only
    rw [behind, Bytes.alter, List.modify_succ_cons]
    exact fun same => ready (List.cons.inj same).1

end Chip

namespace Bus

/-- The bus with a number of transfers that will fail. -/
def failing (bus : Bus Chip) (count : Nat) : Bus Chip :=
  bus.change fun chip => chip.failTransfers count

/-- The bus after more transfers and a longer wait. -/
def aged (bus : Bus Chip) (transfers duration : Nat) : Bus Chip :=
  bus.change fun chip => chip.aged transfers duration

theorem aged_aged (bus : Bus Chip) (transfers duration transfers' duration' : Nat) :
    (bus.aged transfers duration).aged transfers' duration' =
      bus.aged (transfers + transfers') (duration + duration') :=
  congrArg (Bus.mk · bus.frame)
    (Chip.aged_aged bus.transport transfers duration transfers' duration')

/-- The bus after a window that came to nothing: the piece that was put in the buffer is
left. -/
def restarted (bus : Bus Chip) (piece : Bytes) : Bus Chip :=
  ⟨{ bus.transport with window := .closed }, bus.frame.overlay 0 piece⟩

variable {bus : Bus Chip} {piece : Bytes}

theorem Ready.restarted (ready : bus.Ready) (fits : piece.length ≤ Frame.maxLength) :
    (bus.restarted piece).Ready :=
  ⟨(Bytes.length_overlay (by rwa [ready.length, Nat.zero_add])).trans ready.length, rfl⟩

theorem restarted_restarted (bus : Bus Chip) (piece : Bytes) :
    (bus.restarted piece).restarted piece = bus.restarted piece := by
  simp only [restarted, Bytes.overlay_zero_again]

variable [Primitives] {α : Type} (c : Config) {rest : BusM Chip α}

/-! ### Windows -/

/-- A window is opened on a buffer that holds the piece for its first transfer. -/
theorem perform_window (ready : bus.Ready) :
    perform (window c piece rest) bus = perform (transferOrClose c 0 piece.length >>= fun _ => rest)
      ⟨bus.transport.onWire bus.transport.wire.opened, bus.frame.overlay 0 piece⟩ := by
  have opened : perform (lift Transport.select : BusM Chip Unit)
    ⟨bus.transport, bus.frame.overlay 0 piece⟩ = _ := perform_lift_select ready.closed
  unfold window
  rw [perform_bind_ok (perform_modifyFrame _ _), perform_bind_ok opened]

/-- A window does not depend on what came to nothing before it. -/
theorem perform_window_restarted (ready : bus.Ready) (fits : piece.length ≤ Frame.maxLength) :
    perform (window c piece rest) (bus.restarted piece) = perform (window c piece rest) bus := by
  rw [perform_window c ready, perform_window c (ready.restarted fits)]
  have same : (bus.frame.overlay 0 piece).overlay 0 piece = bus.frame.overlay 0 piece :=
    Bytes.overlay_zero_again _ _
  unfold restarted
  rw [same]
  rfl

/-- If the first transfer of a window fails, nothing comes of the window. -/
theorem perform_window_of_faulty (ready : bus.Ready) (fits : piece.length ≤ Frame.maxLength)
    {count : Nat} :
    perform (window c piece rest) (bus.failing (count + 1)) =
      (.error (.transport .timeout), ((bus.restarted piece).failing count).aged 1 0) := by
  have ready' : (bus.failing (count + 1)).Ready := ⟨ready.length, ready.closed⟩
  have length : (bus.frame.overlay 0 piece).length = Frame.maxLength :=
    (ready.restarted fits).length
  have failed : perform (transferOrClose c 0 piece.length)
      ⟨(bus.failing (count + 1)).transport.onWire (bus.failing (count + 1)).transport.wire.opened,
        bus.frame.overlay 0 piece⟩ = _ :=
    perform_transferOrClose_of_faulty length (by rwa [Nat.zero_add]) rfl (Nat.succ_pos count)
  have held : (bus.frame.overlay 0 piece).slice 0 piece.length = piece :=
    Bytes.take_overlay_zero _ _
  rw [held, Bytes.overlay_zero_again] at failed
  rw [perform_window c ready']
  exact perform_bind_error failed

omit [Primitives] in
/-- What does not see the count of transfers does not lower it. -/
theorem transfers_le_of_blind {act : BusM Chip α}
    (blind : ∀ transfers, Blind (Bus.change fun chip => chip.aged transfers 0) act)
    (bus : Bus Chip) : bus.transport.transfers ≤ (perform act bus).2.transport.transfers := by
  have later := (blind bus.transport.transfers).perform { bus with transport.transfers := 0 }
  have counted : Bus.change (fun chip => chip.aged bus.transport.transfers 0)
      { bus with transport.transfers := 0 } = bus := by
    simp only [Bus.change, Chip.aged, Nat.zero_add, Nat.add_zero]
  rw [counted] at later
  rw [later]
  exact Nat.le_add_left _ _

/-- If no transfer fails, a window counts its first one and goes on. -/
theorem exists_perform_window (ready : bus.Ready) (fits : piece.length ≤ Frame.maxLength)
    (rest : BusM Chip α) : ∃ after : Bus Chip,
      after.transport.transfers = bus.transport.transfers + 1 ∧
        perform (window c piece rest) (bus.failing 0) = perform rest after := by
  have ready' : (bus.failing 0).Ready := ⟨ready.length, ready.closed⟩
  have opened : ((bus.failing 0).transport.onWire
      (bus.failing 0).transport.wire.opened).window.selected = true := rfl
  obtain ⟨answer, after, clocked, counted⟩ := Chip.clock_of_sound opened rfl
    ((bus.frame.overlay 0 piece).slice 0 piece.length)
  have length : (bus.frame.overlay 0 piece).length = Frame.maxLength :=
    (ready.restarted fits).length
  have transferred := perform_transferOrClose_ok (c := c) length
    (show 0 + piece.length ≤ Frame.maxLength by omega) clocked
  exact ⟨_, counted, (perform_window c ready').trans (perform_bind_ok transferred)⟩

end Bus

/-! ### Attempts -/

namespace Link

open Bus

section

variable {σ α : Type} [Transport σ] {c : Config} {act : BusM σ α} {bus : Bus σ}

/-- What ends otherwise than in a failure of the transport is not repeated. -/
theorem perform_withRetries_of_ended
    (ends : ∀ cause, (perform act bus).1 ≠ .error (.transport cause)) (retries : Nat) :
    perform (withRetries c act retries) bus = perform act bus := by
  cases retries with
  | zero => rfl
  | succ retries =>
    rw [withRetries, perform_tryCatch]
    rcases performed : perform act bus with ⟨e | a, after⟩
    · rw [performed] at ends
      cases e with
      | transport cause => exact absurd rfl (ends cause)
      | _ => rfl
    · rfl

/-- A request that is too long for a frame is refused at once. -/
theorem perform_send_of_long (id : UInt8) {data : Bytes} (long : Frame.maxData < data.length) :
    perform (send c id data) bus = (.error (.frame (.length data.length)), bus) := by
  have refused : perform (sendOnce c id data) bus =
      (.error (.frame (.length data.length)), bus) := by
    unfold sendOnce Frame.buildRequest Frame.build
    rw [perform_bind_ok (perform_get _), if_pos (.inl long)]
    rfl
  have ended : perform (send c id data) bus = _ :=
    perform_withRetries_of_ended (fun cause => by rw [refused]; exact nofun) _
  exact ended.trans refused

end

variable [Primitives] {α : Type} {c : Config} {piece : Bytes} {act : BusM Chip α} {bus : Bus Chip}

/-- Attempts that fail before they reach the transport cost the waits between them. -/
theorem perform_withRetries_of_still {cause : TransportError}
    (fails : ∀ duration, perform act (bus.aged 0 duration) =
      (.error (.transport cause), bus.aged 0 duration)) (retries : Nat) :
    perform (withRetries c act retries) bus =
      (.error (.transport cause), bus.aged 0 (retries * c.retryDelay.toNat)) := by
  induction retries generalizing bus with
  | zero =>
    rw [Nat.zero_mul]
    exact fails 0
  | succ retries ih =>
    have first : perform act bus = (.error (.transport cause), bus) := fails 0
    have later := @ih (bus.aged 0 c.retryDelay.toNat) fun duration => by
      rw [aged_aged]
      exact fails _
    rw [aged_aged, Nat.add_comm c.retryDelay.toNat, ← Nat.succ_mul] at later
    rw [withRetries, perform_tryCatch, first]
    dsimp only
    rw [if_pos (show isRetried (.transport cause) = true from rfl),
      perform_bind_ok (perform_delay c.retryDelay _)]
    exact later

/-- An action that can be attempted again: a window that begins with an exchange of a
piece. -/
structure Attempt (c : Config) (piece : Bytes) (act : BusM Chip α) : Prop where
  fits : piece.length ≤ Frame.maxLength
  window : ∃ rest, (∀ transfers, Blind (Bus.change fun chip => chip.aged transfers 0) rest) ∧
    ∀ bus : Bus Chip, bus.Ready → perform act bus = perform (Bus.window c piece rest) bus
  blind (transfers duration : Nat) : Blind (Bus.change fun chip => chip.aged transfers duration) act

namespace Attempt

variable (attempt : Attempt c piece act) (ready : bus.Ready)
include attempt ready

theorem perform_restarted : perform act (bus.restarted piece) = perform act bus := by
  obtain ⟨rest, -, same⟩ := attempt.window
  rw [same _ (ready.restarted attempt.fits), same _ ready,
    perform_window_restarted c ready attempt.fits]

theorem perform_of_faulty (count : Nat) :
    perform act (bus.failing (count + 1)) =
      (.error (.transport .timeout), ((bus.restarted piece).failing count).aged 1 0) := by
  obtain ⟨rest, -, same⟩ := attempt.window
  have ready' : (bus.failing (count + 1)).Ready := ⟨ready.length, ready.closed⟩
  rw [same _ ready', perform_window_of_faulty c ready attempt.fits]

theorem lt_transfers :
    bus.transport.transfers < (perform act (bus.failing 0)).2.transport.transfers := by
  obtain ⟨rest, blind, same⟩ := attempt.window
  have ready' : (bus.failing 0).Ready := ⟨ready.length, ready.closed⟩
  obtain ⟨after, counted, performed⟩ := exists_perform_window c ready attempt.fits rest
  rw [same _ ready', performed]
  refine Nat.lt_of_lt_of_le ?_ (transfers_le_of_blind blind after)
  exact counted ▸ Nat.lt_succ_self _

/-- After an attempt that failed the next one does what this one would have done. -/
theorem perform_again (transfers duration count : Nat) :
    perform act (((bus.restarted piece).aged transfers duration).failing count) =
      Prod.map id (Bus.aged · transfers duration) (perform act (bus.failing count)) := by
  have ready' : (bus.failing count).Ready := ⟨ready.length, ready.closed⟩
  have later := (attempt.blind transfers duration).perform ((bus.failing count).restarted piece)
  rw [attempt.perform_restarted ready'] at later
  exact later

/-- An attempt that fails is followed by the others. -/
theorem perform_withRetries_of_faulty (retries count : Nat) :
    perform (withRetries c act (retries + 1)) (bus.failing (count + 1)) =
      perform (withRetries c act retries)
        (((bus.restarted piece).aged 1 c.retryDelay.toNat).failing count) := by
  rw [withRetries, perform_tryCatch, attempt.perform_of_faulty ready]
  dsimp only
  rw [if_pos (show isRetried (.transport .timeout) = true from rfl),
    perform_bind_ok (perform_delay c.retryDelay _)]
  rfl

/-- As many failures as there are attempts to spare cost as many transfers and waits. -/
theorem within (ends : ∀ cause, (perform act (bus.failing 0)).1 ≠ .error (.transport cause))
    {retries count : Nat} (few : count ≤ retries) :
    perform (withRetries c act retries) (bus.failing count) =
      Prod.map id (Bus.aged · count (count * c.retryDelay.toNat))
        (perform act (bus.failing 0)) := by
  induction count generalizing bus retries with
  | zero =>
    rw [perform_withRetries_of_ended ends, Nat.zero_mul]
    rfl
  | succ count ih =>
    obtain ⟨retries, rfl⟩ : ∃ fewer, retries = fewer + 1 := ⟨retries - 1, by omega⟩
    have again := attempt.perform_again ready 1 c.retryDelay.toNat 0
    have ready' : ((bus.restarted piece).aged 1 c.retryDelay.toNat).Ready :=
      ⟨(ready.restarted attempt.fits).length, rfl⟩
    have later := ih ready' (by rwa [again]) (Nat.le_of_succ_le_succ few)
    rw [attempt.perform_withRetries_of_faulty ready, later, again]
    rcases perform act (bus.failing 0) with ⟨result, after⟩
    dsimp only [Prod.map]
    rw [aged_aged, Nat.add_comm 1, Nat.succ_mul, Nat.add_comm c.retryDelay.toNat]
    rfl

/-- If all attempts fail, the chip has not noticed them. -/
theorem beyond {retries count : Nat} (many : retries < count) :
    perform (withRetries c act retries) (bus.failing count) =
      (.error (.transport .timeout), ((bus.restarted piece).failing (count - (retries + 1))).aged
        (retries + 1) (retries * c.retryDelay.toNat)) := by
  induction retries generalizing bus count with
  | zero =>
    obtain ⟨count, rfl⟩ : ∃ fewer, count = fewer + 1 := ⟨count - 1, by omega⟩
    rw [withRetries, attempt.perform_of_faulty ready, Nat.zero_mul]
    rfl
  | succ retries ih =>
    obtain ⟨count, rfl⟩ : ∃ fewer, count = fewer + 1 := ⟨count - 1, by omega⟩
    have ready' : ((bus.restarted piece).aged 1 c.retryDelay.toNat).Ready :=
      ⟨(ready.restarted attempt.fits).length, rfl⟩
    have same : ((bus.restarted piece).aged 1 c.retryDelay.toNat).restarted piece =
        (bus.restarted piece).aged 1 c.retryDelay.toNat :=
      congrArg (Bus.aged · 1 c.retryDelay.toNat) (restarted_restarted bus piece)
    rw [attempt.perform_withRetries_of_faulty ready, ih ready' (Nat.lt_of_succ_lt_succ many), same,
      Nat.add_sub_add_right]
    have counted := aged_aged ((bus.restarted piece).failing (count - (retries + 1))) 1
      c.retryDelay.toNat (retries + 1) (retries * c.retryDelay.toNat)
    rw [Nat.add_comm 1, Nat.add_comm c.retryDelay.toNat, ← Nat.succ_mul] at counted
    exact congrArg (Prod.mk _) counted

end Attempt

/-! ### Requests -/

section

variable (id : UInt8) {data : Bytes}

/-- Sending a request is a window with the request and nothing that can fail after it. -/
theorem perform_sendOnce (short : data.length ≤ Frame.maxData) (ready : bus.Ready) :
    perform (sendOnce c id data) bus = perform (Bus.window c (Frame.encode id data)
      (lift Transport.deselect >>= fun _ =>
        if 0 < c.turnaroundDelay then delay c.turnaroundDelay else pure ())) bus := by
  have fits : data.length + Frame.overhead ≤ bus.frame.length := by
    rw [ready.length]
    unfold Frame.maxLength
    omega
  have written : (bus.frame.overlay 0 (Frame.encode id data)).length = Frame.maxLength :=
    (Bytes.length_overlay (by rw [Frame.length_encode]; omega)).trans ready.length
  have checked : perform (checkBounds 0 (data.length + Frame.overhead) : BusM Chip Unit)
      ⟨bus.transport, bus.frame.overlay 0 (Frame.encode id data)⟩ = _ :=
    perform_checkBounds written (by rw [← ready.length]; omega)
  unfold sendOnce
  rw [perform_bind_ok (perform_get bus)]
  simp only [Frame.buildRequest, Frame.build_eq_ok id short fits]
  rw [perform_bind_ok (perform_modifyFrame _ _)]
  unfold write Bus.window
  rw [if_neg (by unfold minLength Frame.overhead; omega), perform_bind_ok checked,
    perform_bind_ok (perform_modifyFrame _ _), Frame.length_encode]

theorem attempt_sendOnce (short : data.length ≤ Frame.maxData) :
    Attempt c (Frame.encode id data) (sendOnce c id data) where
  fits := by
    rw [Frame.length_encode]
    unfold Frame.maxLength
    omega
  window := ⟨_, fun transfers => .bind (blind_deselect (Chip.unseen_aged transfers 0)) fun _ =>
    .ite (blind_delay (Chip.unseen_aged transfers 0) _) (.pure _),
    fun _ ready => perform_sendOnce id short ready⟩
  blind transfers duration := blind_sendOnce (Chip.unseen_aged transfers duration) c id data

/-- If no transfer fails, a request is sent at the first attempt. -/
theorem sendOnce_succeeds (short : data.length ≤ Frame.maxData) (ready : bus.Ready) :
    (perform (sendOnce c id data) (bus.failing 0)).1 = .ok () := by
  have ready' : (bus.failing 0).Ready := ⟨ready.length, ready.closed⟩
  obtain ⟨after, -, performed⟩ := exists_perform_window c ready
    (attempt_sendOnce (c := c) id short).fits (lift Transport.deselect >>= fun _ =>
      if 0 < c.turnaroundDelay then delay c.turnaroundDelay else pure ())
  rw [perform_sendOnce id short ready', performed, perform_bind_ok (perform_lift_deselect _)]
  split <;> rfl

end

/-! ### Responses -/

theorem attempt_read (tries : 0 < c.readMaxTries.toNat) :
    Attempt c [responseRequest] (Bus.read c) where
  fits := Nat.le_of_ble_eq_true rfl
  window := by
    obtain ⟨more, counted⟩ : ∃ more, c.readMaxTries.toNat = more + 1 :=
      Nat.exists_eq_succ_of_ne_zero (Nat.ne_of_gt tries)
    obtain ⟨rest, polls, blind⟩ := exists_pollUpTo_eq_window (σ := Chip) c more
    refine ⟨rest, fun transfers => blind (Chip.unseen_aged transfers 0), fun bus ready => ?_⟩
    unfold Bus.read
    rw [perform_bind_ok (perform_checkBounds ready.length (by decide)), counted, polls]
  blind transfers duration := blind_read (Chip.unseen_aged transfers duration) c

/-- Without a poll, reading does not reach the transport. -/
theorem perform_read_of_never (never : c.readMaxTries.toNat = 0)
    (length : bus.frame.length = Frame.maxLength) :
    perform (Bus.read c) bus = (.error (.transport .notReady), bus) := by
  unfold Bus.read
  rw [perform_bind_ok (perform_checkBounds length (by decide)), never]
  rfl

/-- If no transfer fails and the chip is ready, the first poll reads a frame or one that is
refused. -/
theorem read_ends (sound : bus.Sound) (prompt : bus.transport.Prompt)
    (tries : 0 < c.readMaxTries.toNat) (cause : TransportError) :
    (perform (Bus.read c) (bus.failing 0)).1 ≠ .error (.transport cause) := by
  have ready' : (bus.failing 0).Ready := ⟨sound.length, sound.closed⟩
  obtain ⟨status, data, short, front⟩ := sound.chip.framed.front
  have front' : (bus.failing 0).transport.front = Frame.encode status.byte data := front
  have clocked := Chip.clock_poll_ready (w := (bus.failing 0).transport.wire)
    (bus.failing 0).transport rfl prompt.idle
  obtain ⟨length, code, body, shown, some⟩ : ∃ length code body,
      (bus.failing 0).transport.outgoing (bus.failing 0).transport.wire.corruptResponse =
        readyBit :: length :: code :: body ∧ body ≠ [] := by
    rcases Chip.outgoing_header short front' (bus.failing 0).transport.wire.corruptResponse with
      ⟨-, busy⟩ | ⟨length, code, body, shown, some, -⟩
    · exact absurd busy (prompt.outgoing_ne _)
    · exact ⟨length, code, body, shown, some⟩
  rw [shown] at clocked
  obtain ⟨frame, fits, first, -, polled⟩ := perform_poll c ready' clocked
  obtain ⟨more, counted⟩ : ∃ more, c.readMaxTries.toNat = more + 1 :=
    Nat.exists_eq_succ_of_ne_zero (Nat.ne_of_gt tries)
  have polled := polled rfl
  unfold Bus.read
  rw [perform_bind_ok (perform_checkBounds ready'.length (by decide)), counted, pollUpTo]
  by_cases fit : length.toNat ≤ Frame.maxData
  · obtain ⟨w, frame', read, -⟩ := perform_readFrame (c := c) (bus.failing 0).transport
      (bus.failing 0).transport.wire code body fits rfl first fit
    rw [perform_bind_ok read, perform_pure] at polled
    rw [perform_bind_ok polled]
    exact nofun
  · obtain ⟨w, frame', refused, -⟩ := perform_readFrame_of_long (c := c)
      (bus.failing 0).transport (bus.failing 0).transport.wire code fits rfl first some
      (Nat.lt_of_not_le fit)
    rw [perform_bind_error refused] at polled
    rw [perform_bind_error polled]
    exact nofun

end Link

end SecureElement
