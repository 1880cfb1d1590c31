import SecureElement.Proofs.Wire

/-!
What the host reads.

A poll clocks out the response at the front of the queue. On a wire without
faults the host reads it as it was queued, and it leaves the queue. With faults
the host may read nothing, or a frame that it refuses; what it accepts has the
status of the response and, if it is not the response, data of another length
(`Chip.Shown`). The status of a response is never read wrong, because its
checksum is checked.
-/

namespace SecureElement

namespace Chip

/-! ### What a poll clocks out -/

theorem frameResponse_eq {status : Status} {data : Bytes} (short : data.length ≤ Frame.maxData) :
    frameResponse status data = Frame.encode status.byte data := by
  unfold frameResponse
  rw [Frame.buildResponse, Frame.build_eq_ok status.byte short (Frame.fits_cleared short)]
  dsimp only
  rw [← Frame.length_encode status.byte data, Bytes.take_overlay_zero]

variable {chip : Chip} {status : Status} {data : Bytes}

/-- What is clocked out is the response at the front, or differs from it in one
byte: the chip status, the length, or another byte so that it is refused. -/
theorem outgoing_cases (short : data.length ≤ Frame.maxData)
    (front : chip.front = Frame.encode status.byte data) (corruptResponse : Option Nat) :
    chip.outgoing corruptResponse = Bus.readyBit :: Frame.encode status.byte data ∨
      corruptResponse ≠ none ∧
        (chip.outgoing corruptResponse = 0 :: Frame.encode status.byte data ∨
        (∃ length body, chip.outgoing corruptResponse =
            Bus.readyBit :: length :: status.byte :: body ∧
          body.length = data.length + 2 ∧ length.toNat ≠ data.length) ∨
        ∃ code body, chip.outgoing corruptResponse =
            Bus.readyBit :: UInt8.ofNat data.length :: code :: body ∧
          body.length = data.length + 2 ∧
          ∀ reply, Frame.parseResponse (chip.outgoing corruptResponse) ≠ .ok reply) := by
  cases corruptResponse with
  | none =>
    left
    rw [outgoing, front]
  | some i =>
    have altered : chip.outgoing (some i) = Bytes.alter
      (Bus.readyBit :: Frame.encode status.byte data) ((i + 1) % UInt64.size) (· ^^^ 0x01) := by
      rw [outgoing, front]
    rw [altered]
    generalize (i + 1) % UInt64.size = index
    match index with
    | 0 => exact .inr ⟨nofun, .inl rfl⟩
    | 1 =>
      refine .inr ⟨nofun, .inr (.inl ⟨UInt8.ofNat data.length ^^^ 0x01,
        data ++ Crc.encode (Crc.checksum (Frame.content status.byte data)), ?_, ?_, ?_⟩)⟩
      · rw [Frame.encode_eq]
        rfl
      · simp
      · intro same
        have kept := UInt8.toNat_inj.mp (same.trans (Frame.toNat_ofNat_length short).symm)
        exact Bytes.xor_ne_self (show (0x01 : UInt8) ≠ 0 by decide) _ kept
    | index + 2 =>
      by_cases inside : index + 2 < data.length + 5
      · have refused := Frame.parseResponse_alter Bus.readyBit status short
          (Bytes.xor_ne_self (show (0x01 : UInt8) ≠ 0 by decide)) (Nat.le_add_left 2 index) inside
        have size := Bytes.length_alter (Bus.readyBit :: Frame.encode status.byte data) (index + 2)
          (· ^^^ 0x01)
        rw [Frame.encode_eq] at refused size ⊢
        generalize rest : status.byte ::
          (data ++ Crc.encode (Crc.checksum (Frame.content status.byte data))) = behind
          at refused size ⊢
        have shape : Bytes.alter (Bus.readyBit :: UInt8.ofNat data.length :: behind) (index + 2)
            (· ^^^ 0x01) = Bus.readyBit :: UInt8.ofNat data.length ::
              Bytes.alter behind index (· ^^^ 0x01) := rfl
        rw [shape] at refused ⊢
        have long : (Bytes.alter behind index (· ^^^ 0x01)).length = data.length + 3 := by
          rw [Bytes.length_alter, ← rest]
          simp
        cases after : Bytes.alter behind index (· ^^^ 0x01) with
        | nil => simp [after] at long
        | cons code body =>
          rw [after] at refused long
          exact .inr ⟨nofun, .inr (.inr ⟨code, body, rfl, by simpa using long, refused⟩)⟩
      · left
        refine Bytes.alter_of_length_le ?_ _
        rw [List.length_cons, Frame.length_encode]
        unfold Frame.overhead
        omega

/-! ### What the host makes of it -/

/-- What the host may have read of a response, and the queue after that: the
response, or on a faulty wire what it refuses or takes for a response of the same
status with data of another length. -/
def Shown (chip : Chip) (status : Status) (data : Bytes) (clear : Prop) (bytes : Bytes)
    (queue : List Bytes) : Prop :=
  (Frame.parseResponse bytes = .ok ⟨status, data⟩ ∧ queue = chip.responses.tail) ∨
    ¬clear ∧ (queue = chip.responses ∨ queue = chip.responses.tail) ∧
      ∀ reply, Frame.parseResponse bytes = .ok reply →
        reply.status = status ∧ reply.data.length ≠ data.length

theorem Shown.weaker {clear clear' : Prop} {bytes : Bytes} {queue : List Bytes}
    (shown : chip.Shown status data clear' bytes queue) (earlier : clear → clear') :
    chip.Shown status data clear bytes queue :=
  shown.imp_right fun ⟨unclear, rest⟩ => ⟨unclear ∘ earlier, rest⟩

/-- What is accepted has the status byte and the length byte that were read. -/
theorem of_parseResponse_cons {first length : UInt8} {body : Bytes} {reply : Frame.Reply}
    (ok : Frame.parseResponse (first :: length :: status.byte :: body) = .ok reply) :
    reply.status = status ∧ reply.data.length = length.toNat := by
  obtain ⟨small, other, same⟩ := Frame.eq_encode_of_parseResponse ok
  rw [Frame.encode_eq] at same
  simp only [List.cons.injEq] at same
  obtain ⟨-, lengths, codes, -⟩ := same
  refine ⟨?_, ?_⟩
  · have read := Status.ofByte?_byte reply.status
    rw [← codes, Status.ofByte?_byte] at read
    exact (Option.some.inj read).symm
  · rw [lengths, Frame.toNat_ofNat_length small]

/-- The chip when a poll has clocked out `count` bytes of `size`: a response that
was read to the end leaves the queue. -/
def readOut (chip : Chip) (size count : Nat) : Chip :=
  if size ≤ count then { chip with responses := chip.responses.tail } else chip

theorem readOut_onWire (chip : Chip) (w : Wire) (size count : Nat) :
    (chip.onWire w).readOut size count = (chip.readOut size count).onWire w := by
  unfold readOut
  split <;> rfl

/-- A window in which a ready chip was polled. -/
theorem close_polled [Primitives] (chip : Chip) {w : Wire} (selected : w.window.selected = true)
    (sound : w.window.failed = false) (polled : w.window.poll = some true) :
    (chip.onWire w).close =
      (chip.readOut w.window.outgoing.length w.window.received.length).onWire w.closed := by
  refine (if_neg (by simp [onWire, selected])).trans ((if_neg (by simp [onWire, sound])).trans ?_)
  rw [← readOut_onWire]
  simp only [onWire, polled]
  rfl

/-- A response that was read in whole or in part is seen as `Shown` says. -/
theorem shown_of_read {body : Bytes} {length code : UInt8}
    {corruptResponse : Option Nat} {clear : Prop} (short : data.length ≤ Frame.maxData)
    (unclear : corruptResponse ≠ none → ¬clear)
    (front : chip.front = Frame.encode status.byte data)
    (shown : chip.outgoing corruptResponse = Bus.readyBit :: length :: code :: body) :
    ∃ queue, (chip.readOut body.length (length.toNat + 2)).settled =
        { chip.settled with responses := queue } ∧
      chip.settled.Shown status data clear
        (Bus.readyBit :: length :: code :: (Octets.fit (length.toNat + 2) body).val) queue := by
  have size := Frame.toNat_ofNat_length short
  rcases outgoing_cases short front corruptResponse with
    genuine | ⟨corrupt, busy | ⟨length', body', altered, long, other⟩ |
      ⟨code', body', altered, long, refused⟩⟩
  · rw [genuine, Frame.encode_eq] at shown
    simp only [List.cons.injEq, true_and] at shown
    obtain ⟨rfl, rfl, rfl⟩ := shown
    have whole : (data ++ Crc.encode (Crc.checksum (Frame.content status.byte data))).length =
      data.length + 2 := by simp
    rw [size, Octets.fit_val_of_length whole, ← Frame.encode_eq]
    refine ⟨chip.responses.tail, ?_, .inl ⟨Frame.parseResponse_encode _ short, rfl⟩⟩
    rw [readOut, if_pos (Nat.le_of_eq whole)]
    rfl
  · rw [busy] at shown
    cases shown
  · rw [altered] at shown
    simp only [List.cons.injEq, true_and] at shown
    obtain ⟨rfl, rfl, rfl⟩ := shown
    obtain ⟨queue, same, tails⟩ : ∃ queue, (chip.readOut body'.length (length'.toNat + 2)).settled =
        { chip.settled with responses := queue } ∧
        (queue = chip.responses ∨ queue = chip.responses.tail) := by
      unfold readOut
      split
      · exact ⟨_, rfl, .inr rfl⟩
      · exact ⟨_, rfl, .inl rfl⟩
    refine ⟨queue, same, .inr ⟨unclear corrupt, tails, fun reply ok => ?_⟩⟩
    obtain ⟨sameStatus, count⟩ := of_parseResponse_cons ok
    exact ⟨sameStatus, count ▸ other⟩
  · rw [altered] at shown refused
    simp only [List.cons.injEq, true_and] at shown
    obtain ⟨rfl, rfl, rfl⟩ := shown
    rw [size, Octets.fit_val_of_length long]
    refine ⟨chip.responses.tail, ?_, .inr ⟨unclear corrupt, .inr rfl, fun reply ok => ?_⟩⟩
    · rw [readOut, if_pos (Nat.le_of_eq long)]
      rfl
    · exact absurd ok (refused reply)

/-- The header of what is clocked out, if the chip seems ready. -/
theorem outgoing_header (short : data.length ≤ Frame.maxData)
    (front : chip.front = Frame.encode status.byte data) (corruptResponse : Option Nat) :
    (corruptResponse ≠ none ∧
        chip.outgoing corruptResponse = 0 :: Frame.encode status.byte data) ∨
      ∃ length code body, chip.outgoing corruptResponse = Bus.readyBit :: length :: code :: body ∧
        body ≠ [] ∧ (Frame.maxData < length.toNat → corruptResponse ≠ none) := by
  have some {body : Bytes} (long : body.length = data.length + 2) : body ≠ [] :=
    List.ne_nil_of_length_eq_add_one long
  rcases outgoing_cases short front corruptResponse with
    genuine | ⟨corrupt, busy | ⟨length, body, altered, long, -⟩ | ⟨code, body, altered, long, -⟩⟩
  · rw [Frame.encode_eq] at genuine
    refine .inr ⟨_, _, _, genuine, some (by simp), fun beyond => ?_⟩
    rw [Frame.toNat_ofNat_length short] at beyond
    omega
  · exact .inl ⟨corrupt, busy⟩
  · exact .inr ⟨_, _, _, altered, some long, fun _ => corrupt⟩
  · exact .inr ⟨_, _, _, altered, some long, fun _ => corrupt⟩

/-- A response that was not read to the end stays in the queue. -/
theorem close_polled_early [Primitives] (chip : Chip) {w : Wire}
    (selected : w.window.selected = true) (sound : w.window.failed = false)
    (polled : w.window.poll = some true)
    (early : w.window.received.length < w.window.outgoing.length) :
    (chip.onWire w).close = chip.onWire w.closed := by
  rw [close_polled chip selected sound polled, readOut, if_neg (Nat.not_le_of_lt early)]

end Chip

namespace Bus

open Chip (Wire)

variable {c : Config} {bus : Bus Chip} {frame : Bytes} {chip : Chip} {w : Wire}

theorem perform_modifyFrame (change : Bytes → Bytes) (bus : Bus Chip) :
    perform (modifyFrame change) bus = (.ok (), ⟨bus.transport, change bus.frame⟩) := rfl

/-- Outcome of a poll: a frame, which only a corrupted response spoils, or on a faulty
wire a failure or a chip that seems busy. -/
def Polled (chip : Chip) (status : Status) (data : Bytes) (genuine clear : Prop) :
    Except Error (Option Nat) → Bus Chip → Prop
  | .ok (some count), after => ∃ queue, after.transport.settled = { chip with responses := queue } ∧
      chip.Shown status data genuine (after.frame.take count) queue
  | _, after => ¬clear ∧ after.transport.settled = chip

/-- Outcome of a number of polls: a frame, or a failure that is not possible on a
wire without faults if there is a poll. -/
def ReadOut (chip : Chip) (status : Status) (data : Bytes) (tries : Nat) (clear : Prop) :
    Except Error Nat → Bus Chip → Prop
  | .ok count, after => ∃ queue, after.transport.settled = { chip with responses := queue } ∧
      chip.Shown status data clear (after.frame.take count) queue
  | .error _, after => ¬(clear ∧ 0 < tries) ∧ after.transport.settled = chip

theorem ReadOut.weaker {chip : Chip} {status : Status} {data : Bytes} {tries tries' : Nat}
    {clear clear' : Prop} {result : Except Error Nat} {after : Bus Chip}
    (outcome : ReadOut chip status data tries' clear' result after)
    (earlier : clear → clear') (fewer : clear → 0 < tries → 0 < tries') :
    ReadOut chip status data tries clear result after := by
  cases result with
  | ok count =>
    obtain ⟨queue, same, shown⟩ := outcome
    exact ⟨queue, same, shown.weaker earlier⟩
  | error e => exact ⟨fun h => outcome.1 ⟨earlier h.1, fewer h.1 h.2⟩, outcome.2⟩

variable [Primitives]

/-- A transfer in a window that has begun: what is left to be sent stands where
blanks stood. -/
theorem perform_transferOrClose_blank (c : Config) (chip : Chip) {w : Wire} {offset count : Nat}
    (blank : Octets count) (fits : frame.length = Frame.maxLength)
    (inside : offset + count ≤ Frame.maxLength) (selected : w.window.selected = true)
    (sound : w.failTransfers = 0) (begun : w.window.received ≠ []) :
    ∃ region frame', perform (transferOrClose c offset count)
          ⟨chip.onWire w, frame.overlay offset blank.val⟩ =
        (.ok (), ⟨chip.onWire (w.collected region), frame'⟩) ∧
      region.length = count ∧ frame'.length = Frame.maxLength ∧
      frame'.take (offset + count) = frame.take offset ++
        (Octets.fit count (w.window.outgoing.drop w.window.received.length)).val := by
  have blanked : (frame.overlay offset blank.val).length = Frame.maxLength :=
    (Bytes.length_overlay (by rw [blank.property]; omega)).trans fits
  have before : (frame.overlay offset blank.val).take offset = frame.take offset :=
    Bytes.take_overlay_of_le (by omega) (Nat.le_refl offset)
  generalize frame.overlay offset blank.val = blanks at blanked before
  have region : (blanks.slice offset count).length = count :=
    Bytes.length_slice (blanked.symm ▸ inside)
  have clocked := Chip.clock_collect chip (blanks.slice offset count) selected sound
    (fun poll => begun poll.1)
  rw [region] at clocked
  generalize Octets.fit count (w.window.outgoing.drop w.window.received.length) = answer at clocked
  refine ⟨_, _, perform_transferOrClose_ok blanked inside clocked, region, ?_, ?_⟩
  · exact (Bytes.length_overlay (by rw [answer.property]; omega)).trans blanked
  · rw [← before, ← Bytes.take_overlay (by omega), answer.property]

/-- The header of a frame is read behind its chip status. -/
theorem perform_header (c : Config) (chip : Chip) (w : Wire) {first : UInt8}
    (length code : UInt8) (body : Bytes) (fits : frame.length = Frame.maxLength)
    (sound : w.failTransfers = 0) (status : frame.take 1 = [first]) :
    ∃ region frame', perform (transferOrClose c 1 2)
          ⟨chip.onWire (w.polled (first :: length :: code :: body)), frame.overlay 1 [0, 0]⟩ =
        (.ok (), ⟨chip.onWire ((w.polled (first :: length :: code :: body)).collected region),
          frame'⟩) ∧
      region.length = 2 ∧ frame'.length = Frame.maxLength ∧
      frame'.take 3 = [first, length, code] ∧ frame'.getD 1 0 = length := by
  obtain ⟨region, frame', read, size, fits', front⟩ := perform_transferOrClose_blank c chip
    (w := w.polled (first :: length :: code :: body)) (⟨[0, 0], rfl⟩ : Octets 2) fits
    (show 1 + 2 ≤ Frame.maxLength by decide) rfl sound (List.cons_ne_nil _ _)
  rw [status] at front
  refine ⟨region, frame', read, size, fits', front, ?_⟩
  rw [List.getD_eq_getElem?_getD, ← List.getElem?_take_of_lt (show 1 < 1 + 2 by decide), front]
  rfl

/-- The rest of a frame is read in the window of its chip status. -/
theorem perform_readFrame (chip : Chip) (w : Wire) {first length : UInt8} (code : UInt8)
    (body : Bytes) (fits : frame.length = Frame.maxLength) (sound : w.failTransfers = 0)
    (status : frame.take 1 = [first]) (short : length.toNat ≤ Frame.maxData) :
    ∃ w' frame', perform (readFrame c)
          ⟨chip.onWire (w.polled (first :: length :: code :: body)), frame⟩ =
        (.ok (length.toNat + 5),
          ⟨(chip.readOut body.length (length.toNat + 2)).onWire w', frame'⟩) ∧
      frame'.length = Frame.maxLength ∧ w'.window.selected = false ∧ (w.Clear → w'.Clear) ∧
      frame'.take (length.toNat + 5) =
        first :: length :: code :: (Octets.fit (length.toNat + 2) body).val ∧
      w'.delayed = w.delayed := by
  have limit : Frame.maxLength = Frame.maxData + 5 := rfl
  obtain ⟨region, frame₁, header, size, fits₁, front, second⟩ :=
    perform_header c chip w length code body fits sound status
  generalize shown : w.polled (first :: length :: code :: body) = w₀ at header ⊢
  have sound₀ : w₀.failTransfers = 0 := shown ▸ sound
  have received : w₀.window = ⟨true, [responseRequest], first :: length :: code :: body,
    some true, false⟩ := shown ▸ rfl
  obtain ⟨region', frame₂, rest, size', fits₂, whole⟩ := perform_transferOrClose_blank c chip
    (w := w₀.collected region) ⟨List.replicate (length.toNat + 2) 0, List.length_replicate⟩ fits₁
    (show 3 + (length.toNat + 2) ≤ Frame.maxLength by omega) (by rw [Wire.collected, received])
    sound₀ (by rw [Wire.collected, received]; exact List.cons_ne_nil _ _)
  have window : ((w₀.collected region).collected region').window =
      ⟨true, [responseRequest] ++ region ++ region', first :: length :: code :: body, some true,
        false⟩ := by
    rw [Wire.collected, Wire.collected, received]
  have left : (w₀.collected region).window.outgoing.drop
      (w₀.collected region).window.received.length = body := by
    rw [Wire.collected, received, List.length_append, size]
    rfl
  rw [left, front, show 3 + (length.toNat + 2) = length.toNat + 5 by omega] at whole
  have closed := Chip.close_polled chip (w := (w₀.collected region).collected region')
    (by rw [window]) (by rw [window]) (by rw [window])
  have read : chip.readOut (first :: length :: code :: body).length
      ([responseRequest] ++ region ++ region').length =
        chip.readOut body.length (length.toNat + 2) := by
    have whole : ([responseRequest] ++ region ++ region').length = length.toNat + 2 + 3 := by
      rw [List.length_append, List.length_append, size, size', List.length_singleton]
      omega
    simp only [whole, List.length_cons, Chip.readOut, Nat.add_assoc, Nat.add_le_add_iff_right]
  rw [window, read] at closed
  refine ⟨((w₀.collected region).collected region').closed, frame₂, ?_, fits₂, rfl,
    fun clear => ?_, whole, ?_⟩
  · unfold readFrame
    rw [perform_bind_ok (perform_modifyFrame _ _)]
    dsimp only at rest ⊢
    rw [perform_bind_ok header, perform_bind_ok (perform_get _)]
    dsimp only
    rw [second, if_neg (by omega), perform_bind_ok (perform_modifyFrame _ _)]
    dsimp only
    rw [perform_bind_ok rest, perform_bind_ok (perform_lift_deselect _), perform_pure]
    dsimp only
    rw [closed]
  · rw [← shown]
    exact ⟨clear.transfers, clear.polls, rfl⟩
  · rw [← shown]
    rfl

/-- A frame of more data than a frame can have is not read. -/
theorem perform_readFrame_of_long (chip : Chip) (w : Wire) {first length : UInt8} (code : UInt8)
    {body : Bytes} (fits : frame.length = Frame.maxLength) (sound : w.failTransfers = 0)
    (status : frame.take 1 = [first]) (some : body ≠ []) (long : Frame.maxData < length.toNat) :
    ∃ w' frame', perform (readFrame c)
          ⟨chip.onWire (w.polled (first :: length :: code :: body)), frame⟩ =
        (.error (.frame (.length length.toNat)), ⟨chip.onWire w', frame'⟩) ∧
      frame'.length = Frame.maxLength ∧ w'.window.selected = false := by
  obtain ⟨region, frame', header, size, fits', front, second⟩ :=
    perform_header c chip w length code body fits sound status
  have early : ([responseRequest] ++ region).length < (first :: length :: code :: body).length := by
    have positive := List.length_pos_iff.mpr some
    rw [List.length_append, size]
    simp only [List.length_cons, List.length_nil]
    omega
  have closed := Chip.close_polled_early chip
    (w := (w.polled (first :: length :: code :: body)).collected region) rfl rfl rfl early
  refine ⟨((w.polled (first :: length :: code :: body)).collected region).closed, frame', ?_,
    fits', rfl⟩
  unfold readFrame
  rw [perform_bind_ok (perform_modifyFrame _ _)]
  dsimp only
  rw [perform_bind_ok header, perform_bind_ok (perform_get _)]
  dsimp only
  rw [second, if_pos long, perform_bind_error (perform_abandon _ _)]
  dsimp only
  rw [closed]

/-- The first transfer of a poll. -/
theorem perform_firstTransfer (c : Config) {byte : UInt8} {w' : Wire}
    (fits : frame.length = Frame.maxLength) (asked : frame.slice 0 1 = [responseRequest])
    (clocked : (chip.onWire w.opened).clock [responseRequest] =
      ((.ok (), [byte]), chip.onWire w')) :
    ∃ frame', perform (transferOrClose c 0 1) ⟨chip.onWire w.opened, frame⟩ =
        (.ok (), ⟨chip.onWire w', frame'⟩) ∧
      frame'.length = Frame.maxLength ∧ frame'.take 1 = [byte] ∧ frame'.getD 0 0 = byte := by
  rw [← asked] at clocked
  refine ⟨frame.overlay 0 [byte], perform_transferOrClose_ok fits (by decide) clocked, ?_,
    Bytes.take_overlay_zero frame [byte], rfl⟩
  refine (Bytes.length_overlay ?_).trans fits
  rw [fits, List.length_singleton]
  decide

/-- A poll opens a window and asks for the chip status. -/
theorem perform_asking {α : Type} (next : Unit → BusM Chip α) (ready : bus.Ready) :
    ∃ frame, frame.length = Frame.maxLength ∧ frame.slice 0 1 = [responseRequest] ∧
      perform (modifyFrame (fun frame => frame.overlay 0 [responseRequest]) >>= fun _ =>
          lift Transport.select >>= next) bus =
        perform (next ()) ⟨bus.transport.onWire bus.transport.wire.opened, frame⟩ := by
  have fits : (bus.frame.overlay 0 [responseRequest]).length = Frame.maxLength :=
    (Bytes.length_overlay (by rw [ready.length]; decide)).trans ready.length
  have opened : perform (lift Transport.select : BusM Chip Unit)
      ⟨bus.transport, bus.frame.overlay 0 [responseRequest]⟩ = _ := perform_lift_select ready.closed
  refine ⟨_, fits, Bytes.take_overlay_zero bus.frame [responseRequest], ?_⟩
  rw [perform_bind_ok (perform_modifyFrame _ _), perform_bind_ok opened]

theorem perform_poll_of_faulty (c : Config) (ready : bus.Ready)
    (faulty : 0 < bus.transport.wire.failTransfers) :
    ∃ frame, frame.length = Frame.maxLength ∧ perform (poll c) bus =
      (.error (.transport .timeout),
        ⟨bus.transport.onWire bus.transport.wire.opened.failed.closed, frame⟩) := by
  obtain ⟨frame, fits, asked, asking⟩ := perform_asking _ ready
  refine ⟨frame.overlay 0 (frame.slice 0 1), ?_, asking.trans ?_⟩
  · exact (Bytes.length_overlay (by rw [asked, fits]; decide)).trans fits
  · exact perform_bind_error (perform_transferOrClose_of_faulty fits (by decide)
      (show bus.transport.wire.opened.window.selected = true from rfl) faulty)

/-- What a poll does with the chip status that is clocked out. -/
theorem perform_poll (c : Config) (ready : bus.Ready) {byte : UInt8} {w' : Wire}
    (clocked : (bus.transport.onWire bus.transport.wire.opened).clock [responseRequest] =
      ((.ok (), [byte]), bus.transport.onWire w')) :
    ∃ frame, frame.length = Frame.maxLength ∧ frame.take 1 = [byte] ∧
      (byte = 0 → perform (poll c) bus = (.ok none, ⟨(bus.transport.onWire w').close, frame⟩)) ∧
      (byte = readyBit → perform (poll c) bus =
        perform (readFrame c >>= fun count => pure (some count))
          ⟨bus.transport.onWire w', frame⟩) := by
  obtain ⟨blank, fits, asked, asking⟩ := perform_asking _ ready
  obtain ⟨frame, first, fits', status, shown⟩ := perform_firstTransfer c fits asked clocked
  refine ⟨frame, fits', status, ?_, ?_⟩
  · intro busy
    refine asking.trans ?_
    rw [perform_bind_ok first, perform_bind_ok (perform_get _)]
    dsimp only
    rw [shown, busy, if_neg (by decide), if_neg (by decide), if_pos (by decide),
      perform_bind_ok (perform_lift_deselect _), perform_pure]
  · intro isReady
    refine asking.trans ?_
    rw [perform_bind_ok first, perform_bind_ok (perform_get _)]
    dsimp only
    rw [shown, isReady, if_neg (by decide), if_neg (by decide), if_neg (by decide)]

/-- A poll that finds the chip ready reads a frame, unless its length is wrong. -/
theorem leads_poll {status : Status} {data : Bytes} (short : data.length ≤ Frame.maxData)
    (front : bus.transport.front = Frame.encode status.byte data) (ready : bus.Ready) :
    Leads (poll c) bus (Polled bus.transport.settled status data
      (bus.transport.wire.corruptResponse = none) bus.transport.wire.Clear) := by
  unfold Leads
  by_cases faulty : 0 < bus.transport.wire.failTransfers
  · have unclear : ¬bus.transport.wire.Clear := Wire.not_clear_of_faulty faulty
    obtain ⟨frame, fits, polled⟩ := perform_poll_of_faulty c ready faulty
    rw [polled]
    exact ⟨⟨⟨fits, rfl⟩, fun clear => absurd clear unclear⟩, unclear, rfl⟩
  have sound : bus.transport.wire.failTransfers = 0 := Nat.eq_zero_of_not_pos faulty
  by_cases busy : 0 < bus.transport.wire.busyPolls
  · have unclear : ¬bus.transport.wire.Clear := Wire.not_clear_of_busy busy
    obtain ⟨frame, fits, -, polled, -⟩ := perform_poll c ready (Chip.clock_poll_busy sound busy)
    rw [polled rfl]
    exact ⟨⟨⟨fits, rfl⟩, fun clear => absurd clear unclear⟩, unclear, rfl⟩
  have clocked := Chip.clock_poll_ready bus.transport sound (Nat.eq_zero_of_not_pos busy)
  have unclear : bus.transport.wire.corruptResponse ≠ none → ¬bus.transport.wire.Clear :=
    fun corrupt clear => corrupt clear.response
  rcases Chip.outgoing_header short front bus.transport.wire.corruptResponse with
    ⟨corrupt, shown⟩ | ⟨length, code, body, shown, some, beyond⟩
  · rw [shown] at clocked
    obtain ⟨frame, fits, -, polled, -⟩ := perform_poll c ready clocked
    have early : [responseRequest].length < (0 :: Frame.encode status.byte data).length := by
      simp [Frame.encode_eq]
    have closed := Chip.close_polled_early bus.transport
      (w := bus.transport.wire.polled (0 :: Frame.encode status.byte data)) rfl rfl rfl early
    rw [polled rfl]
    dsimp only
    rw [closed]
    exact ⟨⟨⟨fits, rfl⟩, fun clear => absurd clear (unclear corrupt)⟩, unclear corrupt, rfl⟩
  · rw [shown] at clocked
    obtain ⟨frame, fits, status', -, polled⟩ := perform_poll c ready clocked
    rw [polled rfl]
    by_cases fit : length.toNat ≤ Frame.maxData
    · obtain ⟨w', frame', read, fits', closed, clear, taken, -⟩ := perform_readFrame (c := c)
        bus.transport bus.transport.wire code body fits sound status' fit
      obtain ⟨queue, same, seen⟩ := Chip.shown_of_read short
        (fun corrupt genuine => corrupt genuine) front shown
      rw [perform_bind_ok read, perform_pure]
      refine ⟨⟨⟨fits', closed⟩, clear⟩, queue, same, ?_⟩
      rw [taken]
      exact seen
    · obtain ⟨w', frame', read, fits', closed⟩ := perform_readFrame_of_long (c := c)
        bus.transport bus.transport.wire code fits sound status' some (Nat.lt_of_not_le fit)
      have unclear := unclear (beyond (Nat.lt_of_not_le fit))
      rw [perform_bind_error read]
      exact ⟨⟨⟨fits', closed⟩, fun clear => absurd clear unclear⟩, unclear, rfl⟩

variable {status : Status} {data : Bytes} {settled : Chip}

theorem leads_pollUpTo (short : data.length ≤ Frame.maxData)
    (front : settled.front = Frame.encode status.byte data) (tries : Nat) (ready : bus.Ready)
    (same : bus.transport.settled = settled) :
    Leads (pollUpTo c tries) bus (ReadOut settled status data tries bus.transport.wire.Clear) := by
  induction tries generalizing bus with
  | zero =>
    exact .of_eq (perform_throw _ bus) (.refl ready) ⟨fun h => Nat.lt_irrefl 0 h.2, same⟩
  | succ tries ih =>
    have polled := leads_poll (c := c) short (same ▸ front) ready
    rw [same] at polled
    unfold pollUpTo
    refine polled.bind ?_ ?_
    · intro e after outcome
      exact ⟨fun h => outcome.1 h.1, outcome.2⟩
    · rintro (_ | count) after follows outcome
      · obtain ⟨unclear, kept⟩ := outcome
        have waited := follows_delay c.readRetryDelay follows.ready
        have again := ih waited.ready kept
        unfold Leads
        dsimp only
        rw [perform_bind_ok (perform_delay c.readRetryDelay after)]
        exact ⟨waited.trans again.1, again.2.weaker (fun clear => absurd clear unclear)
          (fun clear => absurd clear unclear)⟩
      · obtain ⟨queue, kept, shown⟩ := outcome
        exact .of_eq (perform_pure _ _) (.refl follows.ready)
          ⟨queue, kept, shown.weaker fun clear => clear.response⟩

theorem leads_read (short : data.length ≤ Frame.maxData)
    (front : settled.front = Frame.encode status.byte data) (ready : bus.Ready)
    (same : bus.transport.settled = settled) :
    Leads (read c) bus
      (ReadOut settled status data c.readMaxTries.toNat bus.transport.wire.Clear) := by
  have polled := leads_pollUpTo (c := c) short front c.readMaxTries.toNat ready same
  unfold read
  unfold Leads at polled ⊢
  rw [perform_bind_ok (perform_checkBounds ready.length (by decide))]
  exact polled

end Bus

namespace Link

open Bus

variable [Primitives] {c : Config} {bus : Bus Chip} {status : Status} {data : Bytes}
  {settled : Chip}

/-- Outcome of a read: the response, or on a faulty wire a reply of the same
status with data of another length, or a failure that is not possible on a wire
without faults if the chip is polled at all. -/
def Received (chip : Chip) (status : Status) (data : Bytes) (tries : Nat) (clear : Prop)
    (result : Except Error Frame.Reply) (after : Bus Chip) : Prop :=
  ∃ queue, (queue = chip.responses ∨ queue = chip.responses.tail) ∧
    after.transport.settled = { chip with responses := queue } ∧
    match result with
    | .ok reply => reply.status = status ∧ (reply.data = data ∧ queue = chip.responses.tail ∨
        ¬clear ∧ reply.data.length ≠ data.length)
    | .error _ => ¬(clear ∧ 0 < tries)

theorem leads_receive (short : data.length ≤ Frame.maxData)
    (front : settled.front = Frame.encode status.byte data) (ready : bus.Ready)
    (same : bus.transport.settled = settled) :
    Leads (receive c) bus
      (Received settled status data c.readMaxTries.toNat bus.transport.wire.Clear) := by
  have read : Leads (withRetries c (Bus.read c) c.transportRetries.toNat) bus
      (ReadOut settled status data c.readMaxTries.toNat bus.transport.wire.Clear) := by
    refine leads_withRetries ?_ ?_ ?_ _ ready same
    · intro other ready same
      exact leads_read short front ready same
    · intro clear cause after outcome
      exact outcome.2
    · intro clear clear' result after earlier outcome
      exact outcome.weaker earlier fun _ => id
  unfold receive
  refine read.bind ?_ ?_
  · intro e after outcome
    exact ⟨settled.responses, .inl rfl, outcome.2, outcome.1⟩
  · intro count after follows outcome
    obtain ⟨queue, kept, shown⟩ := outcome
    have stays := Follows.refl follows.ready
    unfold Leads
    rw [perform_bind_ok (perform_get after)]
    rcases shown with ⟨parsed, rfl⟩ | ⟨unclear, tails, only⟩
    · rw [parsed]
      exact ⟨stays, _, .inr rfl, kept, rfl, .inl ⟨rfl, rfl⟩⟩
    · cases parsed : Frame.parseResponse (after.frame.take count) with
      | error cause => exact ⟨stays, queue, tails, kept, fun h => unclear h.1⟩
      | ok reply =>
        obtain ⟨sameStatus, other⟩ := only reply parsed
        exact ⟨stays, queue, tails, kept, sameStatus, .inr ⟨unclear, other⟩⟩

end Link

end SecureElement
