import SecureElement.Proofs.Coupling
import SecureElement.Proofs.Inputs

/-!
The responses of a chip to requests, and polls that are broken off.

A request discards whatever was not read and is always answered
(`Chip.exists_first_response`). A window that breaks off a response leaves it in the
queue (`Chip.settled_exchanged_of_short`), and no call of the stack makes the chip
corrupt one (`Chip.maintains_genuine`).
-/

namespace SecureElement

namespace Chip

variable [Primitives] {chip : Chip}

/-! ### Every request is answered -/

theorem responses_sendResult (chip : Chip) (packet : Bytes) :
    ∃ more, (chip.sendResult packet).responses = chip.responses ++ more := by
  unfold sendResult
  split
  · exact ⟨_, rfl⟩
  · dsimp only
    split
    · exact ⟨_, rfl⟩
    · rw [respondChunks_eq]
      exact ⟨_, rfl⟩

theorem responses_execute (chip : Chip) (packet : Bytes) :
    ∃ more, (chip.execute packet).responses = chip.responses ++ more := by
  rw [execute_eq]
  exact responses_sendResult _ _

/-- Whether responses were queued behind those of the chip, and at least one. -/
def Answered (chip after : Chip) : Prop :=
  ∃ first more, after.responses = chip.responses ++ first :: more

omit [Primitives] in
theorem answered_respond (chip : Chip) (status : Status) (data : Bytes) :
    chip.Answered (chip.respond status data) := ⟨_, [], rfl⟩

theorem answered_openCommand (chip : Chip) (session : Session) (frame : Bytes) :
    chip.Answered (chip.openCommand session frame) := by
  unfold openCommand
  split
  · rename_i packet counted _
    obtain ⟨more, executed⟩ :=
      responses_execute ({ chip with session := some counted }.respond .requestOk []) packet
    exact ⟨_, more, executed.trans (List.append_assoc ..)⟩
  · exact chip.dropSession.answered_respond _ _

theorem answered_serve (chip : Chip) (request : Frame.Request) :
    chip.Answered (chip.serve request) := by
  have responds (other : Chip) (same : other.responses = chip.responses) (status : Status)
      (data : Bytes) : chip.Answered (other.respond status data) :=
    ⟨_, [], congrArg (· ++ _) same⟩
  obtain ⟨id, data⟩ := request
  unfold serve
  dsimp only
  split
  · unfold getInfo
    split
    · split
      · exact chip.answered_respond _ _
      · dsimp only
        split <;> exact chip.answered_respond _ _
    · exact chip.answered_respond _ _
  · unfold handshake
    dsimp only
    split
    · exact responds _ rfl _ _
    · exact responds _ rfl _ _
  · unfold encryptedCommand
    split
    · exact responds _ rfl _ _
    · dsimp only
      split
      · exact responds _ rfl _ _
      · split
        · exact responds _ rfl _ _
        · exact answered_openCommand { chip with pending := [] } _ _
  · exact responds _ rfl _ _
  · unfold Chip.sleep
    split
    · exact chip.answered_respond _ _
    · split
      · exact responds _ rfl _ _
      · exact chip.answered_respond _ _
  · unfold startup
    split
    · exact responds _ rfl _ _
    · exact chip.answered_respond _ _
  · exact chip.answered_respond _ _

/-- A request discards whatever was not read, and it is answered. -/
theorem exists_first_response (sound : chip.Sound) (request : Frame.Request) :
    ∃ (status : Status) (data : Bytes) (rest : List Bytes), data.length ≤ Frame.maxData ∧
      (chip.served request).responses = frameResponse status data :: rest := by
  obtain ⟨first, rest, queued⟩ := answered_serve { chip with responses := [] } request
  have queued : (chip.served request).responses = first :: rest := queued
  have framed := (sound.served request).framed
  rw [queued] at framed
  obtain ⟨status, data, short, rfl⟩ := framed first (List.mem_cons_self ..)
  exact ⟨status, data, rest, short, by rw [queued, frameResponse_eq short]⟩

/-! ### Responses that are broken off -/

theorem settled_close_of_failed (failed : chip.window.failed = true) :
    chip.close.settled = chip.settled := by
  unfold close
  split
  · rfl
  · simp only [failed, if_true]
    rfl

/-- A poll of a busy chip takes nothing from the queue, nor does one that was broken
off. -/
theorem settled_close_of_early (early : chip.window.poll = some false ∨
      chip.window.poll = some true ∧
        chip.window.received.length < chip.window.outgoing.length) :
    chip.close.settled = chip.settled := by
  unfold close
  split
  · rfl
  · dsimp only
    split
    · rfl
    · rcases early with busy | ⟨ready, short⟩
      · rw [busy]
        rfl
      · rw [ready]
        dsimp only
        rw [if_neg (Nat.not_le_of_lt short)]
        rfl

omit [Primitives] in
/-- A transfer that fails spoils the window for good. -/
theorem failed_clocked (regions : List Bytes) (selected : chip.window.selected = true)
    (failed : chip.window.failed = true) : (chip.clocked regions).window.failed = true := by
  refine Bool.of_not_eq_false fun fine => ?_
  obtain ⟨fine, -⟩ := received_clocked chip regions selected fine
  rw [failed] at fine
  cases fine

omit [Primitives] in
/-- A window that begins as a poll clocks out nothing, or the response at the front. -/
theorem clocked_poll (chip : Chip) {w : Wire} {regions : List Bytes} (polls : Polls regions)
    (sound : w.failTransfers = 0) :
    ∃ w' : Wire, (chip.onWire w.opened).clocked regions = chip.onWire w' ∧
      w'.window.selected = true ∧ w'.window.received = regions.flatten ∧
      (w'.window.poll = some false ∨
        w'.window.poll = some true ∧ w'.window.outgoing.length = chip.front.length + 1) := by
  induction regions generalizing w with
  | nil => cases polls
  | cons region rest ih =>
    by_cases empty : region = []
    · subst empty
      have later : Polls rest := by simpa [Polls] using polls
      have first := congrArg Prod.snd (clock_collect chip [] (w := w.opened) rfl sound
        fun poll => List.cons_ne_nil _ _ poll.2.symm)
      obtain ⟨w', clocked, facts⟩ := ih (w := { w with transfers := w.transfers + 1 }) later sound
      exact ⟨w', (congrArg (·.clocked rest) first).trans clocked, facts⟩
    · obtain rfl : region = [Bus.responseRequest] := by simpa [Polls, empty] using polls
      by_cases busy : 0 < w.busyPolls
      · have first : ((chip.onWire w.opened).clock [Bus.responseRequest]).2 = chip.onWire w.busy :=
          congrArg Prod.snd (clock_poll_busy sound busy)
        have later : (chip.onWire w.busy).clocked rest = _ :=
          clocked_request chip rfl sound (.inl (List.cons_ne_nil _ _))
        have window := Wire.gathered_window w.busy rest
        refine ⟨w.busy.gathered rest, (congrArg (·.clocked rest) first).trans later, ?_⟩
        rw [window]
        exact ⟨rfl, rfl, .inl rfl⟩
      · have first := congrArg Prod.snd
          (clock_poll_ready chip sound (Nat.eq_zero_of_not_pos busy))
        generalize shown : chip.outgoing w.corruptResponse = bytes at first
        have later : (chip.onWire (w.polled bytes)).clocked rest = _ :=
          clocked_request chip rfl sound (.inl (List.cons_ne_nil _ _))
        have window := Wire.gathered_window (w.polled bytes) rest
        refine ⟨(w.polled bytes).gathered rest, (congrArg (·.clocked rest) first).trans later, ?_⟩
        rw [window]
        refine ⟨rfl, rfl, .inr ⟨rfl, ?_⟩⟩
        change bytes.length = _
        rw [← shown]
        unfold outgoing
        split
        · exact Bytes.length_alter ..
        · rfl

/-- A response that is broken off stays in the queue: a poll that clocks out fewer
bytes than the chip status and the response does nothing to the chip. -/
theorem settled_exchanged_of_short (chip : Chip) {regions : List Bytes}
    (closed : chip.window.selected = false) (polls : Polls regions)
    (short : regions.flatten.length ≤ chip.front.length) :
    (chip.exchanged regions).settled = chip.settled := by
  rw [exchanged, perform_select closed]
  by_cases faulty : 0 < chip.wire.opened.failTransfers
  · cases regions with
    | nil => cases polls
    | cons region rest =>
      have first := congrArg Prod.snd
        (clock_of_faulty (w := chip.wire.opened) chip region rfl faulty)
      have failed : ((chip.onWire chip.wire.opened.failed).clocked rest).window.failed = true :=
        failed_clocked rest rfl rfl
      have spoiled : (chip.onWire chip.wire.opened).clocked (region :: rest) =
          (chip.onWire chip.wire.opened.failed).clocked rest := congrArg (·.clocked rest) first
      rw [spoiled, settled_close_of_failed failed, settled_clocked]
      rfl
  · obtain ⟨w, clocked, selected, received, answer⟩ :=
      clocked_poll chip (w := chip.wire) polls (Nat.eq_zero_of_not_pos faulty)
    rw [clocked]
    refine settled_close_of_early (answer.imp_right fun shown => ⟨shown.1, ?_⟩)
    change w.window.received.length < w.window.outgoing.length
    rw [received, shown.2]
    exact Nat.lt_succ_of_le short

/-! ### A wire that corrupts nothing -/

theorem wire_processRequest (chip : Chip) (received : Bytes) :
    (chip.processRequest received).wire = chip.wire := by
  unfold processRequest
  dsimp only
  split
  · exact wire_served _ _
  · rfl
  · rfl

omit [Primitives] in
/-- A transfer leaves the bit that waits to be flipped, or it is flipped. -/
theorem corruptResponse_clock (chip : Chip) (region : Bytes) :
    (chip.clock region).2.faults.corruptResponse = chip.faults.corruptResponse ∨
      (chip.clock region).2.faults.corruptResponse = none := by
  unfold clock
  split
  · exact .inl rfl
  · dsimp only
    split
    · exact .inl rfl
    · dsimp only
      split
      · unfold startPoll
        split
        · exact .inl rfl
        · exact .inr rfl
      · exact .inl rfl

theorem corruptResponse_close (chip : Chip) :
    chip.close.faults.corruptResponse = chip.faults.corruptResponse := by
  unfold close
  split
  · rfl
  · dsimp only
    split
    · rfl
    · split
      · split <;> rfl
      · rfl
      · split
        · rfl
        · exact congrArg Wire.corruptResponse (wire_processRequest _ _)

/-- No call makes the chip corrupt a response. -/
theorem maintains_genuine :
    Transport.Maintains fun _ (chip : Chip) => chip.faults.corruptResponse = none where
  init _ genuine := genuine
  release _ genuine := genuine
  select chip genuine := by
    refine .of_both ?_
    by_cases selected : chip.window.selected = true
    · rw [chip.perform_select_of_open selected]
      exact genuine
    · rw [perform_select (Bool.of_not_eq_true selected)]
      exact genuine
  exchange few offset region timeout chip genuine := by
    obtain same | flipped := chip.corruptResponse_clock region
    · exact same.trans genuine
    · exact flipped
  deselect chip genuine := chip.corruptResponse_close.trans genuine
  delay _ _ genuine := genuine
  random count chip genuine := by
    obtain ⟨random, drawn⟩ := exists_random chip count
    rw [drawn]
    exact genuine

end Chip

end SecureElement
