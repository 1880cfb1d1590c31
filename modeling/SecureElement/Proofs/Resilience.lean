import SecureElement.Proofs.Checked.Chip
import SecureElement.Proofs.Entries
import SecureElement.Proofs.Responses

/-!
A chip withstands whatever comes over the wire.

The chip takes commands apart at two layers and keeps some of what it got: the part of a
command that has arrived, the last result, the contents of its memory. What holds of
these after every call, of any bytes and with any knobs turned in between, is
`Chip.Steady`: what has arrived is never a whole command, and nothing at all without a
session, and every slot of the memory that is not empty holds something that can have
been written to it. The accesses of a call are in range because this holds before it, so
none of them faults in any run (`Chip.checkedCalled_eq`), and what the chip then holds is
in order (`Chip.withstands`).
-/

namespace SecureElement

open Checked

/-! ### The memory -/

namespace Store

/-- Every memory slot that is not empty holds at least a byte, and no more than can be
written to it. -/
def Stocked (store : Store) : Prop :=
  ∀ (slot : Fin 512) (content : Bytes), store.memory.get slot = some content →
    1 ≤ content.length ∧ content.length ≤ Limit.memory

variable {store : Store}

theorem Stocked.valid (stocked : store.Stocked) : store.Valid :=
  fun slot content held => (stocked slot content held).2

theorem fresh_stocked (key : Key) : (fresh key).Stocked := by
  intro slot content held
  cases (get_memory_fresh key slot).symm.trans held

/-- What is written to a memory slot stands behind three bytes, and is not nothing. -/
theorem bounds_of_rMemDataWrite {data : Bytes} {outcome : Bytes × Store}
    (written : store.rMemDataWrite data = .ok outcome) :
    3 < data.length ∧ data.length ≤ 3 + Limit.memory := by
  by_contra outside
  have refused : data.length ≤ 3 ∨ 3 + Limit.memory < data.length := by omega
  rw [rMemDataWrite, if_pos refused] at written
  cases written

variable [Primitives]

/-- No command leaves a memory slot with nothing or too much in it. -/
theorem Stocked.execute (stocked : store.Stocked) (random : RandomSource) (packet : Bytes) :
    (store.execute random packet).2.1.Stocked := by
  cases packet with
  | nil => exact stocked
  | cons id data =>
    rw [execute_cons]
    dsimp only
    cases ran : store.run (random.draw (demand (id :: data))).1.val id data with
    | error code => exact stocked
    | ok outcome =>
      intro slot content held
      have held : outcome.2.read (.memory slot) = some content := held
      obtain same | ⟨entry, new, -, change, written⟩ := store.run_acts _ data id _ _ ran
      · rw [same] at held
        exact stocked slot content held
      · rw [written] at held
        by_cases here : entry = .memory slot
        · subst here
          rw [read_write] at held
          rw [held] at change
          generalize store.read (.memory slot) = old at change
          -- Of the commands that change a slot, one leaves something in it.
          cases change
          have bounds := bounds_of_rMemDataWrite ran
          rw [List.length_drop]
          omega
        · rw [read_write_of_ne _ fun same => here same.symm] at held
          exact stocked slot content held

end Store

/-! ### Between two calls -/

namespace Session

/-- Not yet a whole encrypted command: of its size, or of what its size says, something
is missing. -/
def Incomplete (arrived : Bytes) : Prop :=
  arrived.length < sizeLength ∨
    arrived.length < Bytes.ofLittleEndian (arrived.take sizeLength) + overhead

theorem Incomplete.nil : Incomplete [] := .inl Nat.two_pos

end Session

namespace Chip

/-- What holds of what a chip keeps from one call to the next. -/
structure Steady (chip : Chip) : Prop where
  idle : chip.session = none → chip.pending = []
  incomplete : Session.Incomplete chip.pending
  stocked : chip.store.Stocked
  recorded : chip.Recorded

variable {chip other : Chip}

/-- The queue, the window, the faults and the random source do not matter. -/
theorem Steady.like (steady : chip.Steady) (session : other.session = chip.session)
    (pending : other.pending = chip.pending) (store : other.store = chip.store)
    (last : other.lastResult = chip.lastResult) : other.Steady := by
  constructor
  · rw [session, pending]
    exact steady.idle
  · rw [pending]
    exact steady.incomplete
  · rw [store]
    exact steady.stocked
  · rw [Recorded, last]
    exact steady.recorded

/-- When no command is arriving, the session does not matter either. -/
theorem Steady.emptied (steady : chip.Steady) (pending : other.pending = [])
    (store : other.store = chip.store) (last : other.lastResult = chip.lastResult) :
    other.Steady := by
  constructor
  · intro
    exact pending
  · rw [pending]
    exact .nil
  · rw [store]
    exact steady.stocked
  · rw [Recorded, last]
    exact steady.recorded

theorem Steady.of_settled_eq (steady : chip.Steady) (same : other.settled = chip.settled) :
    other.Steady :=
  steady.like (congrArg Chip.session same :) (congrArg Chip.pending same :)
    (congrArg Chip.store same :) (congrArg Chip.lastResult same :)

theorem Steady.turn (steady : chip.Steady) (knob : Knob) : (knob.turn chip).Steady := by
  cases knob with
  | provision slot key => exact ⟨steady.idle, steady.incomplete, steady.stocked, steady.recorded⟩
  | _ => exact steady.like rfl rfl rfl rfl

theorem Steady.sleep (steady : chip.Steady) (data : Bytes) : (chip.sleep data).Steady := by
  unfold Chip.sleep
  split
  · exact steady.like rfl rfl rfl rfl
  · split
    · exact steady.emptied rfl rfl rfl
    · exact steady.like rfl rfl rfl rfl

theorem Steady.startup (steady : chip.Steady) (data : Bytes) : (chip.startup data).Steady := by
  unfold Chip.startup
  split
  · exact steady.emptied rfl rfl rfl
  · exact steady.like rfl rfl rfl rfl

theorem Steady.getInfo (steady : chip.Steady) (data : Bytes) : (chip.getInfo data).Steady := by
  unfold Chip.getInfo
  split
  · split
    · exact steady.like rfl rfl rfl rfl
    · dsimp only
      split <;> exact steady.like rfl rfl rfl rfl
  · exact steady.like rfl rfl rfl rfl

section

variable [Primitives]

theorem create_steady (suite : CipherSuite) (random : RandomSource) :
    (create suite random).Steady where
  idle _ := rfl
  incomplete := .nil
  stocked := Store.fresh_stocked defaultPairingKey
  recorded := nofun

theorem Steady.handshake (steady : chip.Steady) (data : Bytes) : (chip.handshake data).Steady := by
  unfold Chip.handshake
  dsimp only
  split <;> exact steady.emptied rfl rfl rfl

/-- The last result is as long as its packet makes it, tampered with or not. -/
theorem Steady.sendResult (steady : chip.Steady) {packet : Bytes}
    (short : packet.length ≤ 1 + Limit.ping) : (chip.sendResult packet).Steady := by
  obtain ⟨two, sixteen, eighteen⟩ := Session.sizes
  have most : Limit.ping = 4096 := rfl
  have whole : Session.maxFrame = 4130 := rfl
  unfold Chip.sendResult
  split
  case h_1 => exact steady.like rfl rfl rfl rfl
  case h_2 session held =>
    dsimp only
    split
    case h_1 => exact steady.emptied rfl rfl rfl
    case h_2 size genuine after sealed =>
      rw [respondChunks_eq]
      constructor
      · nofun
      · exact steady.incomplete
      · exact steady.stocked
      · intro frame last
        cases last
        rw [Session.length_of_protect sealed]
        simp only [List.length_append, List.length_replicate]
        omega

theorem Steady.execute (steady : chip.Steady) (packet : Bytes) : (chip.execute packet).Steady := by
  rw [execute_eq]
  apply Steady.sendResult
  · exact ⟨steady.idle, steady.incomplete, steady.stocked.execute chip.random packet,
      steady.recorded⟩
  · exact Store.length_result_le steady.stocked.valid chip.random packet

theorem Steady.openCommand (steady : chip.Steady) (empty : chip.pending = []) (session : Session)
    (frame : Bytes) : (chip.openCommand session frame).Steady := by
  unfold Chip.openCommand
  split
  · apply Steady.execute
    exact steady.emptied empty rfl rfl
  · exact steady.emptied rfl rfl rfl

/-- What has arrived is kept only while it is not whole. -/
theorem Steady.encryptedCommand (steady : chip.Steady) (chunk : Bytes) :
    (chip.encryptedCommand chunk).Steady := by
  have emptied : Steady { chip with pending := [] } := steady.emptied rfl rfl rfl
  unfold Chip.encryptedCommand
  split
  case h_1 => exact emptied.like rfl rfl rfl rfl
  case h_2 session held =>
    dsimp only
    split
    case isTrue missing =>
      constructor
      · intro none
        cases held.symm.trans none
      · exact missing
      · exact steady.stocked
      · exact steady.recorded
    case isFalse =>
      split
      · exact emptied.like rfl rfl rfl rfl
      · exact emptied.openCommand rfl _ _

theorem Steady.serve (steady : chip.Steady) (request : Frame.Request) :
    (chip.serve request).Steady := by
  unfold Chip.serve
  split
  · exact steady.getInfo _
  · exact steady.handshake _
  · exact steady.encryptedCommand _
  · exact steady.emptied rfl rfl rfl
  · exact steady.sleep _
  · exact steady.startup _
  · exact steady.like rfl rfl rfl rfl

theorem Steady.processRequest (steady : chip.Steady) (received : Bytes) :
    (chip.processRequest received).Steady := by
  have unread : Steady { chip with responses := [] } := steady.like rfl rfl rfl rfl
  unfold Chip.processRequest
  dsimp only
  split
  · exact unread.serve _
  · exact unread.like rfl rfl rfl rfl
  · exact unread.like rfl rfl rfl rfl

theorem Steady.close (steady : chip.Steady) : chip.close.Steady := by
  have closed : Steady { chip with window := { chip.window with
      selected := false, received := [], poll := none, failed := false } } :=
    steady.like rfl rfl rfl rfl
  unfold Chip.close
  split
  · exact steady
  · dsimp only
    split
    · exact closed
    · split
      · split
        · exact closed.like rfl rfl rfl rfl
        · exact closed
      · exact closed
      · split
        · exact closed
        · exact closed.processRequest _

/-- A chip stays steady, whatever reaches it. -/
theorem Steady.act (steady : chip.Steady) (input : Input) : (input.act chip).Steady := by
  cases input with
  | init => exact steady.like rfl rfl rfl rfl
  | release => exact steady.like rfl rfl rfl rfl
  | select => exact steady.of_settled_eq (select_opens chip).1
  | transfer region => exact steady.of_settled_eq (settled_clock chip region)
  | deselect => exact steady.close
  | wait duration => exact steady.like rfl rfl rfl rfl
  | draw count =>
    obtain ⟨random, drawn⟩ := exists_random chip count
    have same : Steady { chip with random } := steady.like rfl rfl rfl rfl
    exact same.of_settled_eq (congrArg settled drawn)
  | turn knob => exact steady.turn knob

end

/-! ### Calls -/

/-- A call that the chip gets as a transport, with the buffer that is exchanged in a
transfer, or a turn of a knob. -/
inductive Call where
  | init
  | release
  | select
  | transfer (frame : Bytes) (offset length : Nat) (timeout : UInt32)
  | deselect
  | wait (duration : UInt32)
  | draw (count : Nat)
  | turn (knob : Knob)

/-- What a call is for the chip: a transfer that is out of bounds does not reach it. -/
def Call.input? : Call → Option Input
  | init => some .init
  | release => some .release
  | select => some .select
  | transfer frame offset length _ =>
    match Transport.checkBounds frame offset length with
    | .ok () => some (.transfer (frame.slice offset length))
    | .error _ => none
  | deselect => some .deselect
  | wait duration => some (.wait duration)
  | draw count => some (.draw count)
  | turn knob => some (.turn knob)

variable [Primitives]

/-- The chip after a call. -/
def Call.act (chip : Chip) : Call → Chip
  | init => (perform Transport.init chip).2
  | release => (perform Transport.release chip).2
  | select => (perform Transport.select chip).2
  | transfer frame offset length timeout =>
    ((Transport.transfer frame offset length timeout).run chip).2
  | deselect => (perform Transport.deselect chip).2
  | wait duration => (Transport.delay duration chip).2
  | draw count => (perform (Transport.random count) chip).2
  | turn knob => knob.turn chip

/-- The chip after a call, its accesses checked. Only transfers and the end of a window
make any. -/
def Call.checkedAct (build : Build) (spoil : Bytes → Bytes) (chip : Chip) : Call → Checked Chip
  | transfer frame offset length _ => do
    let (_, chip) ← chip.checkedTransfer build frame offset length
    return chip
  | deselect => chip.checkedClose spoil
  | call => return call.act chip

/-- The chip after several calls. -/
def called (chip : Chip) (calls : List Call) : Chip :=
  calls.foldl Call.act chip

/-- The chip after several calls, their accesses checked. -/
def checkedCalled (build : Build) (spoil : Bytes → Bytes) (chip : Chip) (calls : List Call) :
    Checked Chip :=
  calls.foldlM (Call.checkedAct build spoil) chip

theorem Call.act_eq (chip : Chip) (call : Call) :
    call.act chip = match call.input? with
      | some input => input.act chip
      | none => chip := by
  cases call with
  | transfer frame offset length timeout =>
    simp only [act, input?, Transport.transfer]
    cases Transport.checkBounds frame offset length <;> rfl
  | _ => rfl

theorem called_eq (chip : Chip) (calls : List Call) :
    chip.called calls = chip.after (calls.filterMap Call.input?) := by
  induction calls generalizing chip with
  | nil => rfl
  | cons call rest ih =>
    rw [called, List.foldl_cons, ← called, ih, Call.act_eq, List.filterMap_cons]
    cases call.input? <;> rfl

/-- No call makes an access that faults. -/
theorem Call.checkedAct_eq {build : Build} (call : Call) (spoil : Bytes → Bytes)
    (steady : chip.Steady) (inRange : build = .checking → chip.InRange) :
    call.checkedAct build spoil chip = .ok (call.act chip) := by
  cases call with
  | transfer frame offset length timeout =>
    rw [checkedAct, checkedTransfer_eq inRange frame offset length timeout]
    rfl
  | deselect => exact chip.checkedClose_eq spoil steady.stocked.valid steady.recorded
  | _ => rfl

theorem Steady.called (steady : chip.Steady) (call : Call) : (call.act chip).Steady := by
  rw [Call.act_eq]
  cases call.input? with
  | none => exact steady
  | some input => exact steady.act input

/-- Turns no knob to an index that cannot be counted past. -/
def Call.InRange (call : Call) : Prop :=
  ∀ index, call = .turn (.corruptNextResponse index) → 1 + index < 2 ^ 64

omit [Primitives] in
theorem InRange.like {other : Chip} (inRange : chip.InRange)
    (same : other.faults.corruptResponse = chip.faults.corruptResponse) : other.InRange := by
  unfold Chip.InRange
  rw [same]
  exact inRange

/-- Only a knob sets the index of a bit that waits to be flipped. -/
theorem InRange.called (inRange : chip.InRange) {call : Call} (counts : call.InRange) :
    (call.act chip).InRange := by
  cases call with
  | init => exact inRange
  | release => exact inRange
  | select =>
    change Chip.InRange (perform Transport.select chip).2
    by_cases selected : chip.window.selected = true
    · rw [perform_select_of_open chip selected]
      exact inRange
    · rw [perform_select (Bool.of_not_eq_true selected)]
      exact inRange
  | transfer frame offset length timeout =>
    rw [Call.act_eq]
    simp only [Call.input?]
    cases Transport.checkBounds frame offset length with
    | error cause => exact inRange
    | ok =>
      obtain same | flipped := chip.corruptResponse_clock (frame.slice offset length)
      · exact inRange.like same
      · intro index waits
        cases flipped.symm.trans waits
  | deselect => exact inRange.like chip.corruptResponse_close
  | wait duration => exact inRange
  | draw count =>
    obtain ⟨random, drawn⟩ := exists_random chip count
    change Chip.InRange (perform (Transport.random count) chip).2
    rw [drawn]
    exact inRange
  | turn knob =>
    cases knob with
    | corruptNextResponse index =>
      intro index waits
      cases waits
      exact counts index rfl
    | _ => exact inRange

/-- No run of calls makes an access that faults. -/
theorem checkedCalled_eq {build : Build} (spoil : Bytes → Bytes) (steady : chip.Steady)
    (inRange : build = .checking → chip.InRange) {calls : List Call}
    (counts : build = .checking → ∀ call ∈ calls, call.InRange) :
    chip.checkedCalled build spoil calls = .ok (chip.called calls) := by
  induction calls generalizing chip with
  | nil => rfl
  | cons call rest ih =>
    have later := ih (steady.called call)
      (fun checking =>
        (inRange checking).called (counts checking call (List.mem_cons_self ..)))
      fun checking other member => counts checking other (List.mem_cons_of_mem call member)
    rw [checkedCalled, List.foldlM_cons, call.checkedAct_eq spoil steady inRange]
    exact later

/-! ### What is queued -/

omit [Primitives] in
/-- Every response in the queue was built, from data that a response has room for. -/
theorem Framed.exists_built {responses : List Bytes} {response : Bytes}
    (framed : Framed responses) (member : response ∈ responses) :
    ∃ (status : Status) (data : Bytes) (length : Nat) (buffer : Bytes),
      data.length ≤ Frame.maxData ∧
      Frame.buildResponse (List.replicate Frame.maxLength 0) status data = .ok (length, buffer) ∧
      response = buffer.take length := by
  obtain ⟨status, data, short, rfl⟩ := framed response member
  have built := Frame.build_eq_ok status.byte short (Frame.fits_cleared short)
  refine ⟨status, data, _, _, short, built, ?_⟩
  rw [← Frame.length_encode status.byte data]
  exact (Bytes.take_overlay_zero _ _).symm

theorem responses_processRequest_ne_nil (chip : Chip) (received : Bytes) :
    (chip.processRequest received).responses ≠ [] := by
  unfold processRequest
  dsimp only
  split
  case h_1 request _ =>
    obtain ⟨first, more, queued⟩ := answered_serve { chip with responses := [] } request
    rw [queued]
    exact List.cons_ne_nil _ _
  case h_2 => exact List.cons_ne_nil _ _
  case h_3 => exact List.cons_ne_nil _ _

/-- A window in which something came in, and that is no poll, is answered when it is
closed. -/
theorem responses_close_ne_nil (selected : chip.window.selected = true)
    (whole : chip.window.failed = false) (request : chip.window.poll = none)
    (some : chip.window.received ≠ []) : chip.close.responses ≠ [] := by
  unfold close
  simp only [selected, whole, request, if_neg some]
  exact responses_processRequest_ne_nil _ _

/-- After any calls, of any bytes, offsets and lengths and with any knobs turned, no
access has faulted; in a build that takes a sum that is too large for a fault, if no knob
was turned to an index that cannot be counted past. Without a session nothing of a command
has arrived, and with one never a whole command; every response was built from data that a
response has room for; an unbroken window that carries a request is answered; and every slot
of the memory that is not empty holds 1 to 444 bytes. -/
theorem withstands (suite : CipherSuite) (random : RandomSource) (spoil : Bytes → Bytes)
    (calls : List Call) :
    let chip := (create suite random).called calls
    (create suite random).checkedCalled .wrapping spoil calls = .ok chip ∧
    ((∀ index, .turn (.corruptNextResponse index) ∈ calls → 1 + index < 2 ^ 64) →
      (create suite random).checkedCalled .checking spoil calls = .ok chip) ∧
    (chip.session = none → chip.pending = []) ∧
    Session.Incomplete chip.pending ∧
    (∀ response ∈ chip.responses,
      ∃ (status : Status) (data : Bytes) (length : Nat) (buffer : Bytes),
        data.length ≤ Frame.maxData ∧
        Frame.buildResponse (List.replicate Frame.maxLength 0) status data = .ok (length, buffer) ∧
        response = buffer.take length) ∧
    (chip.window.selected = true → chip.window.failed = false → chip.window.poll = none →
      chip.window.received ≠ [] → chip.close.responses ≠ []) ∧
    ∀ (slot : Fin 512) (content : Bytes), chip.store.memory.get slot = some content →
      1 ≤ content.length ∧ content.length ≤ Limit.memory := by
  intro chip
  have reached : chip = (create suite random).after (calls.filterMap Call.input?) :=
    called_eq _ _
  have steady : chip.Steady := by
    rw [reached]
    exact after_induction (fun _ input _ steady => steady.act input) (create_steady suite random)
  have framed : Framed chip.responses := by
    rw [reached]
    exact (sound_after suite random _).framed
  have fresh : (create suite random).InRange := nofun
  have wrapped : (create suite random).checkedCalled .wrapping spoil calls = .ok chip := by
    apply checkedCalled_eq spoil (create_steady suite random) <;> exact nofun
  refine ⟨wrapped, fun inRange => ?_,
    steady.idle, steady.incomplete, fun response member => framed.exists_built member,
    responses_close_ne_nil, steady.stocked⟩
  refine checkedCalled_eq spoil (create_steady suite random) (fun _ => fresh) ?_
  rintro - call member index rfl
  exact inRange index member

end Chip

end SecureElement
