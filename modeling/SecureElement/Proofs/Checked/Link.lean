import SecureElement.Handshake.KeySchedule
import SecureElement.Proofs.Checked.Frames

/-!
Accesses while requests are sent and responses received.

The length byte and the size of what follows come from the other side. They are
compared with what a frame can hold before they are used, so that every access is
within the frame buffer, and within the buffer that a result is collected in.
-/

namespace SecureElement

open Checked CheckedM

variable {σ : Type} [Transport σ]

/-! ### Chip-select windows -/

namespace Bus

/-- Changes the frame buffer. -/
def checkedModify (write : Bytes → Checked Bytes) : CheckedM (Bus σ) Error Unit :=
  .change fun bus => do return { bus with frame := ← write bus.frame }

/-- Reads the header and the rest of a frame in the window of its chip status. -/
def checkedReadFrame (c : Config) : CheckedM (Bus σ) Error Nat := do
  checkedModify fun frame => copy frame 1 3 [0, 0]
  plain (transferOrClose c 1 2)
  let length := (← look fun bus => byte bus.frame 1).toNat
  if Frame.maxData < length then
    plain (abandon (.frame (.length length)))
  let start ← look fun _ => add 64 3 length
  let stop ← look fun _ => add 64 start 2
  checkedModify fun frame => fill frame 3 stop 0
  let count ← look fun _ => add 64 length 2
  plain (transferOrClose c 3 count)
  plain (lift Transport.deselect)
  return stop

/-- One poll; `tries` were made before. -/
def checkedPoll (c : Config) (tries : Nat) : CheckedM (Bus σ) Error (Option Nat) := do
  checkedModify fun frame => put frame 0 responseRequest
  plain (lift Transport.select)
  plain (transferOrClose c 0 1)
  let status ← look fun bus => byte bus.frame 0
  if status &&& alarmBit ≠ 0 then
    plain (abandon (.protocol .chipAlarm))
  else if status &&& startupBit ≠ 0 then
    plain (abandon (.protocol .chipInStartup))
  else if status &&& readyBit = 0 then
    plain (lift Transport.deselect)
    let _ ← look fun _ => add 32 tries 1
    return none
  else
    return some (← checkedReadFrame c)

/-- Polls up to `left` more times. -/
def checkedPollUpTo (c : Config) : (left tries : Nat) → CheckedM (Bus σ) Error Nat
  | 0, _ => throw (.transport .notReady)
  | left + 1, tries => do
    match ← checkedPoll c tries with
    | some length => return length
    | none =>
      plain (delay c.readRetryDelay)
      checkedPollUpTo c left (tries + 1)

/-- Polls until the chip has a response and reads it. -/
def checkedRead (c : Config) : CheckedM (Bus σ) Error Nat := do
  plain (checkBounds 0 Frame.maxLength)
  checkedPollUpTo c c.readMaxTries.toNat 0

omit [Transport σ] in
theorem agrees_modify {write : Bytes → Checked Bytes} {change : Bytes → Bytes}
    (writes : ∀ frame : Bytes, frame.length = Frame.maxLength → write frame = .ok (change frame)) :
    Agrees Framed (checkedModify write : CheckedM (Bus σ) Error Unit) (modifyFrame change) := by
  refine .change fun bus framed => ?_
  rw [writes bus.frame framed]
  rfl

theorem agrees_readFrame (c : Config) :
    Agrees Framed (checkedReadFrame c : CheckedM (Bus σ) Error Nat) (readFrame c) := by
  unfold checkedReadFrame readFrame
  refine .bind (agrees_modify fun frame framed => ?_) (behaves_modifyFrame fun frame framed => ?_)
    fun _ _ => ?_
  · exact copy_eq rfl (by omega) (by rw [framed]; decide)
  · rw [Bytes.length_overlay (by rw [framed]; decide), framed]
  refine .bind (.plain _) (behaves_transferOrClose c 1 2) fun _ _ => ?_
  refine .look_bind (fun bus framed => byte_eq (framed ▸ by decide)) fun bus _ => ?_
  refine .ite (fun _ => .bind (Q := fun _ => False) (.plain _) (behaves_abandon trivial) nofun)
    fun short => ?_
  have inside : (bus.frame.getD 1 0).toNat ≤ 252 := Nat.le_of_not_lt short
  refine .calc_bind (add_eq (by omega)) (.calc_bind (add_eq (by omega)) ?_)
  have room : Frame.maxLength = 257 := rfl
  rw [Nat.add_assoc 3, Nat.add_comm 3]
  refine .bind (agrees_modify fun frame framed => ?_) (behaves_modifyFrame fun frame framed => ?_)
    fun _ _ => .calc_bind (add_eq (by omega)) ?_
  · rw [fill_eq (by omega) (by omega), Nat.add_sub_cancel]
  · rw [Bytes.length_overlay ?_, framed]
    rw [framed, List.length_replicate]
    omega
  refine .bind (.plain _) (behaves_transferOrClose c 3 _) fun _ _ => ?_
  exact .bind (.plain _) (behaves_lift _) fun _ _ => .pure _

theorem agrees_poll (c : Config) {tries : Nat} (few : tries + 1 < 2 ^ 32) :
    Agrees Framed (checkedPoll c tries : CheckedM (Bus σ) Error (Option Nat)) (poll c) := by
  unfold checkedPoll poll
  refine .bind (agrees_modify fun frame framed => ?_) (behaves_modifyFrame fun frame framed => ?_)
    fun _ _ => ?_
  · exact put_eq (by rw [framed]; decide)
  · rw [Bytes.length_overlay (by rw [framed]; decide), framed]
  refine .bind (.plain _) (behaves_lift _) fun _ _ => ?_
  refine .bind (.plain _) (behaves_transferOrClose c 0 1) fun _ _ => ?_
  refine .look_bind (fun bus framed => byte_eq (framed ▸ by decide)) fun bus _ => ?_
  refine .ite (fun _ => .plain _) fun _ => ?_
  refine .ite (fun _ => .plain _) fun _ => ?_
  refine .ite (fun _ => ?_) fun _ => ?_
  · exact .bind (.plain _) (behaves_lift _) fun _ _ => .calc_bind (add_eq few) (.pure _)
  · exact .bind (agrees_readFrame c) (behaves_readFrame c) fun _ _ => .pure _

theorem agrees_pollUpTo (c : Config) {left tries : Nat} (few : left + tries < 2 ^ 32) :
    Agrees Framed (checkedPollUpTo c left tries : CheckedM (Bus σ) Error Nat)
      (pollUpTo c left) := by
  induction left generalizing tries with
  | zero => exact .throw _
  | succ left ih =>
    refine .bind (agrees_poll c (by omega)) (behaves_poll c) fun length? _ => ?_
    cases length? with
    | some length => exact .pure _
    | none => exact .bind (.plain _) (behaves_delay _) fun _ _ => ih (by omega)

theorem agrees_read (c : Config) :
    Agrees Framed (checkedRead c : CheckedM (Bus σ) Error Nat) (read c) :=
  .bind (.plain _) (behaves_checkBounds 0 _) fun _ _ =>
    agrees_pollUpTo c (by have := c.readMaxTries.toNat_lt; omega)

end Bus

/-! ### Requests and responses -/

namespace Handshake

/-- A request: an ephemeral public key and a pairing slot, written into a buffer. -/
def checkedRequest (ephemeral : Octets 32) (slot : UInt8) : Checked Bytes := do
  let request ← copy (List.replicate requestLength 0) 0 32 ephemeral.val
  put request 32 slot

theorem checkedRequest_eq (ephemeral : Octets 32) (slot : UInt8) :
    checkedRequest ephemeral slot = .ok (ephemeral.val ++ [slot]) := by
  obtain ⟨blank, cleared⟩ : ∃ blank : Bytes, blank = List.replicate requestLength 0 := ⟨_, rfl⟩
  have room : blank.length = 33 := cleared ▸ List.length_replicate
  have key := ephemeral.property
  have kept := Bytes.length_overlay (show 0 + ephemeral.val.length ≤ blank.length by omega)
  have joined : (blank.overlay 0 ephemeral.val).overlay (0 + ephemeral.val.length) [slot] =
      blank.overlay 0 (ephemeral.val ++ [slot]) := Bytes.overlay_overlay (by omega)
  have whole : blank.overlay 0 (ephemeral.val ++ [slot]) = ephemeral.val ++ [slot] :=
    Bytes.overlay_whole (by rw [List.length_append, key, room]; rfl)
  rw [Nat.zero_add, key, whole] at joined
  rw [checkedRequest, ← cleared, copy_eq key (by omega) (by omega), ok_bind, put_eq (by omega),
    joined]

end Handshake

namespace Link

open Bus

/-- Makes an attempt and, as long as the transport fails, up to `left` more; `tries`
were repeated before. -/
def checkedRetries {α : Type} (c : Config) (attempt : CheckedM (Bus σ) Error α) :
    (left tries : Nat) → CheckedM (Bus σ) Error α
  | 0, _ => attempt
  | left + 1, tries =>
    tryCatch attempt fun e => do
      if isRetried e then
        let tries ← look fun _ => add 32 tries 1
        plain (Bus.delay c.retryDelay)
        checkedRetries c attempt left tries
      else throw e

/-- Builds a request in the buffer and writes it. -/
def checkedSendOnce (c : Config) (id : UInt8) (data : Bytes) : CheckedM (Bus σ) Error Unit := do
  match ← look fun bus => Frame.checkedBuildRequest bus.frame id data with
  | .error cause => throw (.frame cause)
  | .ok (length, frame) =>
    plain (Bus.modifyFrame fun _ => frame)
    plain (Bus.write c length)

/-- Writes a request. -/
def checkedSend (c : Config) (id : UInt8) (data : Bytes) : CheckedM (Bus σ) Error Unit :=
  checkedRetries c (checkedSendOnce c id data) c.transportRetries.toNat 0

/-- Reads a response. -/
def checkedReceive (c : Config) : CheckedM (Bus σ) Error Frame.Reply := do
  let length ← checkedRetries c (Bus.checkedRead c) c.transportRetries.toNat 0
  match ← look fun bus => do Frame.checkedParseResponse (← part bus.frame 0 length) with
  | .error cause => throw (.frame cause)
  | .ok reply => return reply

/-- Sends a request and returns the data of the positive answer. -/
def checkedTransceive (c : Config) (id : UInt8) (data : Bytes) : CheckedM (Bus σ) Error Bytes := do
  checkedSend c id data
  let reply ← checkedReceive c
  plain (expectStatus reply .requestOk)
  return reply.data

/-- Sends the host's ephemeral public key and the pairing slot. -/
def checkedHandshake (c : Config) (ephemeral : Octets 32) (slot : UInt8) :
    CheckedM (Bus σ) Error Bytes := do
  let request ← look fun _ => Handshake.checkedRequest ephemeral slot
  checkedTransceive c RequestId.handshake request

/-- Sends the pieces of a packet of `count` pieces from one on. -/
def checkedSendChunks (c : Config) (count : Nat) :
    (chunks : List Bytes) → (index : Nat) → CheckedM (Bus σ) Error Unit
  | [], _ => pure ()
  | chunk :: rest, index => do
    checkedSend c RequestId.encryptedCommand chunk
    let reply ← checkedReceive c
    let next ← look fun _ => add 64 index 1
    plain (expectStatus reply (if next = count then .requestOk else .requestCont))
    checkedSendChunks c count rest next

/-- Sends an encrypted packet. -/
def checkedSendEncrypted (c : Config) (packet : Bytes) : CheckedM (Bus σ) Error Unit := do
  let padded ← look fun _ => add 64 packet.length Frame.maxData
  let rounded ← look fun _ => sub padded 1
  checkedSendChunks c (rounded / Frame.maxData) (Frame.chunks packet) 0

/-- Collects an encrypted result into the buffer `out`, which holds `length` bytes
of it already, from at most `frames` responses. -/
def checkedCollect (c : Config) : (frames : Nat) → (out : Bytes) → (length : Nat) → Bus σ →
    Checked (Option (Except Error Nat × Bytes) × Bus σ)
  | 0, _, _, bus => return (none, bus)
  | frames + 1, out, length, bus => do
    match ← trial (checkedReceive c) bus with
    | (.error e, after) => return (some (.error e, out), after)
    | (.ok reply, after) =>
      if reply.status = .resultCont ∨ reply.status = .resultOk then
        let stop ← add 64 length reply.data.length
        if out.length < stop then return (some (.error (.capacity stop out.length), out), after)
        else
          let out ← copy out length stop reply.data
          if reply.status = .resultOk then return (some (.ok stop, out), after)
          else checkedCollect c frames out stop after
      else return (some (.error (.protocol (.status reply.status)), out), after)

variable (c : Config)

theorem agrees_retries {α : Type} {Q : α → Prop} {attempt' : CheckedM (Bus σ) Error α}
    {attempt : BusM σ α} (agrees : Agrees Framed attempt' attempt) (once : Behaves Q attempt)
    {left tries : Nat} (few : left + tries < 2 ^ 32) :
    Agrees Framed (checkedRetries c attempt' left tries) (withRetries c attempt left) := by
  induction left generalizing tries with
  | zero => exact agrees
  | succ left ih =>
    refine .tryCatch agrees once fun e _ => ?_
    refine .ite (fun _ => .calc_bind (add_eq (by omega)) ?_) fun _ => .throw _
    exact .bind (.plain _) (behaves_delay _) fun _ _ => ih (by omega)

theorem agrees_sendOnce (id : UInt8) (data : Bytes) :
    Agrees Framed (checkedSendOnce c id data : CheckedM (Bus σ) Error Unit)
      (sendOnce c id data) := by
  refine .look_bind (fun bus _ => Frame.checkedBuildRequest_eq bus.frame id data)
    fun bus framed => ?_
  cases built : Frame.buildRequest bus.frame id data with
  | error cause => exact .throw _
  | ok outcome =>
    refine .bind (.plain _) (behaves_modifyFrame fun _ _ => ?_) fun _ _ => .plain _
    exact (Frame.length_of_build built).trans framed

theorem agrees_send (id : UInt8) (data : Bytes) :
    Agrees Framed (checkedSend c id data : CheckedM (Bus σ) Error Unit) (send c id data) :=
  agrees_retries c (agrees_sendOnce c id data) (behaves_sendOnce c id data)
    c.transportRetries.toNat_lt

theorem agrees_receive :
    Agrees Framed (checkedReceive c : CheckedM (Bus σ) Error Frame.Reply) (receive c) := by
  have agrees : Agrees Framed (checkedRetries c (Bus.checkedRead c) c.transportRetries.toNat 0 :
      CheckedM (Bus σ) Error Nat) (withRetries c (Bus.read c) c.transportRetries.toNat) :=
    agrees_retries c (agrees_read c) (behaves_read c) c.transportRetries.toNat_lt
  refine .bind agrees (behaves_withRetries c (behaves_read c) _) fun length fits => ?_
  have parsed (bus : Bus σ) (framed : bus.Framed) :
      (do Frame.checkedParseResponse (← part bus.frame 0 length)) =
        .ok (Frame.parseResponse (bus.frame.take length)) := by
    rw [part_eq (Nat.zero_le _) (framed ▸ fits), ok_bind, Frame.checkedParseResponse_eq]
    rfl
  refine .look_bind parsed fun bus _ => ?_
  cases Frame.parseResponse (bus.frame.take length) with
  | error cause => exact .throw _
  | ok reply => exact .pure _

theorem agrees_transceive (id : UInt8) (data : Bytes) :
    Agrees Framed (checkedTransceive c id data : CheckedM (Bus σ) Error Bytes)
      (transceive c id data) := by
  refine .bind (agrees_send c id data) (behaves_send c id data) fun _ _ => ?_
  refine .bind (agrees_receive c) (behaves_receive c) fun reply _ => ?_
  exact .bind (.plain _) (behaves_expectStatus reply .requestOk) fun _ _ => .pure _

theorem agrees_handshake (ephemeral : Octets 32) (slot : UInt8) :
    Agrees Framed (checkedHandshake c ephemeral slot : CheckedM (Bus σ) Error Bytes)
      (handshake c ephemeral slot) :=
  .calc_bind (Handshake.checkedRequest_eq ephemeral slot) (agrees_transceive c _ _)

theorem agrees_sendChunks {count index : Nat} {chunks : List Bytes}
    (counted : index + chunks.length = count) (few : count < 2 ^ 64) :
    Agrees Framed (checkedSendChunks c count chunks index : CheckedM (Bus σ) Error Unit)
      (sendChunks c chunks) := by
  induction chunks generalizing index with
  | nil => exact .pure _
  | cons chunk rest ih =>
    rw [List.length_cons] at counted
    -- The last piece is found by counting here, and by the list in the plain loop.
    have last : index + 1 = count ↔ rest = [] := by
      rw [← List.length_eq_zero_iff]
      omega
    refine .bind (agrees_send c _ _) (behaves_send c _ chunk) fun _ _ => ?_
    refine .bind (agrees_receive c) (behaves_receive c) fun reply _ => ?_
    refine .calc_bind (add_eq (by omega)) ?_
    simp only [last]
    exact .bind (.plain _) (behaves_expectStatus reply _) fun _ _ => ih (by omega)

theorem agrees_sendEncrypted {packet : Bytes} (short : packet.length < 2 ^ 63) :
    Agrees Framed (checkedSendEncrypted c packet : CheckedM (Bus σ) Error Unit)
      (sendEncrypted c packet) := by
  have size : Frame.maxData = 252 := rfl
  refine .calc_bind (add_eq (by omega)) (.calc_bind (sub_eq (by omega)) ?_)
  refine agrees_sendChunks c ?_ (Nat.lt_of_le_of_lt (Nat.div_le_self _ _) (by omega))
  rw [Nat.zero_add, Frame.length_chunks]
  rfl

/-- What is collected stays within the buffer, and the sizes of its parts are
summed up without overflow. -/
theorem checkedCollect_eq {frames : Nat} {out : Bytes} {length : Nat} {bus : Bus σ}
    (framed : bus.Framed) (inside : length ≤ out.length) (small : out.length < 2 ^ 63) :
    checkedCollect c frames out length bus = .ok ((collect c frames out length).run bus) := by
  induction frames generalizing out length bus with
  | zero => rfl
  | succ frames ih =>
    rw [run_collect, checkedCollect, agrees_receive c bus framed, ok_bind]
    rcases received : perform (receive c) bus with ⟨e | reply, after⟩
    · rfl
    have short := (behaves_receive c).returned framed received
    have framed' := (behaves_receive c).kept framed received
    have size : Frame.maxData = 252 := rfl
    dsimp only
    split
    case isFalse => rfl
    case isTrue =>
      rw [add_eq (by omega), ok_bind]
      split
      case isTrue => rfl
      case isFalse fits =>
        rw [copy_eq (by omega) (by omega) (by omega), ok_bind]
        have kept : (out.overlay length reply.data).length = out.length :=
          Bytes.length_overlay (by omega)
        split
        · rfl
        · exact ih framed' (by omega) (by omega)

end Link

end SecureElement
