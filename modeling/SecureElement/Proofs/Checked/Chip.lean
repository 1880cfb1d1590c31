import SecureElement.Proofs.Checked.Requests
import SecureElement.Proofs.Effects

/-!
Accesses of the chip.

The chip takes apart what comes in at two layers: the bytes of a window are a request,
and the data of some requests is a piece of an encrypted command that says itself how
long it is. Sizes are compared with what is there before they are used, so no window
makes an access that faults (`Chip.checkedTransfer_eq`, `Chip.checkedClose_eq`). For
data that is too long for a response the program has a fallback, an empty response;
here it is a fault too, so nothing ever comes to it.
-/

namespace SecureElement

open Checked

namespace Checked

/-- The remainder of a division; there is none by zero. -/
def rem (a b : Nat) : Checked Nat :=
  if 0 < b then .ok (a % b) else .error .overflow

theorem rem_eq {a b : Nat} (positive : 0 < b) : rem a b = .ok (a % b) := if_pos positive

end Checked

namespace Bytes

/-- A part that is cut at the end of the bytes. -/
theorem slice_min (bytes : Bytes) (start count : Nat) :
    bytes.slice start (min (start + count) bytes.length - start) = bytes.slice start count := by
  by_cases inside : start + count ≤ bytes.length
  · rw [Nat.min_eq_left inside, Nat.add_sub_cancel_left]
  · rw [Nat.min_eq_right (by omega), slice_eq_drop, slice, List.take_of_length_le]
    rw [List.length_drop]
    omega

/-- A part that is written back where it stands. -/
theorem overlay_slice {buffer : Bytes} {offset count : Nat}
    (inside : offset + count ≤ buffer.length) :
    buffer.overlay offset (buffer.slice offset count) = buffer := by
  rw [overlay, length_slice inside, slice, ← List.drop_drop, List.append_assoc,
    List.take_append_drop, List.take_append_drop]

theorem alter_eq_overlay {bytes : Bytes} {index : Nat} (inside : index < bytes.length)
    (change : UInt8 → UInt8) :
    bytes.alter index change = bytes.overlay index [change (bytes.getD index 0)] := by
  rw [alter, overlay, List.modify_eq_take_cons_drop inside, List.getD_eq_getElem _ _ inside]
  simp

end Bytes

/-- Writes a response to the start of a buffer. -/
def Frame.checkedBuildResponse (buffer : Bytes) (status : Status) (data : Bytes) :
    Checked (Except FrameError (Nat × Bytes)) :=
  checkedBuildRequest buffer status.byte data

namespace Chip

/-! ### Responses -/

/-- A response as it is queued; data that is too long for one is a fault. -/
def checkedFrameResponse (status : Status) (data : Bytes) : Checked Bytes := do
  match ← Frame.checkedBuildResponse (List.replicate Frame.maxLength 0) status data with
  | .ok (length, buffer) => part buffer 0 length
  | .error _ => throw .length

/-- Queues a response. -/
def checkedRespond (chip : Chip) (status : Status) (data : Bytes) : Checked Chip := do
  let response ← checkedFrameResponse status data
  return { chip with responses := chip.responses ++ [response] }

/-- Queues the pieces of a result from one on; there are `count`. -/
def checkedRespondChunks (chip : Chip) (count : Nat) :
    (chunks : List Bytes) → (index : Nat) → Checked Chip
  | [], _ => return chip
  | chunk :: rest, index => do
    let next ← add 64 index 1
    let chip ← chip.checkedRespond (if next = count then .resultOk else .resultCont) chunk
    checkedRespondChunks chip count rest next

variable {chip : Chip} {data : Bytes}

theorem checkedFrameResponse_eq (status : Status) (short : data.length ≤ Frame.maxData) :
    checkedFrameResponse status data = .ok (frameResponse status data) := by
  have room := Frame.fits_cleared short
  have built : Frame.buildRequest (List.replicate Frame.maxLength 0) status.byte data = _ :=
    Frame.build_eq_ok status.byte short room
  rw [checkedFrameResponse, Frame.checkedBuildResponse, Frame.checkedBuildRequest_eq, ok_bind,
    built, frameResponse, Frame.buildResponse, Frame.build_eq_ok status.byte short room]
  dsimp only
  rw [part_eq (Nat.zero_le _), Bytes.slice, List.drop_zero, Nat.sub_zero]
  rw [Bytes.length_overlay]
  · exact room
  · rw [Frame.length_encode]
    omega

theorem checkedRespond_eq (chip : Chip) (status : Status) (short : data.length ≤ Frame.maxData) :
    chip.checkedRespond status data = .ok (chip.respond status data) := by
  rw [checkedRespond, checkedFrameResponse_eq status short]
  rfl

/-- An answer without data. -/
theorem checkedRespond_nil (chip : Chip) (status : Status) :
    chip.checkedRespond status [] = .ok (chip.respond status []) :=
  chip.checkedRespond_eq status length_nil_le

theorem checkedRespondChunks_eq {chunks : List Bytes} {count index : Nat}
    (short : ∀ chunk ∈ chunks, chunk.length ≤ Frame.maxData)
    (counted : index + chunks.length = count) (few : count < 2 ^ 64) :
    chip.checkedRespondChunks count chunks index = .ok (chip.respondChunks chunks) := by
  induction chunks generalizing chip index with
  | nil => rfl
  | cons chunk rest ih =>
    rw [List.length_cons] at counted
    -- The last piece is found by counting here, and by the list in the plain loop.
    have last : index + 1 = count ↔ rest = [] := by
      rw [← List.length_eq_zero_iff]
      omega
    rw [checkedRespondChunks, add_eq (by omega), ok_bind,
      checkedRespond_eq _ _ (short chunk (List.mem_cons_self ..)), ok_bind, respondChunks]
    simp only [last]
    exact ih (fun other member => short other (List.mem_cons_of_mem chunk member)) (by omega)

/-! ### Plain requests -/

/-- Answers with a block of an information object. -/
def checkedGetInfo (chip : Chip) (data : Bytes) : Checked Chip :=
  match data with
  | [object, block] =>
    match chip.infoObject? object with
    | none => chip.checkedRespond .genErr []
    | some content =>
      let start := block.toNat * Info.blockLength
      if content.length ≤ start then chip.checkedRespond .genErr []
      else do
        let stop ← add 64 start Info.blockLength
        let bytes ← part content start (min stop content.length)
        chip.checkedRespond .requestOk bytes
  | _ => chip.checkedRespond .genErr []

/-- Falls asleep; deep sleep ends the session. -/
def checkedSleep (chip : Chip) (data : Bytes) : Checked Chip :=
  if data = [SleepKind.sleep.byte] then chip.checkedRespond .requestOk []
  else if data = [SleepKind.deepSleep.byte] then chip.dropSession.checkedRespond .requestOk []
  else chip.checkedRespond .genErr []

/-- Restarts, which ends the session. -/
def checkedStartup (chip : Chip) (data : Bytes) : Checked Chip :=
  if data = [StartupKind.reboot.byte] ∨ data = [StartupKind.maintenanceReboot.byte] then
    chip.dropSession.checkedRespond .requestOk []
  else chip.checkedRespond .genErr []

theorem checkedGetInfo_eq (chip : Chip) (data : Bytes) :
    chip.checkedGetInfo data = .ok (chip.getInfo data) := by
  -- Only two bytes of data are an object and a block.
  rcases data with _ | ⟨object, _ | ⟨block, _ | ⟨more, rest⟩⟩⟩
  case cons.cons.nil =>
    unfold checkedGetInfo getInfo
    dsimp only
    cases chip.infoObject? object with
    | none => exact chip.checkedRespond_nil _
    | some content =>
      dsimp only
      by_cases outside : content.length ≤ block.toNat * Info.blockLength
      · rw [if_pos outside, if_pos outside]
        exact chip.checkedRespond_nil _
      have few : block.toNat * Info.blockLength ≤ 255 * 128 :=
        Nat.mul_le_mul_right _ (Nat.le_of_lt_succ (UInt8.toNat_lt block))
      have size : Info.blockLength = 128 := rfl
      have short : (content.slice (block.toNat * Info.blockLength) Info.blockLength).length ≤
          Frame.maxData := Nat.le_trans (List.length_take_le ..) (by decide)
      rw [if_neg outside, if_neg outside, add_eq (by omega), ok_bind,
        part_eq (by omega) (Nat.min_le_right ..), ok_bind, Bytes.slice_min,
        chip.checkedRespond_eq _ short]
  all_goals exact chip.checkedRespond_nil _

theorem checkedSleep_eq (chip : Chip) (data : Bytes) :
    chip.checkedSleep data = .ok (chip.sleep data) := by
  unfold checkedSleep Chip.sleep
  split
  · exact chip.checkedRespond_nil _
  · split
    · exact chip.dropSession.checkedRespond_nil _
    · exact chip.checkedRespond_nil _

theorem checkedStartup_eq (chip : Chip) (data : Bytes) :
    chip.checkedStartup data = .ok (chip.startup data) := by
  unfold checkedStartup startup
  split
  · exact chip.dropSession.checkedRespond_nil _
  · exact chip.checkedRespond_nil _

/-! ### Handshakes and commands -/

variable [Primitives]

/-- Answers a handshake. -/
def checkedHandshake (chip : Chip) (data : Bytes) : Checked Chip := do
  let (ephemeral, random) := chip.random.draw 32
  let chip := { chip.dropSession with random }
  let responder : Responder := ⟨chip.suite, chip.staticKey, ephemeral⟩
  match ← responder.checkedAnswer data chip.store.checkedPairingKey? with
  | .ok (response, keys) =>
    let chip := { chip with session := some (Session.forChip chip.suite keys) }
    chip.checkedRespond .requestOk response
  | .error _ => chip.checkedRespond .handshakeErr []

/-- Flips a bit in a byte of an encrypted result, counted from behind its size, if that
is wanted. -/
def checkedTamper (genuine : Bytes) : (index? : Option Nat) → Checked Bytes
  | none => return genuine
  | some index => do
    let room ← sub genuine.length Session.sizeLength
    let i ← rem index room
    let i ← add 64 Session.sizeLength i
    let value ← byte genuine i
    put genuine i (value ^^^ 0x01)

/-- An encrypted result that was tampered with. -/
def tampered (genuine : Bytes) : (index? : Option Nat) → Bytes
  | none => genuine
  | some index => genuine.alter
      (Session.sizeLength + index % (genuine.length - Session.sizeLength)) (· ^^^ 0x01)

/-- Encrypts a result packet and queues it. -/
def checkedSendResult (chip : Chip) (packet : Bytes) : Checked Chip := do
  let stop ← add 64 Session.sizeLength packet.length
  let whole ← add 64 stop Session.tagLength
  let buffer ← copy (List.replicate whole 0) Session.sizeLength stop packet
  match chip.session with
  | none => chip.checkedRespond .noSession []
  | some session =>
    match ← session.checkedProtect buffer packet.length with
    | (.error _, _, session) =>
      let chip := { chip with session := some session }
      chip.dropSession.checkedRespond .genErr []
    | (.ok _, genuine, session) =>
      let tampered ← checkedTamper genuine chip.faults.tamperResult
      let sent := if chip.faults.replayResult then chip.lastResult.getD tampered else tampered
      let faults := { chip.faults with tamperResult := none, replayResult := false }
      let padded ← add 64 sent.length Frame.maxData
      let rounded ← sub padded 1
      let chip := { chip with session := some session, faults, lastResult := some genuine }
      chip.checkedRespondChunks (rounded / Frame.maxData) (Frame.chunks sent) 0

/-- Runs a command packet and queues its result. -/
def checkedExecute (chip : Chip) (packet : Bytes) : Checked Chip := do
  let (result, store, random) ← chip.store.checkedExecute chip.random packet
  let chip := { chip with store, random }
  chip.checkedSendResult result

/-- Opens a complete encrypted command and answers it. -/
def checkedOpenCommand (spoil : Bytes → Bytes) (chip : Chip) (session : Session) (frame : Bytes) :
    Checked Chip := do
  match ← session.checkedUnprotect spoil frame with
  | (.ok count, frame, session) =>
    let chip := { chip with session := some session }
    let chip ← chip.checkedRespond .requestOk []
    let stop ← add 64 Session.sizeLength count
    let packet ← part frame Session.sizeLength stop
    chip.checkedExecute packet
  | (.error _, _, session) =>
    let chip := { chip with session := some session }
    chip.dropSession.checkedRespond .tagErr []

/-- Takes in a piece of an encrypted command. -/
def checkedEncryptedCommand (spoil : Bytes → Bytes) (chip : Chip) (chunk : Bytes) :
    Checked Chip :=
  match chip.session with
  | none =>
    let chip := { chip with pending := [] }
    chip.checkedRespond .noSession []
  | some session =>
    let arrived := chip.pending ++ chunk
    if arrived.length < Session.sizeLength then
      let chip := { chip with pending := arrived }
      chip.checkedRespond .requestCont []
    else do
      let low ← byte arrived 0
      let high ← byte arrived 1
      let stop ← add 64 Session.sizeLength (Bytes.ofLittleEndian [low, high])
      let total ← add 64 stop Session.tagLength
      if arrived.length < total then
        let chip := { chip with pending := arrived }
        chip.checkedRespond .requestCont []
      else
        let chip := { chip with pending := [] }
        if total < arrived.length then chip.checkedRespond .genErr []
        else chip.checkedOpenCommand spoil session arrived

/-- Serves a request. -/
def checkedServe (spoil : Bytes → Bytes) (chip : Chip) (request : Frame.Request) : Checked Chip :=
  match request.id with
  | RequestId.getInfo => chip.checkedGetInfo request.data
  | RequestId.handshake => chip.checkedHandshake request.data
  | RequestId.encryptedCommand => chip.checkedEncryptedCommand spoil request.data
  | RequestId.sessionAbort => chip.dropSession.checkedRespond .requestOk []
  | RequestId.sleep => chip.checkedSleep request.data
  | RequestId.startup => chip.checkedStartup request.data
  | _ => chip.checkedRespond .unknownReq []

/-- Processes the bytes of a request window. -/
def checkedProcessRequest (spoil : Bytes → Bytes) (chip : Chip) (received : Bytes) :
    Checked Chip := do
  let chip := { chip with responses := [] }
  match ← Frame.checkedParseRequest received with
  | .ok request => chip.checkedServe spoil request
  | .error (.crc _ _) => chip.checkedRespond .crcErr []
  | .error _ => chip.checkedRespond .genErr []

/-- The last encrypted result is one that the chip can have sent. -/
def Recorded (chip : Chip) : Prop :=
  ∀ frame, chip.lastResult = some frame → frame.length ≤ Session.maxFrame

theorem checkedHandshake_eq (chip : Chip) (data : Bytes) :
    chip.checkedHandshake data = .ok (chip.handshake data) := by
  unfold checkedHandshake handshake
  dsimp only
  rw [Responder.checkedAnswer_eq _ _ (Store.checkedPairingKey?_eq _), ok_bind]
  generalize answered : Responder.answer _ data _ = outcome
  cases outcome with
  | ok outcome =>
    have short : outcome.1.length ≤ Frame.maxData := by
      rw [Responder.length_of_answer answered]
      decide
    exact checkedRespond_eq _ _ short
  | error cause => exact checkedRespond_nil _ _

omit [Primitives] in
theorem checkedTamper_eq {genuine : Bytes} (index? : Option Nat)
    (long : Session.sizeLength < genuine.length) (short : genuine.length < 2 ^ 63) :
    checkedTamper genuine index? = .ok (tampered genuine index?) := by
  cases index? with
  | none => rfl
  | some index =>
    have below : index % (genuine.length - Session.sizeLength) <
        genuine.length - Session.sizeLength := Nat.mod_lt _ (by omega)
    rw [checkedTamper, sub_eq (by omega), ok_bind, rem_eq (by omega), ok_bind, add_eq (by omega),
      ok_bind, byte_eq (by omega), ok_bind, put_eq (by omega), tampered,
      Bytes.alter_eq_overlay (by omega)]

omit [Primitives] in
theorem length_tampered (genuine : Bytes) (index? : Option Nat) :
    (tampered genuine index?).length = genuine.length := by
  cases index? with
  | none => rfl
  | some index => exact Bytes.length_alter ..

theorem checkedSendResult_eq {packet : Bytes} (recorded : chip.Recorded)
    (short : packet.length ≤ 1 + Limit.ping) :
    chip.checkedSendResult packet = .ok (chip.sendResult packet) := by
  obtain ⟨two, sixteen, eighteen⟩ := Session.sizes
  have most : Limit.ping = 4096 := rfl
  have piece : Frame.maxData = 252 := rfl
  have whole : Session.maxFrame = 4130 := rfl
  have written : Bytes.overlay (List.replicate (Session.sizeLength + packet.length +
      Session.tagLength) 0) Session.sizeLength packet = _ :=
    Bytes.overlay_cleared Session.tagLength rfl
  unfold checkedSendResult sendResult
  rw [add_eq (by omega), ok_bind, add_eq (by omega), ok_bind,
    copy_eq (by omega) (by omega) (by rw [List.length_replicate]; omega), ok_bind, written]
  cases chip.session with
  | none => exact checkedRespond_nil _ _
  | some session =>
    dsimp only
    rw [Session.checkedProtect_eq (by omega), ok_bind]
    generalize filled : List.replicate Session.sizeLength (0 : UInt8) ++ packet ++
      List.replicate Session.tagLength 0 = buffer
    have size : buffer.length = packet.length + 18 := by
      rw [← filled]
      simp only [List.length_append, List.length_replicate]
      omega
    cases made : session.protect buffer packet.length with
    | error cause =>
      obtain ⟨left, kept⟩ := Session.protectInPlace_of_error made
      rw [kept]
      exact checkedRespond_nil _ _
    | ok outcome =>
      obtain ⟨count, genuine, after⟩ := outcome
      have length := Session.length_of_protect made
      rw [Session.protectInPlace_of_ok made]
      dsimp only
      have same := length_tampered genuine chip.faults.tamperResult
      rw [checkedTamper_eq _ (by omega) (by omega), ok_bind]
      obtain ⟨sent, chosen⟩ : ∃ sent, sent = if chip.faults.replayResult = true then
          chip.lastResult.getD (tampered genuine chip.faults.tamperResult)
        else tampered genuine chip.faults.tamperResult := ⟨_, rfl⟩
      have bounded : sent.length ≤ Session.maxFrame := by
        rw [chosen]
        split
        · cases last : chip.lastResult with
          | none => rw [Option.getD_none]; omega
          | some frame => exact recorded frame last
        · omega
      have few : (sent.length + Frame.maxData - 1) / Frame.maxData < 2 ^ 64 :=
        Nat.lt_of_le_of_lt (Nat.div_le_self _ _) (by omega)
      have counted : 0 + (Frame.chunks sent).length =
          (sent.length + Frame.maxData - 1) / Frame.maxData := by
        rw [Nat.zero_add, Frame.length_chunks]
        rfl
      rw [← chosen, add_eq (by omega), ok_bind, sub_eq (by omega), ok_bind,
        checkedRespondChunks_eq (fun _ member => (Frame.bounds_of_mem_chunks member).2) counted few,
        chosen]
      cases chip.faults.tamperResult <;> rfl

theorem checkedExecute_eq (chip : Chip) (valid : chip.store.Valid) (recorded : chip.Recorded)
    (packet : Bytes) :
    chip.checkedExecute packet = .ok (chip.execute packet) := by
  rw [checkedExecute, Store.checkedExecute_eq, ok_bind, execute_eq]
  exact checkedSendResult_eq recorded (Store.length_result_le valid _ _)

theorem checkedOpenCommand_eq (chip : Chip) (spoil : Bytes → Bytes) (valid : chip.store.Valid)
    (recorded : chip.Recorded) (session : Session) (frame : Bytes) :
    chip.checkedOpenCommand spoil session frame = .ok (chip.openCommand session frame) := by
  unfold checkedOpenCommand openCommand
  rw [Session.checkedUnprotect_eq, ok_bind]
  cases opened : session.unprotect frame with
  | error cause =>
    obtain ⟨left, kept⟩ := Session.unprotectInPlace_of_error spoil opened
    rw [kept]
    exact checkedRespond_nil _ _
  | ok outcome =>
    obtain ⟨packet, after⟩ := outcome
    obtain ⟨-, -, cipher, tag, short, whole, decrypted⟩ := Session.unprotect_eq_ok_iff.mp opened
    have count := Primitives.length_decrypt? decrypted
    have two : Session.sizeLength = 2 := rfl
    have most : Session.maxSize = 65535 := rfl
    have size : frame.length = cipher.length + Session.overhead := by
      rw [whole, Session.length_sealed]
    have eighteen : Session.overhead = 18 := rfl
    have kept := Bytes.length_overlay
      (show Session.sizeLength + packet.length ≤ frame.length by omega)
    rw [Session.unprotectInPlace_of_ok spoil opened]
    dsimp only
    rw [checkedRespond_nil, ok_bind, add_eq (by omega), ok_bind, part_eq (by omega) (by omega),
      ok_bind, Nat.add_sub_cancel_left, Bytes.slice_overlay (by omega)]
    exact checkedExecute_eq ({ chip with session := some after }.respond .requestOk []) valid
      recorded packet

theorem checkedEncryptedCommand_eq (chip : Chip) (spoil : Bytes → Bytes) (valid : chip.store.Valid)
    (recorded : chip.Recorded) (chunk : Bytes) :
    chip.checkedEncryptedCommand spoil chunk = .ok (chip.encryptedCommand chunk) := by
  obtain ⟨two, sixteen, eighteen⟩ := Session.sizes
  unfold checkedEncryptedCommand encryptedCommand
  cases chip.session with
  | none => exact checkedRespond_nil _ _
  | some session =>
    dsimp only
    generalize chip.pending ++ chunk = arrived
    by_cases few : arrived.length < Session.sizeLength
    · rw [if_pos few, if_pos (.inl few)]
      exact checkedRespond_nil _ _
    have field : arrived.take Session.sizeLength = [arrived.getD 0 0, arrived.getD 1 0] :=
      show arrived.slice 0 2 = _ from Bytes.slice_two (by omega)
    have bounded : Bytes.ofLittleEndian [arrived.getD 0 0, arrived.getD 1 0] < 256 ^ 2 :=
      Bytes.ofLittleEndian_lt _
    rw [if_neg few, byte_eq (by omega), ok_bind, byte_eq (by omega), ok_bind, field]
    generalize Bytes.ofLittleEndian [arrived.getD 0 0, arrived.getD 1 0] = size at bounded
    rw [add_eq (by omega), ok_bind, add_eq (by omega), ok_bind,
      show Session.sizeLength + size + Session.tagLength = size + Session.overhead by omega]
    by_cases cut : arrived.length < size + Session.overhead
    · rw [if_pos cut, if_pos (.inr cut)]
      exact checkedRespond_nil _ _
    have whole : ¬(arrived.length < Session.sizeLength ∨
        arrived.length < size + Session.overhead) := by omega
    rw [if_neg cut, if_neg whole]
    by_cases long : size + Session.overhead < arrived.length
    · rw [if_pos long, if_pos long]
      exact checkedRespond_nil _ _
    · have opens := checkedOpenCommand_eq { chip with pending := [] } spoil valid recorded session
        arrived
      rw [if_neg long, if_neg long]
      exact opens

theorem checkedServe_eq (chip : Chip) (spoil : Bytes → Bytes) (valid : chip.store.Valid)
    (recorded : chip.Recorded) (request : Frame.Request) :
    chip.checkedServe spoil request = .ok (chip.serve request) := by
  unfold serve
  obtain ⟨id, data⟩ := request
  dsimp only
  split
  case h_1 => exact chip.checkedGetInfo_eq data
  case h_2 => exact chip.checkedHandshake_eq data
  case h_3 => exact chip.checkedEncryptedCommand_eq spoil valid recorded data
  case h_4 => exact checkedRespond_nil _ _
  case h_5 => exact chip.checkedSleep_eq data
  case h_6 => exact chip.checkedStartup_eq data
  case h_7 =>
    unfold checkedServe
    dsimp only
    split
    case h_7 => exact checkedRespond_nil _ _
    all_goals exact absurd rfl (by assumption)

/-- No request makes an access that faults, whatever bytes it is. -/
theorem checkedProcessRequest_eq (chip : Chip) (spoil : Bytes → Bytes) (valid : chip.store.Valid)
    (recorded : chip.Recorded) (received : Bytes) :
    chip.checkedProcessRequest spoil received = .ok (chip.processRequest received) := by
  unfold checkedProcessRequest processRequest
  rw [Frame.checkedParseRequest_eq, ok_bind]
  cases Frame.parseRequest received with
  | ok request => exact checkedServe_eq { chip with responses := [] } spoil valid recorded request
  | error cause =>
    cases cause with
    | crc => exact checkedRespond_nil { chip with responses := [] } .crcErr
    | length => exact checkedRespond_nil { chip with responses := [] } .genErr
    | unknownStatus => exact checkedRespond_nil { chip with responses := [] } .genErr

/-! ### Windows -/

omit [Primitives] in
/-- The response that a poll reads. -/
def checkedFront (chip : Chip) : Checked Bytes :=
  match chip.responses with
  | response :: _ => return response
  | [] => checkedFrameResponse .noResp []

omit [Primitives] in
/-- Flips a bit in a byte of a response, counted from behind the chip status, if that is
wanted. There need not be such a byte. -/
def checkedCorrupt (build : Build) (genuine : Bytes) : (index? : Option Nat) → Checked Bytes
  | none => return genuine
  | some index => do
    let i ← sum build 64 1 index
    return genuine.alter i (· ^^^ 0x01)

omit [Primitives] in
/-- The index of a bit that waits to be flipped can be counted past. -/
def InRange (chip : Chip) : Prop :=
  ∀ index, chip.faults.corruptResponse = some index → 1 + index < 2 ^ 64

omit [Primitives] in
/-- Prepares what a poll clocks out. -/
def checkedStartPoll (build : Build) (chip : Chip) : Checked Chip :=
  if 0 < chip.faults.busyPolls then do
    let left ← sub chip.faults.busyPolls 1
    return { chip with
      faults.busyPolls := left
      window.poll := some false
      window.outgoing := [0] }
  else do
    let front ← chip.checkedFront
    let outgoing ← checkedCorrupt build (Bus.readyBit :: front) chip.faults.corruptResponse
    return { chip with
      faults.corruptResponse := none
      window.poll := some true
      window.outgoing := outgoing }

omit [Primitives] in
/-- Starts a poll if the first byte of a window asks for it. -/
def checkedBegin (build : Build) (chip : Chip) (frame : Bytes) (offset length : Nat) :
    Checked Chip := do
  if chip.window.received = [] ∧ length = 1 then
    let first ← byte frame offset
    if first = Bus.responseRequest then chip.checkedStartPoll build else return chip
  else return chip

omit [Primitives] in
/-- Exchanges `length` bytes of a frame from `offset` on. -/
def checkedTransfer (build : Build) (chip : Chip) (frame : Bytes) (offset length : Nat) :
    Checked ((Except TransportError Unit × Bytes) × Chip) :=
  match Transport.checkBounds frame offset length with
  | .error cause => return ((.error cause, frame), chip)
  | .ok () =>
    if chip.window.selected = false then
      return ((.error (.bus "transfer without chip select"), frame), chip)
    else do
      let chip := { chip with transfers := chip.transfers + 1 }
      if 0 < chip.faults.failTransfers then
        let left ← sub chip.faults.failTransfers 1
        return ((.error .timeout, frame),
          { chip with faults.failTransfers := left, window.failed := true })
      else
        let chip ← chip.checkedBegin build frame offset length
        let stop ← add 64 offset length
        let region ← part frame offset stop
        let answer := Octets.fit region.length
          (chip.window.outgoing.drop chip.window.received.length)
        let frame ← copy frame offset stop answer.val
        return ((.ok (), frame), { chip with window.received := chip.window.received ++ region })

/-- Closes the current window and acts on what came in. -/
def checkedClose (spoil : Bytes → Bytes) (chip : Chip) : Checked Chip :=
  if chip.window.selected = false then return chip
  else
    let window := chip.window
    let chip := { chip with window := { window with
      selected := false, received := [], poll := none, failed := false } }
    if window.failed then return chip
    else
      match window.poll with
      | some true =>
        if window.outgoing.length ≤ window.received.length then
          return { chip with responses := chip.responses.tail }
        else return chip
      | some false => return chip
      | none =>
        if window.received = [] then return chip
        else chip.checkedProcessRequest spoil window.received

omit [Primitives] in
theorem checkedFront_eq (chip : Chip) : chip.checkedFront = .ok chip.front := by
  unfold checkedFront front
  cases chip.responses with
  | nil =>
    rw [List.headD_nil]
    exact checkedFrameResponse_eq .noResp length_nil_le
  | cons response rest => rfl

omit [Primitives] in
/-- A build that takes a sum that is too large for a fault has one only if the index of the
bit cannot be counted past. -/
theorem checkedStartPoll_eq {build : Build} {chip : Chip}
    (inRange : build = .checking → chip.InRange) :
    chip.checkedStartPoll build = .ok chip.startPoll := by
  unfold checkedStartPoll startPoll
  split
  case isTrue busy =>
    rw [sub_eq busy]
    rfl
  case isFalse =>
    rw [checkedFront_eq, ok_bind]
    cases corrupt : chip.faults.corruptResponse with
    | none => rfl
    | some index =>
      rw [checkedCorrupt, sum_eq fun checking => inRange checking index corrupt, Nat.add_comm]
      rfl

omit [Primitives] in
theorem checkedBegin_eq {build : Build} {chip : Chip}
    (inRange : build = .checking → chip.InRange) {frame : Bytes} {offset length : Nat}
    (inside : offset + length ≤ frame.length) :
    chip.checkedBegin build frame offset length =
      .ok (if chip.window.received = [] ∧ frame.slice offset length = [Bus.responseRequest] then
        chip.startPoll else chip) := by
  unfold checkedBegin
  by_cases first : chip.window.received = [] ∧ length = 1
  case neg =>
    have other : ¬(chip.window.received = [] ∧
        frame.slice offset length = [Bus.responseRequest]) := by
      rintro ⟨empty, asks⟩
      refine first ⟨empty, ?_⟩
      rw [← Bytes.length_slice inside, asks]
      rfl
    rw [if_neg first, if_neg other]
    rfl
  obtain ⟨empty, rfl⟩ := first
  have region : frame.slice offset 1 = [frame.getD offset 0] := by
    rw [Bytes.slice_succ (by omega), Bytes.slice, List.take_zero]
  rw [if_pos ⟨empty, rfl⟩, byte_eq (by omega), ok_bind, region]
  by_cases asks : frame.getD offset 0 = Bus.responseRequest
  · rw [if_pos asks, if_pos ⟨empty, by rw [asks]⟩]
    exact checkedStartPoll_eq inRange
  · rw [if_neg asks, if_neg fun same => asks (List.head_eq_of_cons_eq same.2)]
    rfl

/-- No transfer makes an access that faults, whatever its bounds. -/
theorem checkedTransfer_eq {build : Build} {chip : Chip}
    (inRange : build = .checking → chip.InRange) (frame : Bytes) (offset length : Nat)
    (timeout : UInt32) :
    chip.checkedTransfer build frame offset length =
      .ok ((Transport.transfer frame offset length timeout).run chip) := by
  unfold checkedTransfer Transport.transfer
  cases bounds : Transport.checkBounds frame offset length with
  | error cause => rfl
  | ok =>
    obtain ⟨small, inside⟩ := Transport.checkBounds_eq_ok_iff.mp bounds
    have room : Frame.maxLength = 257 := rfl
    have back := Bytes.overlay_slice inside
    have size := Bytes.length_slice inside
    change _ = Except.ok (let ((result, region), chip) := chip.clock (frame.slice offset length)
      ((result, frame.overlay offset region), chip))
    unfold clock
    dsimp only
    by_cases closed : chip.window.selected = false
    · rw [if_pos closed, if_pos closed]
      dsimp only
      rw [back]
      rfl
    rw [if_neg closed, if_neg closed]
    by_cases faulty : 0 < chip.faults.failTransfers
    · rw [if_pos faulty, if_pos faulty, sub_eq faulty]
      dsimp only
      rw [back]
      rfl
    have counted : build = .checking → InRange { chip with transfers := chip.transfers + 1 } :=
      inRange
    rw [if_neg faulty, if_neg faulty, checkedBegin_eq counted inside, ok_bind, add_eq (by omega), ok_bind,
      part_eq (by omega) (by omega), ok_bind, Nat.add_sub_cancel_left,
      copy_eq (by rw [(Octets.fit _ _).property]; omega) (by omega) (by omega)]
    rfl

/-- Closing a window makes no access that faults, whatever came in. -/
theorem checkedClose_eq (chip : Chip) (spoil : Bytes → Bytes) (valid : chip.store.Valid)
    (recorded : chip.Recorded) : chip.checkedClose spoil = .ok chip.close := by
  unfold checkedClose close
  by_cases closed : chip.window.selected = false
  · rw [if_pos closed, if_pos closed]
    rfl
  rw [if_neg closed, if_neg closed]
  dsimp only
  by_cases failed : chip.window.failed = true
  · rw [if_pos failed, if_pos failed]
    rfl
  rw [if_neg failed, if_neg failed]
  rcases chip.window.poll with _ | _ | _
  · dsimp only
    by_cases empty : chip.window.received = []
    · rw [if_pos empty, if_pos empty]
      rfl
    · have processes := checkedProcessRequest_eq { chip with window := { chip.window with
        selected := false, received := [], poll := none, failed := false } } spoil valid recorded
        chip.window.received
      rw [if_neg empty, if_neg empty]
      exact processes
  · rfl
  · dsimp only
    split <;> rfl

end Chip

end SecureElement
