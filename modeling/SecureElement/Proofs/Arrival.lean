import SecureElement.Proofs.Service

/-!
How an encrypted command arrives at the chip and how it is answered.

The chip decides by the size field alone which piece is the last, so what it does
with a piece depends on the bytes that have arrived and not on how they were cut.
A command that opens is executed and answered under the same session; the chip
counts one packet in and one packet out, or gives the session up.
-/

namespace SecureElement

/-- The length of a frame that opens is what its size field says. -/
theorem Session.length_of_unprotect [Primitives] {session after : Session} {frame packet : Bytes}
    (ok : session.unprotect frame = .ok (packet, after)) :
    frame.length = Bytes.ofLittleEndian (frame.take sizeLength) + overhead := by
  obtain ⟨-, -, cipher, tag, short, rfl, -⟩ := unprotect_eq_ok_iff.mp ok
  rw [size_sealed short, length_sealed]

namespace Chip

variable [Primitives] {chip : Chip} {session after : Session} {chunk packet : Bytes}

/-! ### Pieces -/

/-- The chip when it has taken in a piece and waits for no more. -/
def emptied (chip : Chip) : Chip := { chip with responses := [], pending := [] }

/-- The chip when a command has arrived that opens to a packet. -/
def opened (chip : Chip) (session : Session) (packet : Bytes) : Chip :=
  ({ chip.emptied with session := some session }.respond .requestOk []).execute packet

/-- The chip when more of a command has to arrive. -/
def awaiting (chip : Chip) (chunk : Bytes) : Chip :=
  { chip with
    responses := [frameResponse .requestCont []]
    pending := chip.pending ++ chunk }

theorem served_chunk (held : chip.session = some session) (chunk : Bytes) :
    chip.served ⟨RequestId.encryptedCommand, chunk⟩ =
      let arrived := chip.pending ++ chunk
      let total := Bytes.ofLittleEndian (arrived.take Session.sizeLength) + Session.overhead
      if arrived.length < Session.sizeLength ∨ arrived.length < total then chip.awaiting chunk
      else if total < arrived.length then chip.emptied.respond .genErr []
      else chip.emptied.openCommand session arrived := by
  cases chip
  cases held
  rfl

/-- Behind a part of a frame more is waited for. -/
theorem served_of_part {more : Bytes} (held : chip.session = some session)
    (sized : (chip.pending ++ chunk ++ more).length =
      Bytes.ofLittleEndian ((chip.pending ++ chunk ++ more).take Session.sizeLength) +
        Session.overhead) (some : more ≠ []) :
    chip.served ⟨RequestId.encryptedCommand, chunk⟩ = chip.awaiting chunk := by
  have positive := List.length_pos_iff.mpr some
  rw [List.length_append] at sized
  rw [served_chunk held]
  refine if_pos ?_
  by_cases short : (chip.pending ++ chunk).length < Session.sizeLength
  · exact .inl short
  · right
    rw [List.take_append_of_le_length (Nat.le_of_not_lt short)] at sized
    omega

/-- A frame that has arrived as a whole is opened. -/
theorem served_of_frame (held : chip.session = some session)
    (sized : (chip.pending ++ chunk).length =
      Bytes.ofLittleEndian ((chip.pending ++ chunk).take Session.sizeLength) + Session.overhead) :
    chip.served ⟨RequestId.encryptedCommand, chunk⟩ =
      chip.emptied.openCommand session (chip.pending ++ chunk) := by
  have long : Session.sizeLength ≤ Session.overhead := by decide
  rw [served_chunk held]
  exact (if_neg (by omega)).trans (if_neg (by omega))

/-- A command that has not arrived as a whole is waited for. -/
theorem served_of_more {more : Bytes} (held : chip.session = some session)
    (opens : session.unprotect (chip.pending ++ chunk ++ more) = .ok (packet, after))
    (some : more ≠ []) :
    chip.served ⟨RequestId.encryptedCommand, chunk⟩ = chip.awaiting chunk :=
  served_of_part held (Session.length_of_unprotect opens) some

/-- A command that has arrived as a whole is opened. -/
theorem served_of_whole (held : chip.session = some session)
    (opens : session.unprotect (chip.pending ++ chunk) = .ok (packet, after)) :
    chip.served ⟨RequestId.encryptedCommand, chunk⟩ = chip.opened after packet := by
  rw [served_of_frame held (Session.length_of_unprotect opens), openCommand, opens]
  rfl

/-- A piece is waited behind, completes a command that opens, or is refused. -/
theorem served_chunk_cases (held : chip.session = some session) (chunk : Bytes) :
    chip.served ⟨RequestId.encryptedCommand, chunk⟩ = chip.awaiting chunk ∨
      (∃ packet after, session.unprotect (chip.pending ++ chunk) = .ok (packet, after) ∧
        chip.served ⟨RequestId.encryptedCommand, chunk⟩ = chip.opened after packet) ∨
      ∃ status, status ≠ .requestCont ∧ status ≠ .requestOk ∧
        (chip.served ⟨RequestId.encryptedCommand, chunk⟩).front = frameResponse status [] := by
  cases opening : session.unprotect (chip.pending ++ chunk) with
  | ok opened =>
    obtain ⟨packet, after⟩ := opened
    exact .inr (.inl ⟨packet, after, rfl, served_of_whole held opening⟩)
  | error cause =>
    rw [served_chunk held]
    dsimp only
    split
    · exact .inl rfl
    · right
      right
      split
      · exact ⟨.genErr, by decide, by decide, front_respond chip.emptied rfl _ _⟩
      · refine ⟨.tagErr, by decide, by decide, ?_⟩
        unfold openCommand
        rw [opening]
        exact front_respond chip.emptied.dropSession rfl _ _

/-! ### Results -/

/-- The chip after an encrypted result: the session has counted it. -/
def answered (chip : Chip) (session : Session) (frame genuine : Bytes) : Chip :=
  { chip with
    session := some { session with sending := session.sending.advance }
    faults := { chip.faults with tamperResult := none, replayResult := false }
    lastResult := some genuine
    responses := chip.responses ++ resultFrames (Frame.chunks frame) }

/-- A result is encrypted and counted, or the chip gives the session up. -/
theorem sendResult_cases (held : chip.session = some session) (packet : Bytes) :
    (∃ frame genuine, chip.sendResult packet = chip.answered session frame genuine) ∨
      chip.sendResult packet = chip.dropSession.respond .genErr [] := by
  unfold sendResult
  rw [held]
  dsimp only
  split
  · exact .inr rfl
  · rename_i size genuine counted protected'
    obtain ⟨-, -, -, cipher, tag, -, -, -, rfl⟩ := Session.of_protect_eq_ok protected'
    rw [respondChunks_eq]
    exact .inl ⟨_, _, rfl⟩

/-- A result that can be encrypted is counted, and without faults it is sent as it was
encrypted. -/
theorem sendResult_eq_answered (held : chip.session = some session) (total : Aead.Total)
    (more : session.sending.counter ≠ 0xFFFFFFFF) (short : packet.length ≤ Session.maxSize) :
    ∃ cipher tag sent, Primitives.encrypt? session.suite session.sending.key
        (Session.nonce session.sending.counter) [] packet = some (cipher, tag) ∧
      chip.sendResult packet = chip.answered session sent (Session.sealed cipher tag) ∧
      (chip.faults.tamperResult = none → chip.faults.replayResult = false →
        sent = Session.sealed cipher tag) := by
  obtain ⟨cipher, tag, encrypted⟩ := total.encrypts session.suite session.sending.key
    (Session.nonce session.sending.counter) [] short
  have size : cipher.length = packet.length := Primitives.length_encrypt? encrypted
  generalize blanks : List.replicate Session.sizeLength (0 : UInt8) ++ packet ++
    List.replicate Session.tagLength 0 = buffer
  have room : packet.length + Session.overhead = buffer.length := by
    rw [← blanks]
    simp [Session.overhead]
    omega
  have inside : Bytes.slice buffer Session.sizeLength packet.length = packet := by
    rw [← blanks, Bytes.slice, List.append_assoc, List.drop_left' List.length_replicate,
      List.take_left]
  have whole : Bytes.overlay buffer 0 (Session.sealed cipher tag) = Session.sealed cipher tag :=
    Bytes.overlay_whole (by rw [Session.length_sealed, size, room])
  have made := Session.protect_eq_ok short (Nat.le_of_eq room) more (inside.symm ▸ encrypted)
  rw [whole] at made
  refine ⟨cipher, tag, ?sent, encrypted, ?queued, ?genuine⟩
  case queued =>
    unfold sendResult
    rw [held, blanks]
    dsimp only
    rw [made]
    dsimp only
    rw [respondChunks_eq]
    rfl
  case genuine =>
    intro tampered replayed
    rw [tampered, replayed]
    rfl

/-- Without faults the result is sent as it was encrypted. -/
theorem sendResult_eq (held : chip.session = some session) (total : Aead.Total)
    (more : session.sending.counter ≠ 0xFFFFFFFF) (short : packet.length ≤ Session.maxSize)
    (tampered : chip.faults.tamperResult = none) (replayed : chip.faults.replayResult = false) :
    ∃ cipher tag, Primitives.encrypt? session.suite session.sending.key
        (Session.nonce session.sending.counter) [] packet = some (cipher, tag) ∧
      chip.sendResult packet =
        chip.answered session (Session.sealed cipher tag) (Session.sealed cipher tag) := by
  obtain ⟨cipher, tag, sent, encrypted, queued, genuine⟩ :=
    sendResult_eq_answered held total more short
  rw [genuine tampered replayed] at queued
  exact ⟨cipher, tag, encrypted, queued⟩

/-! ### Answers to pieces -/

theorem opened_eq (chip : Chip) (session : Session) (packet : Bytes) :
    chip.opened session packet =
      let executed := chip.store.execute chip.random packet
      { chip.emptied with
        session := some session
        store := executed.2.1
        random := executed.2.2
        responses := [frameResponse .requestOk []] }.sendResult executed.1 := rfl

/-- A command that opens is answered, first of all positively. -/
theorem opened_cases (chip : Chip) (session : Session) (packet : Bytes) :
    (∃ more, (chip.opened session packet).responses = frameResponse .requestOk [] :: more) ∧
      (chip.opened session packet).pending = [] ∧
      ((chip.opened session packet).session =
          some { session with sending := session.sending.advance } ∨
        (chip.opened session packet).responses =
          [frameResponse .requestOk [], frameResponse .genErr []]) := by
  rw [opened_eq]
  dsimp only
  generalize same : { chip.emptied with
    session := some session
    store := (chip.store.execute chip.random packet).2.1
    random := (chip.store.execute chip.random packet).2.2
    responses := [frameResponse .requestOk []] } = executing
  have held : executing.session = some session := by rw [← same]
  rcases sendResult_cases held (chip.store.execute chip.random packet).1 with
    ⟨frame, genuine, sent⟩ | dropped
  · rw [sent, ← same]
    exact ⟨⟨_, rfl⟩, rfl, .inl rfl⟩
  · rw [dropped, ← same]
    exact ⟨⟨_, rfl⟩, rfl, .inr rfl⟩

theorem front_opened (chip : Chip) (session : Session) (packet : Bytes) :
    (chip.opened session packet).front = frameResponse .requestOk [] := by
  obtain ⟨⟨more, answered⟩, -⟩ := opened_cases chip session packet
  rw [front, answered, List.headD_cons]

/-- What the chip answers to a piece behind which more is to come. -/
theorem front_of_piece (held : chip.session = some session) (chunk : Bytes) {more : Bytes}
    (some : more ≠ []) :
    ∃ status, (chip.served ⟨RequestId.encryptedCommand, chunk⟩).front = frameResponse status [] ∧
      (status = .requestCont →
        chip.served ⟨RequestId.encryptedCommand, chunk⟩ = chip.awaiting chunk) ∧
      ∀ packet after, session.unprotect (chip.pending ++ chunk ++ more) = .ok (packet, after) →
        status = .requestCont := by
  by_cases waits : chip.served ⟨RequestId.encryptedCommand, chunk⟩ = chip.awaiting chunk
  · refine ⟨.requestCont, ?_, fun _ => waits, fun _ _ _ => rfl⟩
    rw [waits, front, awaiting, List.headD_cons]
  · have never (packet : Bytes) (after : Session) :
        session.unprotect (chip.pending ++ chunk ++ more) ≠ .ok (packet, after) :=
      fun opens => waits (served_of_more held opens some)
    rcases served_chunk_cases held chunk with
      waiting | ⟨packet, after, -, opens⟩ | ⟨status, other, -, refused⟩
    · exact absurd waiting waits
    · refine ⟨.requestOk, ?_, fun same => ?_,
        fun packet after opens => absurd opens (never packet after)⟩
      · rw [opens, front_opened]
      · cases same
    · exact ⟨status, refused, fun same => absurd same other,
        fun packet after opens => absurd opens (never packet after)⟩

/-- What the chip answers to the last piece. -/
theorem front_of_last (held : chip.session = some session) (chunk : Bytes) :
    ∃ status, (chip.served ⟨RequestId.encryptedCommand, chunk⟩).front = frameResponse status [] ∧
      (status = .requestOk → ∃ packet after,
        session.unprotect (chip.pending ++ chunk) = .ok (packet, after) ∧
          chip.served ⟨RequestId.encryptedCommand, chunk⟩ = chip.opened after packet) ∧
      ∀ packet after, session.unprotect (chip.pending ++ chunk) = .ok (packet, after) →
        status = .requestOk := by
  cases opening : session.unprotect (chip.pending ++ chunk) with
  | ok outcome =>
    have opens := served_of_whole held opening
    refine ⟨.requestOk, ?_, fun _ => ⟨_, _, rfl, opens⟩, fun _ _ _ => rfl⟩
    rw [opens, front_opened]
  | error cause =>
    rcases served_chunk_cases held chunk with
      waits | ⟨packet, after, opens, -⟩ | ⟨status, -, other, refused⟩
    · refine ⟨.requestCont, ?_, nofun, nofun⟩
      rw [waits, front, awaiting, List.headD_cons]
    · rw [opening] at opens
      cases opens
    · exact ⟨status, refused, fun same => absurd same other, nofun⟩

end Chip

end SecureElement
