import SecureElement.Proofs.Arrival
import SecureElement.Proofs.Authorship
import SecureElement.Proofs.Runs

/-!
Encrypted commands in pieces.

The host cuts the frame of a command into pieces of 252 bytes, and the chip finds
its end by the size field, which may itself be cut. What has arrived is the same
after any pieces that add up to it (`Chip.fed_of_part`), so the chip ends in the
same state whichever way a frame was cut (`Chip.fed_cutting`). Bytes behind the end
of a frame are not opened.
-/

namespace SecureElement

/-- Ways to cut a frame into requests: no piece is too long for a request, and the
last one has something in it. -/
structure Cutting (frame : Bytes) (pieces : List Bytes) : Prop where
  whole : pieces.flatten = frame
  short : ∀ piece ∈ pieces, piece.length ≤ Frame.maxData
  last : pieces.getLast? ≠ some []

/-- The host cuts frames this way. -/
theorem Cutting.chunks (frame : Bytes) : Cutting frame (Frame.chunks frame) where
  whole := Frame.flatten_chunks frame
  short _ member := (Frame.bounds_of_mem_chunks member).2
  last empty := (Frame.bounds_of_mem_chunks (List.mem_of_getLast? empty)).1 rfl

/-- The last piece completes the frame. -/
theorem Cutting.eq_append {frame : Bytes} {pieces : List Bytes} (cut : Cutting frame pieces)
    (some : frame ≠ []) :
    ∃ front last, pieces = front ++ [last] ∧ front.flatten ++ last = frame := by
  rcases List.eq_nil_or_concat pieces with rfl | ⟨front, last, rfl⟩
  · exact absurd cut.whole.symm some
  · refine ⟨front, last, List.concat_eq_append, ?_⟩
    rw [← cut.whole, List.concat_eq_append, List.flatten_append, List.flatten_singleton]

/-- Before the last piece some of the frame is missing. -/
theorem Cutting.flatten_ne_nil {frame : Bytes} {front rest : List Bytes}
    (cut : Cutting frame (front ++ rest)) (more : rest ≠ []) : rest.flatten ≠ [] := by
  intro none
  refine cut.last ?_
  rw [List.getLast?_append, List.getLast?_eq_some_getLast more]
  exact congrArg some (List.flatten_eq_nil_iff.mp none _ (List.getLast_mem more))

namespace Chip

section

variable [Primitives] {chip : Chip} {session : Session}

/-! ### Pieces -/

/-- The chip after requests that carry the pieces of an encrypted command. -/
def fed (chip : Chip) (pieces : List Bytes) : Chip :=
  pieces.foldl
    (fun chip piece => chip.processRequest (Frame.encode RequestId.encryptedCommand piece)) chip

theorem fed_cons (chip : Chip) {piece : Bytes} (short : piece.length ≤ Frame.maxData)
    (rest : List Bytes) :
    chip.fed (piece :: rest) = (chip.served ⟨RequestId.encryptedCommand, piece⟩).fed rest := by
  rw [← processRequest_encode chip short [], List.append_nil]
  rfl

theorem fed_append (chip : Chip) (front rest : List Bytes) :
    chip.fed (front ++ rest) = (chip.fed front).fed rest :=
  List.foldl_append

omit [Primitives] in
theorem awaiting_awaiting (chip : Chip) (piece next : Bytes) :
    (chip.awaiting piece).awaiting next = chip.awaiting (piece ++ next) := by
  simp only [awaiting, List.append_assoc]

/-- Behind pieces that add up to a part of a frame more is waited for. -/
theorem fed_of_part {pieces : List Bytes} {more : Bytes} (held : chip.session = some session)
    (short : ∀ piece ∈ pieces, piece.length ≤ Frame.maxData)
    (sized : (chip.pending ++ pieces.flatten ++ more).length =
      Bytes.ofLittleEndian ((chip.pending ++ pieces.flatten ++ more).take Session.sizeLength) +
        Session.overhead) (missing : more ≠ []) (any : pieces ≠ []) :
    chip.fed pieces = chip.awaiting pieces.flatten := by
  induction pieces generalizing chip with
  | nil => exact absurd rfl any
  | cons piece rest ih =>
    have behind : rest.flatten ++ more ≠ [] :=
      fun none => missing (List.append_eq_nil_iff.mp none).2
    have parts : chip.pending ++ (piece :: rest).flatten ++ more =
        chip.pending ++ piece ++ (rest.flatten ++ more) := by
      simp only [List.flatten_cons, List.append_assoc]
    rw [fed_cons chip (short piece List.mem_cons_self),
      served_of_part held (parts ▸ sized) behind]
    by_cases only : rest = []
    · subst only
      rw [List.flatten_singleton]
      rfl
    · have arrived : (chip.awaiting piece).pending ++ rest.flatten ++ more =
          chip.pending ++ (piece :: rest).flatten ++ more := by
        simp only [awaiting, List.flatten_cons, List.append_assoc]
      have held' : (chip.awaiting piece).session = some session := held
      rw [ih held'
        (fun other member => short other (List.mem_cons_of_mem piece member))
        (arrived ▸ sized) only, awaiting_awaiting, List.flatten_cons]

/-- What becomes of a piece depends on what has arrived before it and not on how. -/
theorem fed_last {front : List Bytes} {last : Bytes} (more : Bytes)
    (held : chip.session = some session)
    (short : ∀ piece ∈ front ++ [last], piece.length ≤ Frame.maxData)
    (sized : (chip.pending ++ front.flatten ++ more).length =
      Bytes.ofLittleEndian ((chip.pending ++ front.flatten ++ more).take Session.sizeLength) +
        Session.overhead) (missing : more ≠ []) :
    chip.fed (front ++ [last]) =
      (chip.awaiting front.flatten).served ⟨RequestId.encryptedCommand, last⟩ := by
  have short_last := short last (List.mem_append_right front (List.mem_singleton_self last))
  rw [fed_append, fed_cons _ short_last, fed, List.foldl_nil]
  by_cases none : front = []
  · subst none
    rw [List.flatten_nil, awaiting, List.append_nil]
    rfl
  · rw [fed_of_part held (fun piece member => short piece (List.mem_append_left [last] member))
      sized missing none]

/-- Bytes behind the end of a frame are refused. -/
theorem served_of_overrun {chunk : Bytes} (held : chip.session = some session)
    (exceeds : Bytes.ofLittleEndian ((chip.pending ++ chunk).take Session.sizeLength) +
      Session.overhead < (chip.pending ++ chunk).length) :
    chip.served ⟨RequestId.encryptedCommand, chunk⟩ = chip.emptied.respond .genErr [] := by
  have long : Session.sizeLength ≤ Session.overhead := by decide
  rw [served_chunk held]
  exact (if_neg (by omega)).trans (if_pos exceeds)

/-! ### Whole commands -/

/-- What the chip may do with a frame that has arrived as a whole: it executes the
command and queues the result, having counted both packets, or it gives the session
up. -/
inductive Concluded (chip : Chip) (session : Session) (frame : Bytes) : Chip → Prop
  | answered {packet cipher sent : Bytes} {tag : Tag} :
    session.unprotect frame =
      .ok (packet, { session with receiving := session.receiving.advance }) →
    Primitives.encrypt? session.suite session.sending.key (Session.nonce session.sending.counter)
      [] (chip.store.execute chip.random packet).1 = some (cipher, tag) →
    (chip.faults.tamperResult = none → chip.faults.replayResult = false →
      sent = Session.sealed cipher tag) →
    Concluded chip session frame { chip with
      session := some { session with
        receiving := session.receiving.advance
        sending := session.sending.advance }
      store := (chip.store.execute chip.random packet).2.1
      random := (chip.store.execute chip.random packet).2.2
      faults := { chip.faults with tamperResult := none, replayResult := false }
      lastResult := some (Session.sealed cipher tag)
      pending := []
      responses := frameResponse .requestOk [] :: resultFrames (Frame.chunks sent) }
  | refused {cause : SessionError} :
    session.unprotect frame = .error cause →
    Concluded chip session frame { chip with
      session := none
      pending := []
      responses := [frameResponse .tagErr []] }

theorem openCommand_concluded (total : Aead.Total) (valid : chip.store.Valid)
    (more : session.sending.counter ≠ 0xFFFFFFFF) (frame : Bytes) :
    chip.Concluded session frame (chip.emptied.openCommand session frame) := by
  unfold openCommand
  cases opening : session.unprotect frame with
  | error cause => exact .refused opening
  | ok outcome =>
    obtain ⟨packet, after⟩ := outcome
    obtain ⟨-, rfl, -⟩ := Session.unprotect_eq_ok_iff.mp opening
    have short : (chip.store.execute chip.random packet).1.length ≤ Session.maxSize :=
      Nat.le_trans (Store.length_result_le valid chip.random packet) (by decide)
    change chip.Concluded session frame (chip.opened _ packet)
    rw [opened_eq]
    dsimp only
    generalize same : { chip.emptied with
      session := some { session with receiving := session.receiving.advance }
      store := (chip.store.execute chip.random packet).2.1
      random := (chip.store.execute chip.random packet).2.2
      responses := [frameResponse .requestOk []] } = executing
    have counted : executing.session =
        some { session with receiving := session.receiving.advance } := by rw [← same]
    obtain ⟨cipher, tag, sent, encrypted, queued, genuine⟩ :=
      sendResult_eq_answered counted total more short
    rw [queued]
    subst same
    exact .answered opening encrypted genuine

/-- How a frame is cut makes no difference to the chip. Every piece but the last is
acknowledged and only kept, and behind the last one the chip is in one and the same
state for all ways of cutting, the host's among them. If the last piece brings more
than the rest of the frame, what has arrived is forgotten and nothing is opened. -/
theorem fed_cutting (total : Aead.Total) (valid : chip.store.Valid)
    (held : chip.session = some session) (idle : chip.pending = [])
    (more : session.sending.counter ≠ 0xFFFFFFFF) {cipher : Bytes}
    (short : cipher.length ≤ Session.maxSize) (tag : Tag) :
    (∃ after, chip.Concluded session (Session.sealed cipher tag) after ∧
      chip.fed (Frame.chunks (Session.sealed cipher tag)) = after ∧
      ∀ pieces, Cutting (Session.sealed cipher tag) pieces →
        chip.fed pieces = after ∧
        ∀ front rest, pieces = front ++ rest → front ≠ [] → rest ≠ [] →
          chip.fed front = { chip with
            pending := front.flatten
            responses := [frameResponse .requestCont []] }) ∧
    ∀ front last extra, (∀ piece ∈ front ++ [last], piece.length ≤ Frame.maxData) →
      front.flatten.length < (Session.sealed cipher tag).length →
      front.flatten ++ last = Session.sealed cipher tag ++ extra → extra ≠ [] →
      chip.fed (front ++ [last]) = { chip with
        pending := []
        responses := [frameResponse .genErr []] } := by
  generalize framed : Session.sealed cipher tag = frame
  have sized : frame.length =
      Bytes.ofLittleEndian (frame.take Session.sizeLength) + Session.overhead := by
    rw [← framed, Session.size_sealed short, Session.length_sealed]
  have content : frame ≠ [] := framed ▸ Session.sealed_ne_nil cipher tag
  have parts (front : Bytes) : chip.pending ++ front = front := by rw [idle, List.nil_append]
  have concluding (pieces : List Bytes) (cut : Cutting frame pieces) :
      chip.fed pieces = chip.emptied.openCommand session frame := by
    obtain ⟨front, last, rfl, rfl⟩ := cut.eq_append content
    have missing : last ≠ [] := by
      rintro rfl
      exact cut.last List.getLast?_concat
    have held' : (chip.awaiting front.flatten).session = some session := held
    have arrived : (chip.awaiting front.flatten).pending ++ last = front.flatten ++ last :=
      congrArg (· ++ last) (parts front.flatten)
    rw [fed_last last held cut.short (by rw [parts]; exact sized) missing,
      served_of_frame held' (by rw [arrived]; exact sized), arrived]
    rfl
  refine ⟨⟨_, openCommand_concluded total valid more frame, concluding _ (.chunks frame),
    fun pieces cut => ⟨concluding pieces cut, ?_⟩⟩, ?_⟩
  · rintro front rest rfl any behind
    have whole : front.flatten ++ rest.flatten = frame := by
      rw [← List.flatten_append]
      exact cut.whole
    rw [fed_of_part held (fun piece member => cut.short piece (List.mem_append_left rest member))
      (by rw [parts, whole]; exact sized) (cut.flatten_ne_nil behind) any, awaiting, parts]
  · intro front last extra bounds part same surplus
    obtain ⟨missing, rfl⟩ : front.flatten <+: frame :=
      List.prefix_of_prefix_length_le ⟨last, same⟩ (List.prefix_append _ extra) (Nat.le_of_lt part)
    have nonempty : missing ≠ [] := by
      rintro rfl
      simp at part
    have positive := List.length_pos_iff.mpr surplus
    have held' : (chip.awaiting front.flatten).session = some session := held
    have arrived : (chip.awaiting front.flatten).pending ++ last =
        front.flatten ++ missing ++ extra := (congrArg (· ++ last) (parts _)).trans same
    have long : Session.sizeLength ≤ (front.flatten ++ missing).length := by
      rw [sized]
      exact Nat.le_trans (by decide) (Nat.le_add_left Session.overhead _)
    have exceeds :
        (front.flatten ++ missing).length < (front.flatten ++ missing ++ extra).length := by
      simp only [List.length_append]
      omega
    rw [fed_last missing held bounds (by rw [parts]; exact sized) nonempty,
      served_of_overrun held' ?_]
    · rfl
    · rw [arrived, List.take_append_of_le_length long, ← sized]
      exact exceeds

end

/-- A ping that arrives cut inside its size field and with an empty piece is answered
as if it had come in one piece. -/
theorem keyed_cut : ∃ frame after,
    keyed.fed [frame.take 1, [], frame.drop 1] = after ∧ keyed.fed [frame] = after ∧
      after.session.isSome := by
  obtain ⟨cipher, tag, encrypted⟩ := Standard.exact.encrypts .aes256Gcm (Octets.replicate 32 0)
    (Session.nonce 0) [] (show (Command.ping [1, 2, 3]).packet.length ≤ _ by decide)
  have size := Primitives.length_encrypt? encrypted
  have four : cipher.length = 4 := size
  have opened : (Session.forChip .aes256Gcm
      ⟨Octets.replicate 32 0, Octets.replicate 32 0⟩).unprotect (Session.sealed cipher tag) = _ :=
    Session.unprotect_sealed (by rw [size]; decide) (by decide) (Standard.exact.decrypts encrypted)
  have length : (Session.sealed cipher tag).length = 22 := by
    rw [Session.length_sealed, four]
    rfl
  have behind : (Session.sealed cipher tag).drop 1 ≠ [] :=
    List.ne_nil_of_length_pos (by rw [List.length_drop, length]; decide)
  have valid : keyed.store.Valid :=
    (Device.create_sound .aes256Gcm ⟨fun i => UInt8.ofNat i, 0, none⟩).memory
  have held : keyed.session = some (Session.forChip .aes256Gcm
    ⟨Octets.replicate 32 0, Octets.replicate 32 0⟩) := rfl
  obtain ⟨⟨after, concluded, -, same⟩, -⟩ := fed_cutting Standard.exact.toTotal valid held rfl
    (by decide) (show cipher.length ≤ Session.maxSize by rw [four]; decide) tag
  have cut : Cutting (Session.sealed cipher tag)
      [(Session.sealed cipher tag).take 1, [], (Session.sealed cipher tag).drop 1] := by
    refine ⟨?_, ?_, fun empty => behind (Option.some.inj empty)⟩
    · rw [List.flatten_cons, List.flatten_cons, List.nil_append, List.flatten_singleton,
        List.take_append_drop]
    · simp [length, Frame.maxData]
  have uncut : Cutting (Session.sealed cipher tag) [Session.sealed cipher tag] := by
    refine ⟨List.flatten_singleton, ?_, fun empty =>
      Session.sealed_ne_nil cipher tag (Option.some.inj empty)⟩
    simp [length, Frame.maxData]
  refine ⟨Session.sealed cipher tag, after, (same _ cut).1, (same _ uncut).1, ?_⟩
  cases concluded with
  | answered => rfl
  | refused failed =>
    rw [opened] at failed
    cases failed

end Chip

end SecureElement
