import SecureElement.Proofs.Checked.Session
import SecureElement.Proofs.Checked.Store

/-!
Accesses while the chip reads a request and answers a handshake.

The length byte of a request is compared with the bytes of the window before anything
behind it is read, and a handshake is taken apart only when it has its full length.
-/

namespace SecureElement

open Checked

namespace Bytes

/-- Bytes that are written into a cleared buffer stand between zeros. -/
theorem overlay_cleared {packet : Bytes} {count front : Nat} (behind : Nat)
    (whole : count = front + packet.length + behind) :
    overlay (List.replicate count 0) front packet =
      List.replicate front 0 ++ packet ++ List.replicate behind 0 := by
  subst whole
  rw [overlay, List.take_replicate, List.drop_replicate, Nat.min_eq_left (by omega),
    Nat.add_sub_cancel_left]

end Bytes

/-! ### Requests -/

namespace Frame

/-- Reads a request from the bytes of a window. -/
def checkedParseRequest (buffer : Bytes) : Checked (Except FrameError Request) :=
  if buffer.length < overhead then return .error (.length buffer.length)
  else do
    let length := (← byte buffer 0).toNat
    if maxData < length then return .error (.length length)
    else do
      let whole ← add 64 length overhead
      if buffer.length < whole then return .error (.length length)
      else do
        let stop ← add 64 2 length
        match ← Crc.checkedCheck buffer stop with
        | .error (expected, received) => return .error (.crc expected received)
        | .ok () =>
          let id ← byte buffer 1
          return .ok ⟨id, ← part buffer 2 stop⟩

theorem checkedParseRequest_eq (buffer : Bytes) :
    checkedParseRequest buffer = .ok (parseRequest buffer) := by
  have four : overhead = 4 := rfl
  unfold checkedParseRequest parseRequest
  by_cases short : buffer.length < overhead
  · rw [if_pos short, dif_pos short]
    rfl
  rw [if_neg short, dif_neg short, byte_eq (by omega), ok_bind,
    List.getD_eq_getElem _ _ (by omega)]
  dsimp only
  by_cases long : maxData < buffer[0].toNat
  · rw [if_pos long, if_pos (.inl long)]
    rfl
  have small : buffer[0].toNat ≤ 252 := Nat.le_of_not_lt long
  rw [if_neg long, add_eq (by omega), ok_bind]
  by_cases cut : buffer.length < buffer[0].toNat + overhead
  · rw [if_pos cut, if_pos (.inr cut)]
    rfl
  rw [if_neg cut, if_neg (by omega), add_eq (by omega), ok_bind,
    Crc.checkedCheck_eq (by omega) (by omega), ok_bind, checkCrc, Nat.add_comm 2]
  cases Crc.check buffer (buffer[0].toNat + 2) with
  | error sums => rfl
  | ok =>
    dsimp only
    rw [byte_eq (by omega), ok_bind, List.getD_eq_getElem _ _ (by omega),
      part_eq (by omega) (by omega), ok_bind, Nat.add_sub_cancel]
    rfl

end Frame

/-! ### Handshakes -/

section

variable [Primitives]

namespace Handshake

/-- The tag of a transcript hash. -/
def checkedTag (suite : CipherSuite) (authentication : Key) (transcript : Octets 32) :
    Checked (Except HandshakeError Tag) := do
  let nonce ← Session.checkedNonce 0
  match Aead.encrypt suite authentication nonce transcript.val [] with
  | .ok (_, tag) => return .ok tag
  | .error _ => return .error .aead

theorem checkedTag_eq (suite : CipherSuite) (authentication : Key) (transcript : Octets 32) :
    checkedTag suite authentication transcript = .ok (tag suite authentication transcript) := by
  rw [checkedTag, tag, Session.checkedNonce_eq, ok_bind]
  cases Aead.encrypt suite authentication (Session.nonce 0) transcript.val [] <;> rfl

omit [Primitives] in
/-- A response: an ephemeral public key and a tag, written into a buffer. -/
def checkedResponse (ephemeral : Key) (tag : Tag) : Checked Bytes := do
  let front ← copy (List.replicate responseLength 0) 0 32 ephemeral.val
  copy front 32 responseLength tag.val

omit [Primitives] in
theorem checkedResponse_eq (ephemeral : Key) (tag : Tag) :
    checkedResponse ephemeral tag = .ok (ephemeral.val ++ tag.val) := by
  have key := ephemeral.property
  have last := tag.property
  have size : responseLength = 48 := rfl
  have front : Bytes.overlay (List.replicate responseLength 0) 0 ephemeral.val =
      ephemeral.val ++ List.replicate 16 0 :=
    Bytes.overlay_cleared 16 (by omega)
  have length : (ephemeral.val ++ List.replicate 16 0 : Bytes).length = 48 := by
    rw [List.length_append, key, List.length_replicate]
  have whole : Bytes.overlay (ephemeral.val ++ List.replicate 16 0) 32 tag.val =
      ephemeral.val ++ tag.val := by
    rw [Bytes.overlay, List.take_left' key, List.drop_of_length_le (by omega), List.append_nil]
  rw [checkedResponse, copy_eq key (by omega) (by rw [List.length_replicate]; omega), ok_bind,
    front, copy_eq (by omega) (by omega) (by omega), whole]

end Handshake

namespace Responder

/-- Answers a request, given what stands in the pairing slots. -/
def checkedAnswer (chip : Responder) (request : Bytes)
    (pairing : PairingSlot → Checked (Option Key)) :
    Checked (Except HandshakeError (Bytes × SessionKeys)) :=
  if request.length ≠ Handshake.requestLength then return .error .malformedMessage
  else do
    match PairingSlot.ofByte (← byte request 32) with
    | .error cause => return .error cause
    | .ok slot =>
      match ← pairing slot with
      | none => return .error .authentication
      | some hostStatic =>
        let bytes ← part request 0 32
        let hostEphemeral ← fixed 32 bytes
        let transcript := (chip.transcript hostStatic hostEphemeral slot).hash chip.suite
        let (authentication, keys) :=
          (chip.sharedSecrets hostStatic hostEphemeral).keys chip.suite
        match ← Handshake.checkedTag chip.suite authentication transcript with
        | .error cause => return .error cause
        | .ok tag =>
          let response ← Handshake.checkedResponse (Primitives.publicKey chip.ephemeral) tag
          return .ok (response, keys)

theorem checkedAnswer_eq (chip : Responder) (request : Bytes)
    {pairing : PairingSlot → Checked (Option Key)} {known : PairingSlot → Option Key}
    (reads : ∀ slot, pairing slot = .ok (known slot)) :
    chip.checkedAnswer request pairing = .ok (chip.answer request known) := by
  unfold checkedAnswer answer
  by_cases whole : request.length = Handshake.requestLength
  case neg =>
    rw [if_pos whole, if_pos whole]
    rfl
  have length : request.length = 33 := whole
  rw [if_neg (not_not.mpr whole), if_neg (not_not.mpr whole), byte_eq (by omega), ok_bind]
  cases PairingSlot.ofByte (request.getD 32 0) with
  | error cause => rfl
  | ok slot =>
    dsimp only
    rw [reads, ok_bind]
    change _ = Except.ok (match known slot with
      | none => _
      | some hostStatic => _)
    cases known slot with
    | none => rfl
    | some hostStatic =>
      have same : (Octets.fit 32 request).val = request.slice 0 32 := by
        simp [Octets.fit, Bytes.slice, length]
      dsimp only
      rw [part_eq (by omega) (by omega), ok_bind, ← same, fixed_val, ok_bind,
        Handshake.checkedTag_eq, ok_bind]
      cases Handshake.tag chip.suite
          ((chip.sharedSecrets hostStatic (Octets.fit 32 request)).keys chip.suite).1
          ((chip.transcript hostStatic (Octets.fit 32 request) slot).hash chip.suite) with
      | error cause => rfl
      | ok tag =>
        dsimp only
        rw [Handshake.checkedResponse_eq]
        rfl

end Responder

end

/-- The usable pairing key of a slot. -/
def Store.checkedPairingKey? (store : Store) (slot : PairingSlot) : Checked (Option Key) := do
  match ← place store.pairing slot with
  | .written key => return some key
  | _ => return none

theorem Store.checkedPairingKey?_eq (store : Store) (slot : PairingSlot) :
    store.checkedPairingKey? slot = .ok (store.pairingKey? slot) := by
  rw [checkedPairingKey?, place_eq store.pairing slot, ok_bind, pairingKey?]
  cases store.pairing[slot] <;> rfl

end SecureElement
