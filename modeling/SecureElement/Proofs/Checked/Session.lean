import SecureElement.Proofs.Checked.Link
import SecureElement.Proofs.Nonces

/-!
Accesses while packets are protected and opened and while a handshake is finished.

Packets are encrypted and decrypted in their buffers. The size field of a frame is
the other side's; it is compared with the length of the frame before the frame is
taken apart by it.
-/

namespace SecureElement

open Checked

namespace Session

theorem sizes : sizeLength = 2 ∧ tagLength = 16 ∧ overhead = 18 := ⟨rfl, rfl, rfl⟩

/-- The nonce of a counter value, written into a buffer. -/
def checkedNonce (counter : UInt32) : Checked Nonce := do
  let bytes ← copy (List.replicate 12 0) 0 4 (Bytes.littleEndian 4 counter.toNat)
  fixed 12 bytes

theorem checkedNonce_eq (counter : UInt32) : checkedNonce counter = .ok (nonce counter) := by
  have written : copy (List.replicate 12 0) 0 4 (Bytes.littleEndian 4 counter.toNat) =
      .ok (nonce counter).val := copy_eq rfl (by decide) (by decide)
  rw [checkedNonce, written, ok_bind, fixed_val]

end Session

/-- The nonce of the next packet. -/
def Direction.checkedNextNonce (direction : Direction) : Checked (Except SessionError Nonce) :=
  if direction.counter = 0xFFFFFFFF then return .error .counterExhausted
  else return .ok (← Session.checkedNonce direction.counter)

theorem Direction.checkedNextNonce_eq (direction : Direction) :
    direction.checkedNextNonce = .ok direction.nextNonce := by
  unfold checkedNextNonce nextNonce
  rw [Session.checkedNonce_eq]
  split <;> rfl

section

variable [Primitives]

/-- Decrypts a text; a tag of the wrong length is a malformed frame. -/
def Aead.checkedDecrypt (suite : CipherSuite) (key : Key) (nonce : Nonce)
    (additional cipher tag : Bytes) : Checked (Except SessionError Bytes) :=
  if tag.length ≠ Session.tagLength then return .error .malformedFrame
  else do
    let tag ← fixed 16 tag
    match Primitives.decrypt? suite key nonce additional cipher tag with
    | some plain => return .ok plain
    | none => return .error .authentication

theorem Aead.checkedDecrypt_eq (suite : CipherSuite) (key : Key) (nonce : Nonce)
    (additional cipher tag : Bytes) :
    checkedDecrypt suite key nonce additional cipher tag =
      .ok (decrypt suite key nonce additional cipher tag) := by
  by_cases length : tag.length = Session.tagLength
  · obtain ⟨tag, rfl⟩ : ∃ octets : Tag, octets.val = tag := ⟨⟨tag, length⟩, rfl⟩
    rw [checkedDecrypt, if_neg (not_not.mpr length), fixed_val, ok_bind, decrypt_tag]
    cases Primitives.decrypt? suite key nonce additional cipher tag <;> rfl
  · rw [checkedDecrypt, if_pos length, decrypt, Octets.ofBytes?, dif_neg length]
    rfl

theorem Aead.length_encrypt {suite : CipherSuite} {key : Key} {nonce : Nonce}
    {additional plain cipher : Bytes} {tag : Tag}
    (encrypted : encrypt suite key nonce additional plain = .ok (cipher, tag)) :
    cipher.length = plain.length := by
  unfold encrypt at encrypted
  split at encrypted
  · cases encrypted
    exact Primitives.length_encrypt? ‹_›
  · cases encrypted

theorem Aead.length_decrypt {suite : CipherSuite} {key : Key} {nonce : Nonce}
    {additional cipher tag plain : Bytes}
    (decrypted : decrypt suite key nonce additional cipher tag = .ok plain) :
    plain.length = cipher.length := by
  unfold decrypt at decrypted
  split at decrypted
  · cases decrypted
  · split at decrypted
    · cases decrypted
      exact Primitives.length_decrypt? ‹_›
    · cases decrypted

/-! ### Packets -/

namespace Session

/-- Protects a packet in its buffer. -/
def checkedProtect (session : Session) (buffer : Bytes) (length : Nat) :
    Checked (Except SessionError Nat × Bytes × Session) := do
  let stop ← add 64 sizeLength length
  let frameLength ← add 64 stop tagLength
  if maxSize < length ∨ buffer.length < frameLength then
    return (.error .malformedFrame, buffer, session)
  else
    match ← session.sending.checkedNextNonce with
    | .error cause => return (.error cause, buffer, session)
    | .ok nonce =>
      let buffer ← copy buffer 0 sizeLength (Bytes.littleEndian sizeLength length)
      let behind ← part buffer sizeLength buffer.length
      let (packet, rest) ← split behind length
      match Aead.encrypt session.suite session.sending.key nonce [] packet with
      | .error cause => return (.error cause, buffer, session)
      | .ok (cipher, tag) =>
        let _ ← part rest 0 tagLength
        let buffer ← copy buffer sizeLength stop cipher
        let buffer ← copy buffer stop frameLength tag.val
        let counter ← succ session.sending.counter
        return (.ok frameLength, buffer,
          { session with sending := { session.sending with counter } })

/-- Verifies and decrypts a frame in its buffer; a decryption that fails leaves of it
what `spoil` does. -/
def checkedUnprotect (spoil : Bytes → Bytes) (session : Session) (frame : Bytes) :
    Checked (Except SessionError Nat × Bytes × Session) := do
  let least ← add 64 sizeLength tagLength
  if frame.length < least then return (.error .malformedFrame, frame, session)
  else
    let low ← byte frame 0
    let high ← byte frame 1
    let size := Bytes.ofLittleEndian [low, high]
    let stop ← add 64 sizeLength size
    let whole ← add 64 stop tagLength
    if frame.length ≠ whole then return (.error .malformedFrame, frame, session)
    else
      match ← session.receiving.checkedNextNonce with
      | .error cause => return (.error cause, frame, session)
      | .ok nonce =>
        let behind ← part frame sizeLength frame.length
        let (cipher, tag) ← split behind size
        match ← Aead.checkedDecrypt session.suite session.receiving.key nonce [] cipher tag with
        | .error cause => return (.error cause, spoil frame, session)
        | .ok packet =>
          let frame ← copy frame sizeLength stop packet
          let counter ← succ session.receiving.counter
          return (.ok size, frame,
            { session with receiving := { session.receiving with counter } })

variable {session : Session} {buffer frame : Bytes} {length : Nat}

theorem checkedProtect_eq (short : length < 2 ^ 63) :
    session.checkedProtect buffer length = .ok (session.protectInPlace buffer length) := by
  obtain ⟨two, sixteen, eighteen⟩ := sizes
  unfold checkedProtect protectInPlace
  rw [add_eq (by omega), ok_bind, add_eq (by omega), ok_bind, Direction.checkedNextNonce_eq]
  by_cases fits : maxSize < length ∨ buffer.length < length + overhead
  · rw [if_pos (by omega), if_pos fits]
    rfl
  rw [if_neg (by omega), if_neg fits, ok_bind]
  cases next : session.sending.nextNonce with
  | error cause => rfl
  | ok nonce =>
    obtain ⟨more, -⟩ := nextNonce_eq_ok_iff.mp next
    have field : (Bytes.littleEndian sizeLength length).length = sizeLength := by simp
    have kept : (buffer.overlay 0 (Bytes.littleEndian sizeLength length)).length =
        buffer.length := Bytes.length_overlay (by omega)
    dsimp only
    rw [copy_eq (by omega) (by omega) (by omega), ok_bind, part_eq (by omega) (Nat.le_refl _),
      ok_bind, Bytes.slice_eq_drop, split_eq (by rw [List.length_drop]; omega), ok_bind]
    dsimp only
    rw [← Bytes.slice]
    cases encrypted : Aead.encrypt session.suite session.sending.key nonce []
        ((buffer.overlay 0 (Bytes.littleEndian sizeLength length)).slice sizeLength length) with
    | error cause => rfl
    | ok made =>
      obtain ⟨cipher, tag⟩ := made
      have count : cipher.length = length :=
        (Aead.length_encrypt encrypted).trans (Bytes.length_slice (by omega))
      have kept' : ((buffer.overlay 0 (Bytes.littleEndian sizeLength length)).overlay sizeLength
          cipher).length = buffer.length := (Bytes.length_overlay (by omega)).trans kept
      dsimp only
      rw [part_eq (Nat.zero_le _) (by rw [List.length_drop, List.length_drop]; omega), ok_bind,
        copy_eq (by omega) (by omega) (by omega), ok_bind,
        copy_eq (by rw [tag.property]; omega) (by omega) (by omega), ok_bind, succ_eq more, ok_bind,
        count, show sizeLength + length + tagLength = length + overhead by omega]
      rfl

theorem checkedUnprotect_eq (spoil : Bytes → Bytes) :
    session.checkedUnprotect spoil frame = .ok (session.unprotectInPlace spoil frame) := by
  obtain ⟨two, sixteen, eighteen⟩ := sizes
  unfold checkedUnprotect unprotectInPlace
  rw [add_eq (by omega), ok_bind]
  by_cases short : frame.length < overhead
  · rw [if_pos (by omega)]
    dsimp only
    rw [if_pos short]
    rfl
  have field : frame.take sizeLength = [frame.getD 0 0, frame.getD 1 0] :=
    show frame.slice 0 2 = _ from Bytes.slice_two (by omega)
  -- Two bytes give no size that would make the sums below too large.
  have bounded : Bytes.ofLittleEndian (frame.take sizeLength) < 256 ^ 2 := by
    rw [field]
    exact Bytes.ofLittleEndian_lt _
  rw [if_neg (by omega), byte_eq (by omega), ok_bind, byte_eq (by omega), ok_bind, ← field]
  obtain ⟨size, given⟩ : ∃ size, Bytes.ofLittleEndian (frame.take sizeLength) = size := ⟨_, rfl⟩
  rw [given] at bounded
  dsimp only
  rw [given, if_neg short, add_eq (by omega), ok_bind, add_eq (by omega), ok_bind,
    Direction.checkedNextNonce_eq]
  by_cases whole : frame.length = size + overhead
  case neg =>
    rw [if_pos (by omega), if_pos whole]
    rfl
  rw [if_neg (by omega), if_neg (not_not.mpr whole), ok_bind]
  cases next : session.receiving.nextNonce with
  | error cause => rfl
  | ok nonce =>
    obtain ⟨more, -⟩ := nextNonce_eq_ok_iff.mp next
    dsimp only
    rw [part_eq (by omega) (Nat.le_refl _), ok_bind, Bytes.slice_eq_drop,
      split_eq (by rw [List.length_drop]; omega), ok_bind]
    dsimp only
    rw [← Bytes.slice, List.drop_drop, Aead.checkedDecrypt_eq, ok_bind]
    cases decrypted : Aead.decrypt session.suite session.receiving.key nonce []
        (frame.slice sizeLength size) (frame.drop (sizeLength + size)) with
    | error cause => rfl
    | ok packet =>
      have count : packet.length = size :=
        (Aead.length_decrypt decrypted).trans (Bytes.length_slice (by omega))
      dsimp only
      rw [copy_eq (by omega) (by omega) (by omega), ok_bind, succ_eq more, ok_bind]
      rfl

end Session

/-! ### Handshakes -/

/-- Checks the tag of a transcript hash. -/
def Handshake.checkedVerifyTag (suite : CipherSuite) (authentication : Key)
    (transcript : Octets 32) (tag : Bytes) : Checked (Except HandshakeError Unit) := do
  let nonce ← Session.checkedNonce 0
  match ← Aead.checkedDecrypt suite authentication nonce transcript.val [] tag with
  | .ok _ => return .ok ()
  | .error .authentication => return .error .authentication
  | .error _ => return .error .malformedMessage

theorem Handshake.checkedVerifyTag_eq (suite : CipherSuite) (authentication : Key)
    (transcript : Octets 32) (tag : Bytes) :
    checkedVerifyTag suite authentication transcript tag =
      .ok (verifyTag suite authentication transcript tag) := by
  rw [checkedVerifyTag, verifyTag, Session.checkedNonce_eq, ok_bind, Aead.checkedDecrypt_eq,
    ok_bind]
  rcases Aead.decrypt suite authentication (Session.nonce 0) transcript.val [] tag with
    (_ | _) | _ <;> rfl

namespace Initiator

/-- The host's ephemeral public key, taken from the request that it has built. -/
def checkedEphemeral (host : Initiator) : Checked Key := do
  let request ← Handshake.checkedRequest host.ephemeralPublic host.slot.byte
  let key ← part request 0 32
  fixed 32 key

/-- Verifies a response and returns the session keys. -/
def checkedFinish (host : Initiator) (response : Bytes) :
    Checked (Except HandshakeError SessionKeys) :=
  if response.length ≠ Handshake.responseLength then return .error .malformedMessage
  else do
    let key ← part response 0 32
    let chipEphemeral ← fixed 32 key
    let transcript := (host.transcript chipEphemeral).hash host.suite
    let (authentication, keys) := (host.sharedSecrets chipEphemeral).keys host.suite
    let tag ← part response 32 response.length
    match ← Handshake.checkedVerifyTag host.suite authentication transcript tag with
    | .error cause => return .error cause
    | .ok () => return .ok keys

variable (host : Initiator)

theorem checkedEphemeral_eq : host.checkedEphemeral = .ok host.ephemeralPublic := by
  have key := host.ephemeralPublic.property
  have front : (host.ephemeralPublic.val ++ [host.slot.byte]).slice 0 32 =
      host.ephemeralPublic.val := List.take_left' key
  rw [checkedEphemeral, Handshake.checkedRequest_eq, ok_bind,
    part_eq (Nat.zero_le _) (by rw [List.length_append]; omega), ok_bind, front, fixed_val]

theorem checkedFinish_eq (response : Bytes) :
    host.checkedFinish response = .ok (host.finish response) := by
  unfold checkedFinish finish
  by_cases whole : response.length = Handshake.responseLength
  case neg =>
    rw [if_pos whole, if_pos whole]
    rfl
  have length : response.length = 48 := whole
  have same : (Octets.fit 32 response).val = response.slice 0 32 := by
    simp [Octets.fit, Bytes.slice, length]
  rw [if_neg (not_not.mpr whole), if_neg (not_not.mpr whole), part_eq (by omega) (by omega),
    ok_bind, ← same, fixed_val, ok_bind]
  dsimp only
  rw [part_eq (by omega) (Nat.le_refl _), ok_bind, Bytes.slice_eq_drop,
    Handshake.checkedVerifyTag_eq, ok_bind]
  cases Handshake.verifyTag host.suite ((host.sharedSecrets (Octets.fit 32 response)).keys
    host.suite).1 ((host.transcript (Octets.fit 32 response)).hash host.suite)
    (response.drop 32) <;> rfl

end Initiator

end

end SecureElement
