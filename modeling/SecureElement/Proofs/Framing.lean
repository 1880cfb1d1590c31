import SecureElement.Proofs.Nonces

/-!
The codec of encrypted frames.

A packet is protected if and only if its length can be written in two bytes and the buffer
has room for the frame; otherwise the buffer and the session stay as they are. The length is
a machine word and may be anything, so the sums that are made of it before it is looked at
may wrap around (`Session.protectWord`); they are as good as those of numbers without bounds
(`Session.protectWord_eq`). Of all byte strings, the peer opens those that are written under
the same key and counter, to the packets that they were written for
(`Session.frames_exact`).
-/

namespace SecureElement.Session

section

variable [Primitives]

/-! ### Lengths -/

/-- Protects a packet whose length is a machine word. The sum of lengths wraps around, and
it is made before the length is looked at. -/
def protectWord (session : Session) (buffer : Bytes) (length : UInt64) :
    Except SessionError Nat × Bytes × Session :=
  let total : UInt64 := 2 + length + 16
  if 65535 < length ∨ buffer.length < total.toNat then (.error .malformedFrame, buffer, session)
  else
    match session.sending.nextNonce with
    | .error cause => (.error cause, buffer, session)
    | .ok nonce =>
      let sized := buffer.overlay 0 (Bytes.littleEndian sizeLength length.toUInt16.toNat)
      match Aead.encrypt session.suite session.sending.key nonce []
          (sized.slice sizeLength length.toNat) with
      | .error cause => (.error cause, sized, session)
      | .ok (cipher, tag) =>
        (.ok total.toNat,
          (sized.overlay sizeLength cipher).overlay (sizeLength + cipher.length) tag.val,
          { session with sending := session.sending.advance })

variable {session peer : Session} {buffer frame packet : Bytes} {length : UInt64}

omit [Primitives] in
/-- The sum of the lengths of a frame wraps around only if the packet is too long. -/
theorem toNat_total (short : length ≤ 65535) :
    (2 + length + 16 : UInt64).toNat = length.toNat + overhead := by
  have bound : length.toNat ≤ 65535 := short
  rw [UInt64.toNat_add, UInt64.toNat_add]
  change ((2 + length.toNat) % 2 ^ 64 + 16) % 2 ^ 64 = length.toNat + 18
  omega

/-- A length of 64 bits is treated as the number that it is. -/
theorem protectWord_eq (session : Session) (buffer : Bytes) (length : UInt64) :
    session.protectWord buffer length = session.protectInPlace buffer length.toNat := by
  by_cases long : 65535 < length
  case pos =>
    have long' : maxSize < length.toNat := long
    rw [protectWord, if_pos (.inl long), protectInPlace, if_pos (.inl long')]
  case neg =>
    have short : length ≤ 65535 := UInt64.not_lt.mp long
    have bound : length.toNat ≤ maxSize := short
    have same : length.toUInt16.toNat = length.toNat := by
      rw [UInt64.toNat_toUInt16]
      exact Nat.mod_eq_of_lt (Nat.lt_succ_of_le bound)
    unfold protectWord protectInPlace
    simp only [toNat_total short, same]
    exact if_congr Iff.rfl rfl rfl

/-! ### Writing -/

/-- Without room, or with a length that cannot be written, nothing changes. -/
theorem protectWord_of_unfit
    (unfit : maxSize < length.toNat ∨ buffer.length < length.toNat + overhead) :
    session.protectWord buffer length = (.error .malformedFrame, buffer, session) := by
  rw [protectWord_eq]
  exact if_pos unfit

/-- With room the frame is written, and nothing behind it. -/
theorem protectWord_of_fits (total : Aead.Total) (more : session.sending.counter ≠ 0xFFFFFFFF)
    (short : length.toNat ≤ maxSize) (room : length.toNat + overhead ≤ buffer.length) :
    ∃ cipher tag, cipher.length = length.toNat ∧
      Primitives.encrypt? session.suite session.sending.key (nonce session.sending.counter) []
        (buffer.slice sizeLength length.toNat) = some (cipher, tag) ∧
      session.protectWord buffer length =
        (.ok (length.toNat + overhead),
          sealed cipher tag ++ buffer.drop (length.toNat + overhead),
          { session with sending := session.sending.advance }) := by
  have inside : sizeLength + length.toNat ≤ buffer.length := by
    unfold overhead at room
    omega
  have count : (buffer.slice sizeLength length.toNat).length = length.toNat :=
    Bytes.length_slice inside
  obtain ⟨cipher, tag, encrypted⟩ := total.encrypts session.suite session.sending.key
    (nonce session.sending.counter) [] (count.symm ▸ short)
  have size : cipher.length = length.toNat := (Primitives.length_encrypt? encrypted).trans count
  refine ⟨cipher, tag, size, encrypted, ?_⟩
  rw [protectWord_eq, protectInPlace_of_ok (protect_eq_ok short room more encrypted),
    Bytes.overlay_zero, length_sealed, size]

/-- A party writes this frame for a packet and no other, wherever the packet stands behind
the place of a size field. -/
structure Writes (session : Session) (packet frame : Bytes) : Prop where
  some : ∃ (buffer : Bytes) (length : UInt64) (size : Nat) (written : Bytes) (after : Session),
    length.toNat = packet.length ∧ buffer.slice sizeLength length.toNat = packet ∧
      session.protectWord buffer length = (.ok size, written, after) ∧
      written.take size = frame
  same : ∀ (buffer : Bytes) (length : UInt64) (size : Nat) (written : Bytes) (after : Session),
    length.toNat = packet.length → buffer.slice sizeLength length.toNat = packet →
      session.protectWord buffer length = (.ok size, written, after) →
      written.take size = frame

/-- What stands in front after a packet was protected is the frame of its ciphertext. -/
theorem take_of_protectWord {size : Nat} {written : Bytes} {after : Session} (total : Aead.Total)
    (more : session.sending.counter ≠ 0xFFFFFFFF)
    (protects : session.protectWord buffer length = (.ok size, written, after)) :
    length.toNat ≤ maxSize ∧ ∃ cipher tag,
      Primitives.encrypt? session.suite session.sending.key (nonce session.sending.counter) []
        (buffer.slice sizeLength length.toNat) = some (cipher, tag) ∧
      written.take size = sealed cipher tag := by
  by_cases unfit : maxSize < length.toNat ∨ buffer.length < length.toNat + overhead
  case pos =>
    rw [protectWord_of_unfit unfit] at protects
    cases protects
  case neg =>
    have short : length.toNat ≤ maxSize := by omega
    have room : length.toNat + overhead ≤ buffer.length := by omega
    obtain ⟨cipher, tag, count, encrypted, done⟩ := protectWord_of_fits total more short room
    rw [done] at protects
    cases protects
    rw [← count, ← length_sealed cipher tag, List.take_left]
    exact ⟨count ▸ short, cipher, tag, count ▸ encrypted, rfl⟩

/-- A packet has a frame if its length can be written: that of its ciphertext. -/
theorem writes_iff (total : Aead.Total) (more : session.sending.counter ≠ 0xFFFFFFFF) :
    session.Writes packet frame ↔ packet.length ≤ maxSize ∧ ∃ cipher tag,
      Primitives.encrypt? session.suite session.sending.key (nonce session.sending.counter) []
        packet = some (cipher, tag) ∧ frame = sealed cipher tag := by
  constructor
  · rintro ⟨⟨buffer, length, size, written, after, count, rfl, protects, rfl⟩, -⟩
    obtain ⟨short, made⟩ := take_of_protectWord total more protects
    exact ⟨count ▸ short, made⟩
  · rintro ⟨short, cipher, tag, encrypted, rfl⟩
    constructor
    case some =>
      have count : (UInt64.ofNat packet.length).toNat = packet.length :=
        UInt64.toNat_ofNat_of_lt' (Nat.lt_of_le_of_lt short (by decide))
      -- A buffer with room for just this frame.
      have held : Bytes.slice (List.replicate sizeLength 0 ++ packet ++ List.replicate tagLength 0)
          sizeLength (UInt64.ofNat packet.length).toNat = packet := by
        rw [count, Bytes.slice, List.append_assoc, List.drop_left' List.length_replicate,
          List.take_left]
      have room : (UInt64.ofNat packet.length).toNat + overhead ≤
          (List.replicate sizeLength 0 ++ packet ++ List.replicate tagLength 0).length := by
        rw [count]
        simp [overhead]
        omega
      have fits : (UInt64.ofNat packet.length).toNat ≤ maxSize := count.symm ▸ short
      obtain ⟨cipher', tag', -, encrypted', done⟩ := protectWord_of_fits total more fits room
      obtain ⟨-, cipher'', tag'', encrypted'', front⟩ := take_of_protectWord total more done
      rw [held, encrypted] at encrypted''
      cases encrypted''
      exact ⟨_, _, _, _, _, count, held, done, front⟩
    case same =>
      rintro buffer length size written after - rfl protects
      obtain ⟨-, cipher', tag', encrypted', front⟩ := take_of_protectWord total more protects
      rw [encrypted] at encrypted'
      cases encrypted'
      exact front

/-! ### Opening -/

/-- What a frame opens to is what it was written for. -/
theorem unprotect_eq_ok_iff_writes (aead : Aead.Exact) (suites : peer.suite = session.suite)
    (counted : peer.receiving = session.sending) (more : session.sending.counter ≠ 0xFFFFFFFF)
    {after : Session} :
    peer.unprotect frame = .ok (packet, after) ↔
      session.Writes packet frame ∧
        after = { peer with receiving := peer.receiving.advance } := by
  rw [unprotect_eq_ok_iff, writes_iff aead.toTotal more, suites, counted]
  constructor
  · rintro ⟨-, same, cipher, tag, short, rfl, decrypted⟩
    have encrypted := aead.produced decrypted
    rw [Primitives.length_encrypt? encrypted] at short
    exact ⟨⟨short, cipher, tag, encrypted, rfl⟩, same⟩
  · rintro ⟨⟨short, cipher, tag, encrypted, rfl⟩, same⟩
    rw [← Primitives.length_encrypt? encrypted] at short
    exact ⟨more, same, cipher, tag, short, rfl, aead.decrypts encrypted⟩

variable (spoil : Bytes → Bytes)

/-- A frame that its size field does not describe is refused as it is. -/
theorem unprotectInPlace_of_misshapen
    (misshapen : frame.length < overhead ∨
      frame.length ≠ Bytes.ofLittleEndian (frame.take sizeLength) + overhead) :
    peer.unprotectInPlace spoil frame = (.error .malformedFrame, frame, peer) := by
  unfold unprotectInPlace
  dsimp only
  split
  · rfl
  · rename_i large
    exact if_pos (misshapen.resolve_left large)

/-- Another frame that does not open fails to authenticate. -/
theorem unprotectInPlace_of_forged (more : peer.receiving.counter ≠ 0xFFFFFFFF)
    (shaped : frame.length = Bytes.ofLittleEndian (frame.take sizeLength) + overhead)
    (forged : ∀ packet after, peer.unprotect frame ≠ .ok (packet, after)) :
    peer.unprotectInPlace spoil frame = (.error .authentication, spoil frame, peer) := by
  generalize size_eq : Bytes.ofLittleEndian (frame.take sizeLength) = size at shaped
  have behind : (frame.drop (sizeLength + size)).length = tagLength := by
    rw [List.length_drop, shaped]
    unfold overhead
    omega
  -- The tag has its length, so decryption can only fail to authenticate.
  have decrypts := Aead.decrypt_tag peer.suite peer.receiving.key (nonce peer.receiving.counter) []
    (frame.slice sizeLength size) ⟨frame.drop (sizeLength + size), behind⟩
  dsimp only at decrypts
  have next : peer.receiving.nextNonce = .ok (nonce peer.receiving.counter) :=
    nextNonce_eq_ok_iff.mpr ⟨more, rfl⟩
  unfold unprotectInPlace
  dsimp only
  rw [size_eq, if_neg (by omega), if_neg (not_not.mpr shaped), next]
  dsimp only
  rw [decrypts]
  cases plain : Primitives.decrypt? peer.suite peer.receiving.key (nonce peer.receiving.counter) []
      (frame.slice sizeLength size) ⟨frame.drop (sizeLength + size), behind⟩ with
  | none => rfl
  | some packet =>
    refine absurd ?_ (forged packet { peer with receiving := peer.receiving.advance })
    unfold unprotect
    dsimp only
    rw [size_eq, if_neg (by omega), if_neg (not_not.mpr shaped), next]
    simp only [bind, Except.bind, decrypts, plain]
    rfl

/-- In its buffer a frame is opened to what it was written for, and to nothing else. -/
theorem unprotectInPlace_opens_iff (aead : Aead.Exact) (suites : peer.suite = session.suite)
    (counted : peer.receiving = session.sending) (more : session.sending.counter ≠ 0xFFFFFFFF)
    {size : Nat} :
    (∃ opened after, peer.unprotectInPlace spoil frame = (.ok size, opened, after) ∧
        opened.slice sizeLength size = packet) ↔
      size = packet.length ∧ session.Writes packet frame := by
  constructor
  · rintro ⟨opened, after, opens, rfl⟩
    cases result : peer.unprotect frame with
    | error cause =>
      obtain ⟨left, fails⟩ := unprotectInPlace_of_error spoil result
      rw [fails] at opens
      cases opens
    | ok made =>
      obtain ⟨packet, after'⟩ := made
      rw [unprotectInPlace_of_ok spoil result] at opens
      cases opens
      rw [Bytes.slice_overlay (Nat.le_of_add_right_le (length_le_of_unprotect result))]
      exact ⟨rfl, ((unprotect_eq_ok_iff_writes aead suites counted more).mp result).1⟩
  · rintro ⟨rfl, writes⟩
    have result : peer.unprotect frame = _ :=
      (unprotect_eq_ok_iff_writes aead suites counted more).mpr ⟨writes, rfl⟩
    exact ⟨_, _, unprotectInPlace_of_ok spoil result,
      Bytes.slice_overlay (Nat.le_of_add_right_le (length_le_of_unprotect result))⟩

/-- **Frames are exact.** Between a party and its peer at the same count: a packet of any
length is protected if and only if its length can be written and the buffer has room, its
frame is then written to the front of the buffer and nothing behind it, and otherwise nothing
changes. The peer opens a frame to a packet if and only if it is the frame that is written for
the packet. It refuses any other, as malformed if its length is not the one that it says and
as forged if it is, and goes on as before. -/
theorem frames_exact (aead : Aead.Exact) (spoil : Bytes → Bytes) {session peer : Session}
    (suites : peer.suite = session.suite) (counted : peer.receiving = session.sending)
    (more : session.sending.counter ≠ 0xFFFFFFFF) :
    (∀ buffer (length : UInt64) size,
      (∃ written after, session.protectWord buffer length = (.ok size, written, after)) ↔
        size = 2 + length.toNat + 16 ∧ length.toNat ≤ 65535 ∧ size ≤ buffer.length) ∧
    (∀ buffer (length : UInt64), length.toNat ≤ 65535 → 2 + length.toNat + 16 ≤ buffer.length →
      ∃ cipher tag, cipher.length = length.toNat ∧
        Primitives.encrypt? session.suite session.sending.key (nonce session.sending.counter) []
          (buffer.slice 2 length.toNat) = some (cipher, tag) ∧
        session.protectWord buffer length =
          (.ok (2 + length.toNat + 16),
            Bytes.littleEndian 2 length.toNat ++ cipher ++ tag.val ++
              buffer.drop (2 + length.toNat + 16),
            { session with sending := session.sending.advance })) ∧
    (∀ buffer (length : UInt64), ¬(length.toNat ≤ 65535 ∧ 2 + length.toNat + 16 ≤ buffer.length) →
      session.protectWord buffer length = (.error .malformedFrame, buffer, session)) ∧
    (∀ frame packet size,
      (∃ opened after, peer.unprotectInPlace spoil frame = (.ok size, opened, after) ∧
          opened.slice 2 size = packet) ↔
        size = packet.length ∧ session.Writes packet frame) ∧
    (∀ frame packet, session.Writes packet frame →
      peer.unprotectInPlace spoil frame = (.ok packet.length, frame.overlay 2 packet,
        { peer with receiving := peer.receiving.advance })) ∧
    (∀ frame, (frame.length < 18 ∨ frame.length ≠ 18 + Bytes.ofLittleEndian (frame.take 2)) →
      peer.unprotectInPlace spoil frame = (.error .malformedFrame, frame, peer)) ∧
    ∀ frame, ¬(frame.length < 18 ∨ frame.length ≠ 18 + Bytes.ofLittleEndian (frame.take 2)) →
      (∀ packet, ¬session.Writes packet frame) →
      peer.unprotectInPlace spoil frame = (.error .authentication, spoil frame, peer) := by
  have fits_iff (buffer : Bytes) (length : UInt64) :
      (length.toNat ≤ 65535 ∧ 2 + length.toNat + 16 ≤ buffer.length) ↔
        ¬(maxSize < length.toNat ∨ buffer.length < length.toNat + overhead) := by
    simp only [maxSize, overhead, sizeLength, tagLength]
    omega
  have unfit (buffer : Bytes) (length : UInt64)
      (not : ¬(length.toNat ≤ 65535 ∧ 2 + length.toNat + 16 ≤ buffer.length)) :
      session.protectWord buffer length = (.error .malformedFrame, buffer, session) :=
    protectWord_of_unfit (not_not.mp (mt (fits_iff buffer length).mpr not))
  have fits (buffer : Bytes) (length : UInt64) (short : length.toNat ≤ 65535)
      (room : 2 + length.toNat + 16 ≤ buffer.length) :=
    protectWord_of_fits aead.toTotal more short
      (show length.toNat + overhead ≤ buffer.length from
        Nat.not_lt.mp fun less => (fits_iff buffer length).mp ⟨short, room⟩ (.inr less))
  have total (length : UInt64) : length.toNat + overhead = 2 + length.toNat + 16 := by
    simp only [overhead, sizeLength, tagLength]
    omega
  refine ⟨fun buffer length size => ?_, fun buffer length short room => ?_, unfit,
    fun frame packet size => unprotectInPlace_opens_iff spoil aead suites counted more,
    fun frame packet writes => ?_, fun frame misshapen => ?_, fun frame shaped forged => ?_⟩
  · constructor
    · rintro ⟨written, after, protects⟩
      by_cases both : length.toNat ≤ 65535 ∧ 2 + length.toNat + 16 ≤ buffer.length
      · obtain ⟨cipher, tag, -, -, done⟩ := fits buffer length both.1 both.2
        rw [done] at protects
        cases protects
        rw [total]
        exact ⟨rfl, both⟩
      · rw [unfit buffer length both] at protects
        cases protects
    · rintro ⟨rfl, short, room⟩
      obtain ⟨cipher, tag, -, -, done⟩ := fits buffer length short room
      rw [← total]
      exact ⟨_, _, done⟩
  · obtain ⟨cipher, tag, count, encrypted, done⟩ := fits buffer length short room
    rw [total, sealed, count] at done
    exact ⟨cipher, tag, count, encrypted, done⟩
  · exact unprotectInPlace_of_ok spoil
      ((unprotect_eq_ok_iff_writes aead suites counted more).mpr ⟨writes, rfl⟩)
  · rw [Nat.add_comm 18] at misshapen
    exact unprotectInPlace_of_misshapen spoil misshapen
  · rw [Nat.add_comm 18] at shaped
    refine unprotectInPlace_of_forged spoil (counted ▸ more)
      (not_not.mp fun other => shaped (.inr other)) fun packet after opens => ?_
    exact forged packet ((unprotect_eq_ok_iff_writes aead suites counted more).mp opens).1

end

/-- The greatest length of all makes the sum of the lengths that of a frame with room, and
still it is refused. The frame of three bytes is opened, and an empty frame is not. -/
theorem wrapping_length_refused :
    let keys : SessionKeys := ⟨.replicate 32 1, .replicate 32 2⟩
    let host := Session.forHost .aes256Gcm keys
    let chip := Session.forChip .aes256Gcm keys
    chip.suite = host.suite ∧ chip.receiving = host.sending ∧
      host.sending.counter ≠ 0xFFFFFFFF ∧
      (2 + 0xFFFFFFFFFFFFFFFF + 16 : UInt64) = 17 ∧
      host.protectWord (List.replicate 21 7) 0xFFFFFFFFFFFFFFFF =
        (.error .malformedFrame, List.replicate 21 7, host) ∧
      (∃ frame, host.Writes [7, 7, 7] frame ∧ ∃ opened after,
        chip.unprotectInPlace id frame = (.ok 3, opened, after) ∧
          opened.slice 2 3 = [7, 7, 7]) ∧
      chip.unprotectInPlace id [] = (.error .malformedFrame, [], chip) := by
  intro keys host chip
  have suites : chip.suite = host.suite := rfl
  have counted : chip.receiving = host.sending := rfl
  have fresh : host.sending.counter ≠ 0xFFFFFFFF := by decide
  obtain ⟨-, -, refused, opens, -, malformed, -⟩ :=
    frames_exact Standard.exact id suites counted fresh
  refine ⟨suites, counted, fresh, by decide, refused _ _ (by decide), ?_,
    malformed _ (.inl (by decide))⟩
  have encrypted := Standard.encrypt?_aes256Gcm keys.command (nonce 0) [] [7, 7, 7]
  have writes : host.Writes [7, 7, 7] (sealed _ _) :=
    (writes_iff Standard.exact.toTotal fresh).mpr ⟨by decide, _, _, encrypted, rfl⟩
  exact ⟨_, writes, (opens _ [7, 7, 7] 3).mpr ⟨rfl, writes⟩⟩

end SecureElement.Session
