import SecureElement.Primitives.Standard
import SecureElement.Proofs.ByteStrings
import SecureElement.Session

/-!
What protecting a packet writes and what unprotecting a frame accepts.

The proofs about sessions rest on three properties of authenticated encryption
and on nothing else of it: what was encrypted decrypts to the text it was made
from (`Aead.Inverts`), every packet can be encrypted (`Aead.Total`), and nothing
but what was encrypted decrypts (`Aead.Exact`). The standard algorithms have all
three (`Standard.exact`).
-/

namespace SecureElement

/-! ### Assumptions -/

/-- Decryption inverts encryption. -/
structure Aead.Inverts [Primitives] : Prop where
  decrypts {suite : CipherSuite} {key : Key} {nonce : Nonce} {additional plain cipher : Bytes}
    {tag : Tag} : Primitives.encrypt? suite key nonce additional plain = some (cipher, tag) →
      Primitives.decrypt? suite key nonce additional cipher tag = some plain

/-- Every text whose length the size field of a frame can give is encrypted. -/
structure Aead.Total [Primitives] : Prop extends Aead.Inverts where
  encrypts (suite : CipherSuite) (key : Key) (nonce : Nonce) (additional : Bytes) {plain : Bytes} :
    plain.length ≤ Session.maxSize →
      ∃ cipher tag, Primitives.encrypt? suite key nonce additional plain = some (cipher, tag)

/-- Decryption accepts nothing but what encryption produces. -/
structure Aead.Exact [Primitives] : Prop extends Aead.Total where
  produced {suite : CipherSuite} {key : Key} {nonce : Nonce} {additional plain cipher : Bytes}
    {tag : Tag} : Primitives.decrypt? suite key nonce additional cipher tag = some plain →
      Primitives.encrypt? suite key nonce additional plain = some (cipher, tag)

/-- The standard algorithms are exact. -/
theorem Standard.exact : Aead.Exact where
  encrypts suite key nonce additional plain short := by
    cases suite with
    | aes256Gcm => exact ⟨_, _, rfl⟩
    | aes256Ccm =>
      have fits : plain.length < Crypto.Ccm.lengthBound := Nat.lt_of_le_of_lt short (by decide)
      exact ⟨_, _, if_pos fits⟩
  decrypts := Standard.decrypt?_eq_some_iff.mpr
  produced := Standard.decrypt?_eq_some_iff.mp

theorem Standard.encrypt?_aes256Gcm (key : Key) (nonce : Nonce) (additional plain : Bytes) :
    Primitives.encrypt? .aes256Gcm key nonce additional plain =
      some (Crypto.Gcm.encrypt key nonce additional plain) := rfl

/-- A tag of the right length is verified. -/
theorem Aead.decrypt_tag [Primitives] (suite : CipherSuite) (key : Key) (nonce : Nonce)
    (additional cipher : Bytes) (tag : Tag) :
    Aead.decrypt suite key nonce additional cipher tag.val =
      match Primitives.decrypt? suite key nonce additional cipher tag with
      | some plain => .ok plain
      | none => .error .authentication := by
  have fits : Octets.ofBytes? Session.tagLength tag.val = some tag := Octets.ofBytes?_val tag
  unfold Aead.decrypt
  split
  · rename_i none
    rw [fits] at none
    cases none
  · rename_i other same
    rw [fits] at same
    cases same
    rfl

/-- A counter that is not used up counts on. -/
theorem Direction.toNat_advance {direction : Direction}
    (more : direction.counter ≠ 0xFFFFFFFF) :
    direction.advance.counter.toNat = direction.counter.toNat + 1 := by
  have bound := direction.counter.toNat_lt
  have other : direction.counter.toNat ≠ 4294967295 := fun last =>
    more (UInt32.toNat_inj.mp last)
  simp only [Direction.advance, UInt32.toNat_add, UInt32.toNat_one]
  omega

namespace Session

/-! ### Nonces -/

/-- Different counter values have different nonces. -/
theorem nonce_injective : Function.Injective nonce := by
  intro a b same
  have bytes := congrArg (fun n : Nonce => n.val.take 4) same
  simp only [nonce] at bytes
  rw [List.take_left' (by simp), List.take_left' (by simp)] at bytes
  exact UInt32.toNat_inj.mp (Bytes.littleEndian_inj a.toNat_lt b.toNat_lt bytes)

/-! ### Frames -/

/-- The frame of a ciphertext and its tag. -/
def sealed (cipher : Bytes) (tag : Tag) : Bytes :=
  Bytes.littleEndian sizeLength cipher.length ++ cipher ++ tag.val

@[simp] theorem length_sealed (cipher : Bytes) (tag : Tag) :
    (sealed cipher tag).length = cipher.length + overhead := by
  simp only [sealed, List.length_append, Bytes.length_littleEndian, tag.property, overhead,
    sizeLength, tagLength]
  omega

theorem sealed_ne_nil (cipher : Bytes) (tag : Tag) : sealed cipher tag ≠ [] := by
  refine List.ne_nil_of_length_pos ?_
  rw [length_sealed]
  exact Nat.lt_of_lt_of_le (by decide) (Nat.le_add_left overhead cipher.length)

theorem take_sealed (cipher : Bytes) (tag : Tag) :
    (sealed cipher tag).take sizeLength = Bytes.littleEndian sizeLength cipher.length := by
  rw [sealed, List.append_assoc, List.take_left' (by simp)]

theorem drop_sealed (cipher : Bytes) (tag : Tag) :
    (sealed cipher tag).drop sizeLength = cipher ++ tag.val := by
  rw [sealed, List.append_assoc, List.drop_left' (by simp)]

theorem slice_sealed (cipher : Bytes) (tag : Tag) :
    Bytes.slice (sealed cipher tag) sizeLength cipher.length = cipher := by
  rw [Bytes.slice, drop_sealed, List.take_left]

theorem drop_sealed_cipher (cipher : Bytes) (tag : Tag) :
    (sealed cipher tag).drop (sizeLength + cipher.length) = tag.val := by
  rw [← List.drop_drop, drop_sealed, List.drop_left]

/-- The size field of a frame is the length of its ciphertext. -/
theorem size_sealed {cipher : Bytes} (short : cipher.length ≤ maxSize) (tag : Tag) :
    Bytes.ofLittleEndian ((sealed cipher tag).take sizeLength) = cipher.length := by
  rw [take_sealed, Bytes.ofLittleEndian_littleEndian]
  exact Nat.lt_of_le_of_lt short (by decide)

theorem sealed_inj {cipher other : Bytes} {tag tag' : Tag}
    (short : cipher.length ≤ maxSize) (short' : other.length ≤ maxSize)
    (same : sealed cipher tag = sealed other tag') : cipher = other ∧ tag = tag' := by
  have sizes : cipher.length = other.length := by
    rw [← size_sealed short tag, same, size_sealed short' tag']
  have behind : cipher ++ tag.val = other ++ tag'.val := by
    rw [← drop_sealed, same, drop_sealed]
  have parts := List.append_inj behind sizes
  exact ⟨parts.1, Subtype.ext parts.2⟩

/-! ### Protecting -/

theorem nextNonce_eq_ok_iff {direction : Direction} {nonce : Nonce} :
    direction.nextNonce = .ok nonce ↔
      direction.counter ≠ 0xFFFFFFFF ∧ nonce = Session.nonce direction.counter := by
  unfold Direction.nextNonce
  split
  · rename_i last
    simp [last]
  · rename_i more
    simp [more, eq_comm]

/-- The frame stands at the start of the buffer. -/
theorem take_protected (buffer : Bytes) {cipher : Bytes} {length : Nat}
    (size : cipher.length = length) (tag : Tag) :
    (buffer.overlay 0 (sealed cipher tag)).take (length + overhead) = sealed cipher tag := by
  rw [← size, ← length_sealed cipher tag, Bytes.take_overlay_zero]

variable [Primitives]

/-- A packet is protected if its size can be written, the buffer has room, the
counter is not used up and there is an encryption. -/
theorem protect_eq_ok {session : Session} {buffer cipher : Bytes} {length : Nat} {tag : Tag}
    (short : length ≤ maxSize) (room : length + overhead ≤ buffer.length)
    (more : session.sending.counter ≠ 0xFFFFFFFF)
    (encrypted : Primitives.encrypt? session.suite session.sending.key
      (nonce session.sending.counter) [] (buffer.slice sizeLength length) = some (cipher, tag)) :
    session.protect buffer length =
      .ok (length + overhead, buffer.overlay 0 (sealed cipher tag),
        { session with sending := session.sending.advance }) := by
  have size : cipher.length = length := by
    rw [Primitives.length_encrypt? encrypted]
    exact Bytes.length_slice (by unfold overhead at room; omega)
  unfold protect
  rw [if_neg (by omega), nextNonce_eq_ok_iff.mpr ⟨more, rfl⟩]
  simp [bind, Except.bind, Aead.encrypt, encrypted, pure, Except.pure, sealed, size]

/-- What a call that succeeded did. -/
theorem of_protect_eq_ok {session after : Session} {buffer written : Bytes} {length size : Nat}
    (ok : session.protect buffer length = .ok (size, written, after)) :
    length ≤ maxSize ∧ length + overhead ≤ buffer.length ∧
      session.sending.counter ≠ 0xFFFFFFFF ∧ ∃ cipher tag,
        Primitives.encrypt? session.suite session.sending.key
          (nonce session.sending.counter) [] (buffer.slice sizeLength length) = some (cipher, tag) ∧
        size = length + overhead ∧ written = buffer.overlay 0 (sealed cipher tag) ∧
        after = { session with sending := session.sending.advance } := by
  have whole := ok
  unfold protect at ok
  split at ok
  · cases ok
  · rename_i fits
    have more : session.sending.counter ≠ 0xFFFFFFFF := by
      intro last
      simp [Direction.nextNonce, last, bind, Except.bind] at ok
    rw [nextNonce_eq_ok_iff.mpr ⟨more, rfl⟩] at ok
    cases encrypted : Primitives.encrypt? session.suite session.sending.key
        (nonce session.sending.counter) [] (buffer.slice sizeLength length) with
    | none => simp [bind, Except.bind, Aead.encrypt, encrypted] at ok
    | some made =>
      obtain ⟨cipher, tag⟩ := made
      have short : length ≤ maxSize := by omega
      have room : length + overhead ≤ buffer.length := by omega
      rw [protect_eq_ok short room more encrypted] at whole
      simp only [Except.ok.injEq, Prod.mk.injEq] at whole
      obtain ⟨rfl, rfl, rfl⟩ := whole
      exact ⟨short, room, more, cipher, tag, rfl, rfl, rfl, rfl⟩

/-- The frame that a call returns. -/
theorem frame_of_protect {session after : Session} {buffer written : Bytes} {length size : Nat}
    (ok : session.protect buffer length = .ok (size, written, after)) :
    ∃ cipher tag, Primitives.encrypt? session.suite session.sending.key
        (nonce session.sending.counter) [] (buffer.slice sizeLength length) = some (cipher, tag) ∧
      cipher.length = length ∧ written.take size = sealed cipher tag ∧
      after = { session with sending := session.sending.advance } := by
  obtain ⟨-, room, -, cipher, tag, encrypted, rfl, rfl, same⟩ := of_protect_eq_ok ok
  have length_cipher : cipher.length = length := by
    rw [Primitives.length_encrypt? encrypted]
    exact Bytes.length_slice (by unfold overhead at room; omega)
  exact ⟨cipher, tag, encrypted, length_cipher, take_protected buffer length_cipher tag, same⟩

/-! ### Unprotecting -/

/-- The frame of what decrypts to a packet opens. -/
theorem unprotect_sealed {session : Session} {cipher packet : Bytes} {tag : Tag}
    (short : cipher.length ≤ maxSize) (more : session.receiving.counter ≠ 0xFFFFFFFF)
    (decrypted : Primitives.decrypt? session.suite session.receiving.key
      (nonce session.receiving.counter) [] cipher tag = some packet) :
    session.unprotect (sealed cipher tag) =
      .ok (packet, { session with receiving := session.receiving.advance }) := by
  have opened : Aead.decrypt session.suite session.receiving.key
      (nonce session.receiving.counter) [] cipher tag.val = .ok packet := by
    rw [Aead.decrypt_tag, decrypted]
  unfold unprotect
  rw [if_neg (by simp)]
  dsimp only
  rw [size_sealed short, if_neg (by simp), nextNonce_eq_ok_iff.mpr ⟨more, rfl⟩, slice_sealed,
    drop_sealed_cipher]
  simp [bind, Except.bind, opened, pure, Except.pure]

/-- What a party has encrypted, its peer opens if it has counted the packets before. -/
theorem unprotect_of_encrypted {session peer : Session} {cipher packet : Bytes} {tag : Tag}
    (inverts : Aead.Inverts) (suite : session.suite = peer.suite)
    (same : session.receiving = peer.sending) (short : packet.length ≤ maxSize)
    (more : peer.sending.counter ≠ 0xFFFFFFFF)
    (encrypted : Primitives.encrypt? peer.suite peer.sending.key (nonce peer.sending.counter) []
      packet = some (cipher, tag)) :
    session.unprotect (sealed cipher tag) =
      .ok (packet, { session with receiving := session.receiving.advance }) := by
  refine unprotect_sealed ?_ (same ▸ more) ?_
  · rw [Primitives.length_encrypt? encrypted]
    exact short
  · rw [suite, same]
    exact inverts.decrypts encrypted

/-- A frame opens if and only if it is the frame of a ciphertext and a tag that
decrypt under the next nonce. -/
theorem unprotect_eq_ok_iff {session after : Session} {frame packet : Bytes} :
    session.unprotect frame = .ok (packet, after) ↔
      session.receiving.counter ≠ 0xFFFFFFFF ∧
      after = { session with receiving := session.receiving.advance } ∧
      ∃ cipher tag, cipher.length ≤ maxSize ∧ frame = sealed cipher tag ∧
        Primitives.decrypt? session.suite session.receiving.key
          (nonce session.receiving.counter) [] cipher tag = some packet := by
  constructor
  · intro ok
    unfold unprotect at ok
    split at ok
    · cases ok
    · rename_i long
      dsimp only at ok
      split at ok
      · cases ok
      · rename_i exactly
        have more : session.receiving.counter ≠ 0xFFFFFFFF := by
          intro last
          simp [Direction.nextNonce, last, bind, Except.bind] at ok
        rw [nextNonce_eq_ok_iff.mpr ⟨more, rfl⟩] at ok
        generalize sized : Bytes.ofLittleEndian (frame.take sizeLength) = size at ok exactly
        have two : (frame.take sizeLength).length = sizeLength := by
          simp [overhead] at long ⊢; omega
        have bound : size < 256 ^ sizeLength := by
          have lt := Bytes.ofLittleEndian_lt (frame.take sizeLength)
          rwa [sized, two] at lt
        have total : frame.length = size + overhead := Decidable.not_not.mp exactly
        have count : (frame.slice sizeLength size).length = size :=
          Bytes.length_slice (by rw [total]; unfold overhead; omega)
        have rest : (frame.drop (sizeLength + size)).length = tagLength := by
          simp [total, overhead]; omega
        have opened := Aead.decrypt_tag session.suite session.receiving.key
          (nonce session.receiving.counter) [] (frame.slice sizeLength size)
          ⟨frame.drop (sizeLength + size), rest⟩
        cases decrypted : Primitives.decrypt? session.suite session.receiving.key
            (nonce session.receiving.counter) [] (frame.slice sizeLength size)
            ⟨frame.drop (sizeLength + size), rest⟩ with
        | none => simp [bind, Except.bind, opened, decrypted] at ok
        | some plain =>
          simp only [bind, Except.bind, opened, decrypted, pure, Except.pure, Except.ok.injEq,
            Prod.mk.injEq] at ok
          obtain ⟨rfl, rfl⟩ := ok
          refine ⟨more, rfl, _, _, ?_, ?_, decrypted⟩
          · rw [count]
            exact Nat.le_of_lt_succ bound
          · have field : Bytes.littleEndian sizeLength size = frame.take sizeLength := by
              have back := Bytes.littleEndian_ofLittleEndian (frame.take sizeLength)
              rwa [sized, two] at back
            rw [sealed, count, field]
            simp only [Bytes.slice]
            rw [List.append_assoc, ← List.drop_drop, List.take_append_drop, List.take_append_drop]
  · rintro ⟨more, rfl, cipher, tag, short, rfl, decrypted⟩
    exact unprotect_sealed short more decrypted

/-- A packet is shorter than its frame. -/
theorem length_le_of_unprotect {session after : Session} {frame packet : Bytes}
    (ok : session.unprotect frame = .ok (packet, after)) :
    sizeLength + packet.length ≤ frame.length := by
  obtain ⟨-, -, cipher, tag, -, rfl, decrypted⟩ := unprotect_eq_ok_iff.mp ok
  rw [Primitives.length_decrypt? decrypted, length_sealed, overhead]
  omega

end Session

end SecureElement
