import SecureElement.Handshake
import SecureElement.Proofs.Sealing

/-!
What the two parties of a handshake agree on.

The host accepts exactly one tag for each key that the chip may have sent
(`Initiator.finish_eq`), and the chip answers exactly where it knows the host
(`Responder.answer_request`). If key agreement commutes for the keys of the two
parties, the chip's answer is what the host accepts, and both derive the same
keys (`Responder.finish_answer`). The converse, that the host accepts nothing
else, is not a matter of the handshake but of the cryptography: it is what
`Initiator.Trusts` says of one meeting.
-/

namespace SecureElement

theorem PairingSlot.byte_injective : Function.Injective PairingSlot.byte := by
  intro slot other same
  have read := ofByte_byte slot
  rw [same, ofByte_byte] at read
  exact (Except.ok.inj read).symm

theorem PairingSlot.ofByte_eq_ok {byte : UInt8} {slot : PairingSlot}
    (ok : ofByte byte = .ok slot) : byte = slot.byte := by
  unfold ofByte at ok
  split at ok
  · cases ok
    exact UInt8.ofNat_toNat.symm
  · cases ok

namespace Handshake

/-- Every response of the right length is a key and a tag. -/
theorem exists_parts {response : Bytes} (size : response.length = responseLength) :
    ∃ (chipEphemeral : Key) (tag : Tag), response = chipEphemeral.val ++ tag.val ∧
      chipEphemeral = Octets.fit 32 response := by
  have front : (response.take 32).length = 32 := by
    rw [List.length_take, size]
    rfl
  have back : (response.drop 32).length = 16 := by
    rw [List.length_drop, size]
    rfl
  refine ⟨⟨response.take 32, front⟩, ⟨response.drop 32, back⟩,
    (List.take_append_drop 32 response).symm, Subtype.ext ?_⟩
  simp [Octets.fit, size, responseLength]

/-! ### Tags -/

variable [Primitives]

/-- Every transcript has a tag. -/
theorem tag_eq_ok (total : Aead.Total) (suite : CipherSuite) (authentication : Key)
    (transcript : Octets 32) : ∃ tag, Handshake.tag suite authentication transcript = .ok tag := by
  obtain ⟨cipher, tag, encrypted⟩ := total.encrypts suite authentication (Session.nonce 0)
    transcript.val (show ([] : Bytes).length ≤ Session.maxSize from Nat.zero_le _)
  exact ⟨tag, by simp [Handshake.tag, Aead.encrypt, encrypted]⟩

/-- A tag is what an empty text encrypts to. -/
theorem encrypt?_of_tag {suite : CipherSuite} {authentication : Key} {transcript : Octets 32}
    {expected : Tag} (made : Handshake.tag suite authentication transcript = .ok expected) :
    Primitives.encrypt? suite authentication (Session.nonce 0) transcript.val [] =
      some ([], expected) := by
  unfold Handshake.tag Aead.encrypt at made
  cases encrypted : Primitives.encrypt? suite authentication (Session.nonce 0) transcript.val []
      with
  | none => simp [encrypted] at made
  | some pair =>
    have empty := List.length_eq_zero_iff.mp (Primitives.length_encrypt? encrypted)
    simp only [encrypted, Except.ok.injEq] at made
    exact congrArg some (Prod.ext empty made)

/-- A tag verifies if the empty text opens with it. -/
theorem verifyTag_eq_ok_iff {suite : CipherSuite} {authentication : Key}
    {transcript : Octets 32} {tag : Tag} :
    verifyTag suite authentication transcript tag.val = .ok () ↔
      Primitives.decrypt? suite authentication (Session.nonce 0) transcript.val [] tag =
        some [] := by
  unfold verifyTag
  rw [Aead.decrypt_tag]
  cases opened : Primitives.decrypt? suite authentication (Session.nonce 0) transcript.val [] tag
      with
  | none => simp
  | some plain =>
    have empty : plain = [] := List.length_eq_zero_iff.mp (Primitives.length_decrypt? opened)
    simp [empty]

/-- The tag of a transcript verifies. -/
theorem verifyTag_expected (inverts : Aead.Inverts) {suite : CipherSuite} {authentication : Key}
    {transcript : Octets 32} {expected : Tag}
    (made : Handshake.tag suite authentication transcript = .ok expected) :
    verifyTag suite authentication transcript expected.val = .ok () :=
  verifyTag_eq_ok_iff.mpr (inverts.decrypts (encrypt?_of_tag made))

/-- A tag verifies if and only if it is the tag of the transcript. -/
theorem verifyTag_eq (aead : Aead.Exact) {suite : CipherSuite} {authentication : Key}
    {transcript : Octets 32} {expected : Tag}
    (made : Handshake.tag suite authentication transcript = .ok expected) (tag : Tag) :
    verifyTag suite authentication transcript tag.val =
      if tag = expected then .ok () else .error .authentication := by
  have encrypted := encrypt?_of_tag made
  unfold verifyTag
  rw [Aead.decrypt_tag]
  by_cases same : tag = expected
  · rw [same, aead.decrypts encrypted, if_pos rfl]
  · rw [if_neg same]
    cases decrypted : Primitives.decrypt? suite authentication (Session.nonce 0) transcript.val []
        tag with
    | none => rfl
    | some plain =>
      have again := aead.produced decrypted
      have empty := List.length_eq_zero_iff.mp (Primitives.length_decrypt? decrypted)
      rw [empty, encrypted] at again
      exact absurd (congrArg Prod.snd (Option.some.inj again)).symm same

end Handshake

variable [Primitives]

/-! ### The host -/

namespace Initiator

/-- The tag that the host expects, given the chip's ephemeral public key. -/
def expectedTag (host : Initiator) (chipEphemeral : Key) : Except HandshakeError Tag :=
  Handshake.tag host.suite ((host.sharedSecrets chipEphemeral).keys host.suite).1
    ((host.transcript chipEphemeral).hash host.suite)

/-- The session keys that the host derives, given the chip's ephemeral public
key. -/
def sessionKeys (host : Initiator) (chipEphemeral : Key) : SessionKeys :=
  ((host.sharedSecrets chipEphemeral).keys host.suite).2

theorem length_request (host : Initiator) : host.request.length = Handshake.requestLength := by
  simp [request, host.ephemeralPublic.property, Handshake.requestLength]

/-- A response of another length than that of a key and a tag is malformed. -/
theorem finish_of_length (host : Initiator) {response : Bytes}
    (other : response.length ≠ Handshake.responseLength) :
    host.finish response = .error .malformedMessage :=
  if_pos other

/-- What the host derives from what it accepts. -/
theorem of_finish_eq_ok {host : Initiator} {response : Bytes} {keys : SessionKeys}
    (ok : host.finish response = .ok keys) :
    keys = host.sessionKeys (Octets.fit 32 response) := by
  unfold finish at ok
  split at ok
  · cases ok
  · dsimp only [bind, Except.bind] at ok
    split at ok
    · cases ok
    · exact (Except.ok.inj ok).symm

/-- Whether the host accepts a key and a tag depends on the tag alone. -/
theorem finish_parts (host : Initiator) (chipEphemeral : Key) (tag : Tag) :
    host.finish (chipEphemeral.val ++ tag.val) =
      (Handshake.verifyTag host.suite ((host.sharedSecrets chipEphemeral).keys host.suite).1
        ((host.transcript chipEphemeral).hash host.suite) tag.val).map
        fun _ => host.sessionKeys chipEphemeral := by
  have size : (chipEphemeral.val ++ tag.val).length = Handshake.responseLength := by
    rw [List.length_append, chipEphemeral.property, tag.property]
    rfl
  have rest : (chipEphemeral.val ++ tag.val).drop 32 = tag.val :=
    List.drop_left' chipEphemeral.property
  unfold finish
  rw [if_neg (not_not_intro size), Octets.fit_append, rest]
  dsimp only
  cases Handshake.verifyTag host.suite ((host.sharedSecrets chipEphemeral).keys host.suite).1
    ((host.transcript chipEphemeral).hash host.suite) tag.val <;> rfl

/-- The host accepts a key and the tag that it expects. -/
theorem finish_expected (inverts : Aead.Inverts) {host : Initiator} {chipEphemeral : Key}
    {expected : Tag} (made : host.expectedTag chipEphemeral = .ok expected) :
    host.finish (chipEphemeral.val ++ expected.val) = .ok (host.sessionKeys chipEphemeral) := by
  rw [finish_parts, Handshake.verifyTag_expected inverts made]
  rfl

/-- The host accepts a key and a tag if and only if the tag is the one it
expects. -/
theorem finish_eq (aead : Aead.Exact) {host : Initiator} {chipEphemeral : Key} {expected : Tag}
    (made : host.expectedTag chipEphemeral = .ok expected) (tag : Tag) :
    host.finish (chipEphemeral.val ++ tag.val) =
      if tag = expected then .ok (host.sessionKeys chipEphemeral)
      else .error .authentication := by
  rw [finish_parts, Handshake.verifyTag_eq aead made tag]
  split <;> rfl

/-- The host accepts a response if and only if it is a key and the tag that it
expects for the key. -/
theorem finish_eq_ok_iff (aead : Aead.Exact) {host : Initiator} {response : Bytes}
    {keys : SessionKeys} :
    host.finish response = .ok keys ↔
      response.length = Handshake.responseLength ∧
        (∃ tag, host.expectedTag (Octets.fit 32 response) = .ok tag ∧
          response.drop 32 = tag.val) ∧
        keys = host.sessionKeys (Octets.fit 32 response) := by
  by_cases size : response.length = Handshake.responseLength
  · obtain ⟨chipEphemeral, tag, rfl, -⟩ := Handshake.exists_parts size
    obtain ⟨expected, made⟩ := Handshake.tag_eq_ok aead.toTotal host.suite
      ((host.sharedSecrets chipEphemeral).keys host.suite).1
      ((host.transcript chipEphemeral).hash host.suite)
    have made : host.expectedTag chipEphemeral = .ok expected := made
    rw [finish_eq aead made tag, Octets.fit_append, List.drop_left' chipEphemeral.property, made]
    split
    · rename_i same
      subst same
      constructor
      · rintro ⟨⟩
        exact ⟨size, ⟨tag, rfl, rfl⟩, rfl⟩
      · rintro ⟨-, -, rfl⟩
        rfl
    · rename_i other
      constructor
      · rintro ⟨⟩
      · rintro ⟨-, ⟨_, ⟨⟩, same⟩, -⟩
        exact absurd (Subtype.ext same) other
  · rw [host.finish_of_length size]
    constructor
    · rintro ⟨⟩
    · exact fun h => absurd h.1 size

/-- A response of the right length that is not accepted fails to authenticate. -/
theorem finish_of_refused (aead : Aead.Exact) {host : Initiator} {response : Bytes}
    (size : response.length = Handshake.responseLength)
    (refused : ∀ keys, host.finish response ≠ .ok keys) :
    host.finish response = .error .authentication := by
  obtain ⟨chipEphemeral, tag, rfl, -⟩ := Handshake.exists_parts size
  obtain ⟨expected, made⟩ := Handshake.tag_eq_ok aead.toTotal host.suite
    ((host.sharedSecrets chipEphemeral).keys host.suite).1
    ((host.transcript chipEphemeral).hash host.suite)
  have finished := finish_eq aead (show host.expectedTag chipEphemeral = _ from made) tag
  split at finished
  · exact absurd finished (refused _)
  · exact finished

end Initiator

/-! ### The chip -/

namespace Responder

/-- The chip reads the slot that the host names. -/
theorem ofByte_request (host : Initiator) :
    PairingSlot.ofByte (host.request.getD 32 0) = .ok host.slot := by
  have byte : host.request.getD 32 0 = host.slot.byte := by
    simp [Initiator.request, host.ephemeralPublic.property]
  rw [byte, PairingSlot.ofByte_byte]

/-- The key of a request. -/
theorem fit_request (host : Initiator) : Octets.fit 32 host.request = host.ephemeralPublic :=
  Octets.fit_append _ _

/-- The chip's answer to a host that it knows. -/
theorem answer_request (chip : Responder) (host : Initiator) {hostStatic : Key}
    {pairing : PairingSlot → Option Key} (known : pairing host.slot = some hostStatic) :
    chip.answer host.request pairing =
      (Handshake.tag chip.suite
        ((chip.sharedSecrets hostStatic host.ephemeralPublic).keys chip.suite).1
        ((chip.transcript hostStatic host.ephemeralPublic host.slot).hash chip.suite)).map
        fun tag => ((Primitives.publicKey chip.ephemeral).val ++ tag.val,
          ((chip.sharedSecrets hostStatic host.ephemeralPublic).keys chip.suite).2) := by
  unfold answer
  rw [if_neg (not_not_intro host.length_request), ofByte_request, fit_request]
  simp only [bind, Except.bind, known]
  cases Handshake.tag chip.suite
    ((chip.sharedSecrets hostStatic host.ephemeralPublic).keys chip.suite).1
    ((chip.transcript hostStatic host.ephemeralPublic host.slot).hash chip.suite) <;> rfl

section

variable {chip : Responder} {request response : Bytes} {pairing : PairingSlot → Option Key}
  {keys : SessionKeys}

/-- What an answer consists of, whatever the request. -/
theorem of_answer_eq_ok (ok : chip.answer request pairing = .ok (response, keys)) :
    request.length = Handshake.requestLength ∧ ∃ slot hostStatic tag,
      PairingSlot.ofByte (request.getD 32 0) = .ok slot ∧ pairing slot = some hostStatic ∧
      Handshake.tag chip.suite
        ((chip.sharedSecrets hostStatic (Octets.fit 32 request)).keys chip.suite).1
        ((chip.transcript hostStatic (Octets.fit 32 request) slot).hash chip.suite) = .ok tag ∧
      response = (Primitives.publicKey chip.ephemeral).val ++ tag.val ∧
      keys = ((chip.sharedSecrets hostStatic (Octets.fit 32 request)).keys chip.suite).2 := by
  unfold answer at ok
  split at ok
  · cases ok
  · rename_i size
    cases read : PairingSlot.ofByte (request.getD 32 0) with
    | error cause => rw [read] at ok; cases ok
    | ok slot =>
      rw [read] at ok
      cases known : pairing slot with
      | none => simp [bind, Except.bind, known] at ok
      | some hostStatic =>
        simp only [bind, Except.bind, known] at ok
        split at ok
        · cases ok
        · rename_i tag made
          simp only [pure, Except.pure, Except.ok.injEq, Prod.mk.injEq] at ok
          exact ⟨Decidable.not_not.mp size, slot, hostStatic, tag, rfl, known, made,
            ok.1.symm, ok.2.symm⟩

theorem length_of_answer (ok : chip.answer request pairing = .ok (response, keys)) :
    response.length = Handshake.responseLength := by
  obtain ⟨-, -, -, tag, -, -, -, rfl, -⟩ := of_answer_eq_ok ok
  rw [List.length_append, (Primitives.publicKey chip.ephemeral).property, tag.property]
  rfl

/-- The chip does not answer a host that it does not know. -/
theorem known_of_answer {host : Initiator}
    (ok : chip.answer host.request pairing = .ok (response, keys)) :
    ∃ (hostStatic : Key) (tag : Tag), pairing host.slot = some hostStatic ∧
      response = (Primitives.publicKey chip.ephemeral).val ++ tag.val ∧
      keys = ((chip.sharedSecrets hostStatic host.ephemeralPublic).keys chip.suite).2 := by
  obtain ⟨-, slot, hostStatic, tag, named, known, -, parts, derived⟩ := of_answer_eq_ok ok
  rw [ofByte_request] at named
  cases named
  rw [fit_request] at derived
  exact ⟨hostStatic, tag, known, parts, derived⟩

end

end Responder

/-! ### Agreement -/

/-- Two private keys for which key agreement commutes. -/
def Commutes (key other : Key) : Prop :=
  Primitives.agree key (Primitives.publicKey other) =
    Primitives.agree other (Primitives.publicKey key)

instance (key other : Key) : Decidable (Commutes key other) :=
  inferInstanceAs (Decidable (_ = _))

/-- A host and a chip that know each other and whose keys commute. -/
structure Initiator.Meets (host : Initiator) (chip : Responder)
    (pairing : PairingSlot → Option Key) : Prop where
  suite : chip.suite = host.suite
  hostPublic : host.hostPublic = Primitives.publicKey host.hostPrivate
  known : pairing host.slot = some host.hostPublic
  chipPublic : host.chipPublic = Primitives.publicKey chip.static
  ephemerals : Commutes host.ephemeral chip.ephemeral
  hostStatic : Commutes host.hostPrivate chip.ephemeral
  chipStatic : Commutes host.ephemeral chip.static

namespace Initiator

variable {host : Initiator} {chip : Responder} {pairing : PairingSlot → Option Key}

/-- Both have the same transcript. -/
theorem Meets.transcript (meets : host.Meets chip pairing) :
    chip.transcript host.hostPublic host.ephemeralPublic host.slot =
      host.transcript (Primitives.publicKey chip.ephemeral) := by
  unfold Responder.transcript Initiator.transcript
  rw [meets.chipPublic]

/-- Both share the same secrets. -/
theorem Meets.sharedSecrets (meets : host.Meets chip pairing) :
    chip.sharedSecrets host.hostPublic host.ephemeralPublic =
      host.sharedSecrets (Primitives.publicKey chip.ephemeral) := by
  have ephemeral := meets.ephemerals
  have hostStatic := meets.hostStatic
  have chipStatic := meets.chipStatic
  unfold Commutes at ephemeral hostStatic chipStatic
  unfold Responder.sharedSecrets Initiator.sharedSecrets Initiator.ephemeralPublic
  rw [meets.hostPublic, meets.chipPublic, ephemeral, hostStatic, chipStatic]

/-- The chip answers, the host accepts the answer, and both derive the same
keys. -/
theorem Meets.agree (meets : host.Meets chip pairing) (total : Aead.Total) :
    ∃ response keys, chip.answer host.request pairing = .ok (response, keys) ∧
      host.finish response = .ok keys := by
  obtain ⟨tag, tagged⟩ := Handshake.tag_eq_ok total chip.suite
    ((chip.sharedSecrets host.hostPublic host.ephemeralPublic).keys chip.suite).1
    ((chip.transcript host.hostPublic host.ephemeralPublic host.slot).hash chip.suite)
  have answered := chip.answer_request host meets.known
  rw [tagged] at answered
  refine ⟨_, _, answered, ?_⟩
  rw [meets.suite, meets.transcript, meets.sharedSecrets] at tagged
  rw [finish_expected total.toInverts tagged, meets.sharedSecrets, meets.suite]
  rfl

theorem Meets.finish (meets : host.Meets chip pairing) (aead : Aead.Exact) :
    ∃ response keys, chip.answer host.request pairing = .ok (response, keys) ∧
      host.finish response = .ok keys := meets.agree aead.toTotal

/-- If the host accepts the chip's answer, both fed the same secrets and the same
transcript to the same key schedule. -/
def Trusts (host : Initiator) (chip : Responder) (pairing : PairingSlot → Option Key) : Prop :=
  ∀ hostStatic response keys keys', pairing host.slot = some hostStatic →
    chip.answer host.request pairing = .ok (response, keys) → host.finish response = .ok keys' →
    chip.suite = host.suite ∧
      chip.transcript hostStatic host.ephemeralPublic host.slot =
        host.transcript (Primitives.publicKey chip.ephemeral) ∧
      chip.sharedSecrets hostStatic host.ephemeralPublic =
        host.sharedSecrets (Primitives.publicKey chip.ephemeral)

/-- Parties that meet trust each other. -/
theorem Meets.trusts (meets : host.Meets chip pairing) : host.Trusts chip pairing := by
  intro hostStatic response keys keys' known _ _
  rw [meets.known] at known
  cases known
  exact ⟨meets.suite, meets.transcript, meets.sharedSecrets⟩

/-- Parties that trust each other have the same suite and the same keys. -/
theorem Trusts.same (trusts : host.Trusts chip pairing) {response : Bytes}
    {keys keys' : SessionKeys} (answered : chip.answer host.request pairing = .ok (response, keys))
    (accepted : host.finish response = .ok keys') : chip.suite = host.suite ∧ keys' = keys := by
  obtain ⟨hostStatic, tag, known, parts, derived⟩ := Responder.known_of_answer answered
  obtain ⟨suites, -, secrets⟩ := trusts hostStatic response keys keys' known answered accepted
  refine ⟨suites, ?_⟩
  rw [of_finish_eq_ok accepted, parts, Octets.fit_append, sessionKeys, ← secrets, ← suites,
    derived]

end Initiator

end SecureElement
