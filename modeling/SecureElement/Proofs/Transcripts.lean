import SecureElement.Primitives.Standard
import SecureElement.Proofs.Agreement
import SecureElement.Proofs.ByteStrings

/-!
What the hash of a transcript says about the transcript.

The hash is a chain that starts with the protocol name and takes in one part
after the other. If two chains of the same number of parts end alike, they are
the same chain, or at the step where they first meet two different strings have
the same hash (`chained_inj`). So two views with one digest are one view, or a
collision of the hash can be read off (`View.collision?`); nothing is assumed of
the hash for that.

The digest is the associated data of the tag, of the chip that makes it
(`Responder.encrypt?_of_answer`) and of the host that checks it
(`Initiator.exists_finish_iff`).
-/

namespace SecureElement

namespace Handshake

/-- What a party of a handshake saw. -/
@[ext]
structure View where
  suite : CipherSuite
  transcript : Transcript
deriving DecidableEq

section

variable [Primitives]

/-! ### Chains -/

/-- The end of a chain that starts with the hash of `input` and takes in `parts`. -/
def chained (input : Bytes) (parts : List Bytes) : Octets 32 :=
  parts.foldl (fun chain part => Primitives.hash (chain.val ++ part)) (Primitives.hash input)

/-- Everything that is hashed on the way. -/
def inputsFrom (input : Bytes) : List Bytes → List Bytes
  | [] => [input]
  | part :: parts => input :: inputsFrom ((Primitives.hash input).val ++ part) parts

/-- Two different strings with the same hash. -/
def Collide (left right : Bytes) : Prop :=
  left ≠ right ∧ Primitives.hash left = Primitives.hash right

instance (left right : Bytes) : Decidable (Collide left right) :=
  inferInstanceAs (Decidable (_ ∧ _))

/-- The end of a chain is the hash of what is hashed last. -/
theorem exists_last_inputsFrom (input : Bytes) (parts : List Bytes) :
    ∃ front last, inputsFrom input parts = front ++ [last] ∧
      Primitives.hash last = chained input parts := by
  induction parts generalizing input with
  | nil => exact ⟨[], input, rfl, rfl⟩
  | cons part parts ih =>
    obtain ⟨front, last, inputs, ends⟩ := ih ((Primitives.hash input).val ++ part)
    exact ⟨input :: front, last, congrArg (input :: ·) inputs, ends⟩

/-- Chains that end alike are the same, unless two inputs at the same step collide. -/
theorem chained_inj {input input' : Bytes} {parts parts' : List Bytes}
    (count : parts.length = parts'.length) (met : chained input parts = chained input' parts') :
    (input = input' ∧ parts = parts') ∨
      ∃ pair ∈ (inputsFrom input parts).zip (inputsFrom input' parts'),
        Collide pair.1 pair.2 := by
  induction parts generalizing input input' parts' with
  | nil =>
    cases parts' with
    | cons part' parts' => cases count
    | nil =>
      by_cases same : input = input'
      · exact .inl ⟨same, rfl⟩
      · exact .inr ⟨(input, input'), List.mem_cons_self, same, met⟩
  | cons part parts ih =>
    cases parts' with
    | nil => cases count
    | cons part' parts' =>
      obtain ⟨next, rest⟩ | ⟨pair, member, collide⟩ := ih (Nat.succ.inj count) met
      · -- A link has 32 bytes, so the string of a link and a part splits in one way.
        obtain ⟨links, part⟩ := List.append_inj next
          ((Primitives.hash input).property.trans (Primitives.hash input').property.symm)
        by_cases same : input = input'
        · exact .inl ⟨same, by rw [part, rest]⟩
        · exact .inr ⟨(input, input'), List.mem_cons_self, same, Subtype.ext links⟩
      · exact .inr ⟨pair, List.mem_cons_of_mem _ member, collide⟩

/-! ### Views -/

omit [Primitives] in
/-- The parts of a transcript determine it. -/
theorem parts_injective : Function.Injective Transcript.parts := by
  intro left right same
  cases left
  cases right
  simp only [Transcript.parts, List.cons.injEq, and_true] at same
  obtain ⟨hostStatic, chipStatic, hostEphemeral, slot, chipEphemeral⟩ := same
  rw [Subtype.ext hostStatic, Subtype.ext chipStatic, Subtype.ext hostEphemeral, slot,
    Subtype.ext chipEphemeral]

omit [Primitives] in
/-- The protocol names of the suites differ. -/
theorem protocolName_injective : Function.Injective CipherSuite.protocolName := by
  have differ : CipherSuite.protocolName .aes256Gcm ≠ CipherSuite.protocolName .aes256Ccm := by
    decide +kernel
  intro left right same
  cases left <;> cases right
  · rfl
  · exact absurd same differ
  · exact absurd same.symm differ
  · rfl

namespace View

/-- The hash of what was seen. -/
def digest (view : View) : Octets 32 := view.transcript.hash view.suite

/-- Everything that is hashed for the digest. -/
def inputs (view : View) : List Bytes :=
  inputsFrom view.suite.protocolName.val view.transcript.parts

/-- The first step at which the inputs of two views collide. -/
def collision? (view other : View) : Option (Bytes × Bytes) :=
  (view.inputs.zip other.inputs).find? fun pair => Collide pair.1 pair.2

/-- A collision is one of strings that are hashed at the same step. -/
theorem of_collision? {view other : View} {left right : Bytes}
    (found : view.collision? other = some (left, right)) :
    (∃ step : Nat, view.inputs[step]? = some left ∧ other.inputs[step]? = some right) ∧
      left ≠ right ∧ Primitives.hash left = Primitives.hash right := by
  obtain ⟨step, pair⟩ := List.mem_iff_getElem?.mp (List.mem_of_find?_eq_some found)
  have collide : Collide left right := by simpa using List.find?_some found
  exact ⟨⟨step, List.getElem?_zip_eq_some.mp pair⟩, collide⟩

/-- Views with the same digest are the same, unless they collide. -/
theorem eq_or_collision {view other : View} (same : view.digest = other.digest) :
    view = other ∨ ∃ left right, view.collision? other = some (left, right) := by
  obtain ⟨name, parts⟩ | ⟨pair, member, collide⟩ :=
    chained_inj (show view.transcript.parts.length = other.transcript.parts.length from rfl) same
  · exact .inl (View.ext (protocolName_injective (Subtype.ext name)) (parts_injective parts))
  · have found : (view.collision? other).isSome :=
      List.find?_isSome.mpr ⟨pair, member, by simpa using collide⟩
    obtain ⟨⟨left, right⟩, found⟩ := Option.isSome_iff_exists.mp found
    exact .inr ⟨left, right, found⟩

end View

end

end Handshake

/-! ### The parties -/

section

variable [Primitives]

/-- What the host saw, given the chip's ephemeral public key. -/
def Initiator.view (host : Initiator) (chipEphemeral : Key) : Handshake.View :=
  ⟨host.suite, host.transcript chipEphemeral⟩

theorem Initiator.digest_view (host : Initiator) (chipEphemeral : Key) :
    (host.view chipEphemeral).digest = (host.transcript chipEphemeral).hash host.suite :=
  rfl

/-- What the chip saw. -/
def Responder.view (chip : Responder) (hostStatic hostEphemeral : Key) (slot : PairingSlot) :
    Handshake.View :=
  ⟨chip.suite, chip.transcript hostStatic hostEphemeral slot⟩

/-- The tag of a response. -/
def Handshake.responseTag (response : Bytes) : Tag := Octets.fit 16 (response.drop 32)

omit [Primitives] in
theorem Handshake.responseTag_parts (chipEphemeral : Key) (tag : Tag) :
    responseTag (chipEphemeral.val ++ tag.val) = tag := by
  rw [responseTag, List.drop_left' chipEphemeral.property, Octets.fit_val]

/-- The host accepts a response if its tag opens under the digest of what the host saw. -/
theorem Initiator.exists_finish_iff (host : Initiator) (response : Bytes) :
    (∃ keys, host.finish response = .ok keys) ↔
      response.length = Handshake.responseLength ∧
        Primitives.decrypt? host.suite
          ((host.sharedSecrets (Octets.fit 32 response)).keys host.suite).1 (Session.nonce 0)
          (host.view (Octets.fit 32 response)).digest.val [] (Handshake.responseTag response) =
            some [] := by
  by_cases size : response.length = Handshake.responseLength
  case neg =>
    rw [host.finish_of_length size]
    constructor
    · rintro ⟨keys, accepted⟩
      cases accepted
    · rintro ⟨right, -⟩
      exact absurd right size
  case pos =>
    obtain ⟨chipEphemeral, tag, rfl, -⟩ := Handshake.exists_parts size
    rw [host.finish_parts, Octets.fit_append, Handshake.responseTag_parts, and_iff_right size,
      ← host.digest_view, ← Handshake.verifyTag_eq_ok_iff]
    cases Handshake.verifyTag host.suite ((host.sharedSecrets chipEphemeral).keys host.suite).1
      (host.view chipEphemeral).digest tag.val <;> simp [Except.map]

/-- The chip makes the tag of a response under the digest of what the chip saw. -/
theorem Responder.encrypt?_of_answer {chip : Responder} {request response : Bytes}
    {pairing : PairingSlot → Option Key} {keys : SessionKeys}
    (ok : chip.answer request pairing = .ok (response, keys)) :
    ∃ slot hostStatic, request.getD 32 0 = slot.byte ∧ pairing slot = some hostStatic ∧
      Primitives.encrypt? chip.suite
        ((chip.sharedSecrets hostStatic (Octets.fit 32 request)).keys chip.suite).1
        (Session.nonce 0) (chip.view hostStatic (Octets.fit 32 request) slot).digest.val [] =
          some ([], Handshake.responseTag response) := by
  obtain ⟨-, slot, hostStatic, tag, named, known, made, rfl, -⟩ := of_answer_eq_ok ok
  rw [Handshake.responseTag_parts]
  exact ⟨slot, hostStatic, PairingSlot.ofByte_eq_ok named, known, Handshake.encrypt?_of_tag made⟩

/-- A host and a chip with the same digest saw the same, unless their views collide. -/
theorem Initiator.view_eq_or_collision {host : Initiator} {chip : Responder}
    {chipEphemeral hostStatic hostEphemeral : Key} {slot : PairingSlot}
    (same : (host.view chipEphemeral).digest =
      (chip.view hostStatic hostEphemeral slot).digest) :
    (host.suite = chip.suite ∧ host.hostPublic = hostStatic ∧
      host.chipPublic = Primitives.publicKey chip.static ∧
      host.ephemeralPublic = hostEphemeral ∧ host.slot = slot ∧
      chipEphemeral = Primitives.publicKey chip.ephemeral) ∨
    ∃ left right, (host.view chipEphemeral).collision?
      (chip.view hostStatic hostEphemeral slot) = some (left, right) := by
  refine (Handshake.View.eq_or_collision same).imp_left fun views => ?_
  simp only [Initiator.view, Responder.view, transcript, Responder.transcript,
    Handshake.View.mk.injEq, Transcript.mk.injEq] at views
  obtain ⟨suite, hostPublic, chipPublic, ephemeral, byte, chipEphemeral⟩ := views
  exact ⟨suite, hostPublic, chipPublic, ephemeral, PairingSlot.byte_injective byte, chipEphemeral⟩

end

/-! ### The top bit of a key -/

namespace Crypto.X25519

/-- A key with its top bit flipped. -/
def flipTop (key : Octets 32) : Octets 32 :=
  ⟨Bytes.alter key.val 31 (· ^^^ 0x80), by rw [Bytes.length_alter, key.property]⟩

theorem exists_flipTop (key : Octets 32) : ∃ (front : Bytes) (byte : UInt8),
    front.length = 31 ∧ key.val = front ++ [byte] ∧
      (flipTop key).val = front ++ [byte ^^^ 0x80] := by
  have long : 31 < key.val.length := by
    rw [key.property]
    decide
  have back : key.val.drop 32 = [] := List.drop_of_length_le (Nat.le_of_eq key.property)
  have parts : key.val.drop 31 = [key.val[31]] := by rw [List.drop_eq_getElem_cons long, back]
  refine ⟨key.val.take 31, key.val[31], List.length_take_of_le (Nat.le_of_lt long), ?_, ?_⟩
  · rw [← parts, List.take_append_drop]
  · change key.val.modify 31 (· ^^^ 0x80) = _
    rw [List.modify_eq_take_cons_drop long, back]

theorem flipTop_ne (key : Octets 32) : flipTop key ≠ key := by
  obtain ⟨front, byte, -, parts, flipped⟩ := exists_flipTop key
  intro same
  rw [← same, flipped] at parts
  simp only [List.append_cancel_left_eq, List.cons.injEq, and_true] at parts
  exact Bytes.xor_ne_self (by decide) byte parts

/-- Key agreement ignores the top bit of a public key. -/
theorem agree_flipTop (key peer : Octets 32) : agree key (flipTop peer) = agree key peer := by
  obtain ⟨front, byte, count, parts, flipped⟩ := exists_flipTop peer
  have low : (byte ^^^ 0x80).toNat % 128 = byte.toNat % 128 := by
    rw [UInt8.toNat_xor, show 128 = 2 ^ 7 from rfl, Nat.xor_mod_two_pow]
    exact Nat.xor_zero _
  have same : Field25519.ofBytes (flipTop peer) = Field25519.ofBytes peer := by
    unfold Field25519.ofBytes
    rw [parts, flipped, Bytes.ofLittleEndian_append, Bytes.ofLittleEndian_append, count]
    simp only [Bytes.ofLittleEndian, Nat.mul_zero, Nat.add_zero]
    -- The bit below which a number counts is bit 7 of the last byte.
    rw [show 1 <<< 255 = 256 ^ 31 * 128 by decide, Nat.add_mod, Nat.mul_mod_mul_left, low,
      ← Nat.mul_mod_mul_left, ← Nat.add_mod]
  unfold agree
  rw [same]

end Crypto.X25519

/-! ### What a digest binds -/

open Crypto.X25519 (flipTop agree_flipTop flipTop_ne)

/-- **The digest of a handshake binds everything that a party saw.** Two views with the same
digest are the same, unless a collision of SHA-256 can be read off from what was hashed
at one step for the one and for the other, on the way to the digest. Barring that, views that
differ in anything have different digests; and the digest is the associated data under which
the chip makes the tag of its answer, and the host opens it. So a host and a chip with the
same associated data agree on the suite, the slot and all four keys. That goes for what key
agreement ignores as well: if the top bit of the chip's ephemeral key is flipped, the shared
secrets are the same, but the associated data is not. -/
theorem digests_bind_views :
    (∀ view : Handshake.View, ∃ front last, view.inputs = front ++ [last] ∧
      Crypto.sha256 last = view.digest) ∧
    (∀ view other : Handshake.View, view.digest = other.digest →
      view = other ∨ ∃ left right, view.collision? other = some (left, right)) ∧
    (∀ (view other : Handshake.View) (left right : Bytes),
      view.collision? other = some (left, right) →
      (∃ step : Nat, view.inputs[step]? = some left ∧ other.inputs[step]? = some right) ∧
        left ≠ right ∧ Crypto.sha256 left = Crypto.sha256 right) ∧
    (∀ view other : Handshake.View, view ≠ other → view.collision? other = none →
      view.digest.val ≠ other.digest.val) ∧
    (∀ (chip : Responder) (request response : Bytes) (pairing : PairingSlot → Option Key)
      (keys : SessionKeys), chip.answer request pairing = .ok (response, keys) →
      ∃ slot hostStatic, request.getD 32 0 = slot.byte ∧ pairing slot = some hostStatic ∧
        Primitives.encrypt? chip.suite
          ((chip.sharedSecrets hostStatic (Octets.fit 32 request)).keys chip.suite).1
          (Session.nonce 0) (chip.view hostStatic (Octets.fit 32 request) slot).digest.val [] =
            some ([], Handshake.responseTag response)) ∧
    (∀ (host : Initiator) (response : Bytes), (∃ keys, host.finish response = .ok keys) ↔
      response.length = Handshake.responseLength ∧
        Primitives.decrypt? host.suite
          ((host.sharedSecrets (Octets.fit 32 response)).keys host.suite).1 (Session.nonce 0)
          (host.view (Octets.fit 32 response)).digest.val [] (Handshake.responseTag response) =
            some []) ∧
    (∀ (host : Initiator) (chip : Responder) (chipEphemeral hostStatic hostEphemeral : Key)
      (slot : PairingSlot),
      (host.view chipEphemeral).digest = (chip.view hostStatic hostEphemeral slot).digest →
      (host.suite = chip.suite ∧ host.hostPublic = hostStatic ∧
        host.chipPublic = Primitives.publicKey chip.static ∧
        host.ephemeralPublic = hostEphemeral ∧ host.slot = slot ∧
        chipEphemeral = Primitives.publicKey chip.ephemeral) ∨
      ∃ left right, (host.view chipEphemeral).collision?
        (chip.view hostStatic hostEphemeral slot) = some (left, right)) ∧
    ∀ (host : Initiator) (chipEphemeral : Key),
      host.sharedSecrets (flipTop chipEphemeral) = host.sharedSecrets chipEphemeral ∧
      ((host.view (flipTop chipEphemeral)).digest ≠ (host.view chipEphemeral).digest ∨
        ∃ left right, (host.view (flipTop chipEphemeral)).collision? (host.view chipEphemeral) =
          some (left, right)) := by
  refine ⟨fun view => Handshake.exists_last_inputsFrom _ _,
    fun _ _ => Handshake.View.eq_or_collision, fun _ _ _ _ => Handshake.View.of_collision?,
    fun view other different free same => ?_, fun _ _ _ _ _ => Responder.encrypt?_of_answer,
    Initiator.exists_finish_iff, fun _ _ _ _ _ _ => Initiator.view_eq_or_collision,
    fun host chipEphemeral => ⟨?_, ?_⟩⟩
  · obtain equal | ⟨left, right, found⟩ :=
      Handshake.View.eq_or_collision (Subtype.ext same)
    · exact different equal
    · rw [free] at found
      cases found
  · have agrees (key : Key) :
        Primitives.agree key (flipTop chipEphemeral) = Primitives.agree key chipEphemeral :=
      agree_flipTop key chipEphemeral
    simp only [Initiator.sharedSecrets, agrees]
  · by_cases same : (host.view (flipTop chipEphemeral)).digest = (host.view chipEphemeral).digest
    · refine .inr ((Handshake.View.eq_or_collision same).resolve_left fun equal => ?_)
      exact flipTop_ne chipEphemeral
        (congrArg (fun view => view.transcript.chipEphemeral) equal)
    · exact .inl same

end SecureElement
