import SecureElement.Primitives.Standard
import SecureElement.Proofs.Runs

/-!
Handshakes between a device and its chip.

Between parties that know each other and on a wire without faults a handshake
succeeds whatever went before, and both parties derive the same keys. The host
accepts no other response than a key and the one tag that goes with it.
-/

namespace SecureElement.Device

/-! ### A new chip -/

/-- A device on a new chip whose random bytes count up. -/
def counting : Device Chip :=
  taken (Chip.create .aes256Gcm ⟨fun i => UInt8.ofNat i, 0, none⟩) {}

/-- The pairing keys that a new chip knows. -/
def defaultPairing : Pairing := ⟨0, Chip.defaultPairingSecret, Chip.defaultPairingKey⟩

theorem counting_reached (allowed : Device Chip → Action → Prop) : Reached allowed counting :=
  .start (init_eq_ok_iff.mpr ⟨by decide, rfl⟩)

theorem counting_meets :
    (counting.initiator counting.chip.publicKey defaultPairing).Meets counting.responder
      counting.chip.store.pairingKey? where
  suite := rfl
  hostPublic := rfl
  known := rfl
  chipPublic := rfl
  ephemerals := by decide +kernel
  hostStatic := by decide +kernel
  chipStatic := by decide +kernel

/-- The device on a new chip begins a session when asked to. -/
theorem counting_begins : ∃ keys device,
    perform (verifyAndStart defaultPairing) counting = (.ok (), device) ∧
      Begun .aes256Gcm keys counting device :=
  verifyAndStart_succeeds (counting_reached fun _ _ => True).sound (by decide) rfl (by decide)
    ⟨.inl rfl, rfl⟩ counting_meets Standard.exact

section

variable {device : Device Chip} {keys : SessionKeys}

/-- A run that may begin with the handshake reaches the device with the session. -/
theorem reached_of_started {allowed : Device Chip → Action → Prop}
    (permitted : allowed counting (.verifyAndStart defaultPairing))
    (started : perform (verifyAndStart defaultPairing) counting = (.ok (), device)) :
    Reached allowed device :=
  have ran : attempt (Action.run 0 (.verifyAndStart defaultPairing)) counting =
      some (.ok (), device) := congrArg some started
  .step (counting_reached allowed) permitted ran

theorem counting_room (begun : Begun .aes256Gcm keys counting device) :
    device.buffer.length = counting.config.packetCapacity.toNat := by
  rw [begun.buffer]
  exact List.length_replicate

/-- A short ping is not refused in the session. -/
theorem counting_accepts (begun : Begun .aes256Gcm keys counting device) :
    refusal? device (.ping [7]) = none := by
  unfold refusal?
  rw [counting_room begun, begun.session, if_neg (by decide), if_neg (by decide)]
  rfl

end

/-! ### Agreement -/

section

variable [Primitives]

/-- Parties that meet agree on a session; they derive the same keys; and the host
accepts a response if and only if it is a key and the tag that it expects for the
key. -/
theorem handshake_agrees (aead : Aead.Exact) :
    (∀ {allowed : Device Chip → Action → Prop} {device : Device Chip} (pairing : Pairing),
      Reached allowed device → device.state ≠ .established → device.chip.faults = Faults.none →
      0 < device.config.readMaxTries.toNat → device.Random →
      (device.initiator device.chip.publicKey pairing).Meets device.responder
        device.chip.store.pairingKey? →
      ∃ keys after, perform (verifyAndStart pairing) device = (.ok (), after) ∧
        after.state = .established ∧
        after.session = some (Session.forHost device.config.suite keys) ∧
        after.chip.session = some (Session.forChip device.config.suite keys)) ∧
    (∀ {host : Initiator} {chip : Responder} {pairing : PairingSlot → Option Key},
      host.Meets chip pairing → ∃ response keys,
        chip.answer host.request pairing = .ok (response, keys) ∧
        host.finish response = .ok keys) ∧
    ∀ (host : Initiator) (response : Bytes),
      (∀ keys, host.finish response = .ok keys ↔
        response.length = Handshake.responseLength ∧
        (∃ tag, host.expectedTag (Octets.fit 32 response) = .ok tag ∧
          response.drop 32 = tag.val) ∧
        keys = host.sessionKeys (Octets.fit 32 response)) ∧
      (response.length ≠ Handshake.responseLength →
        host.finish response = .error .malformedMessage) ∧
      (response.length = Handshake.responseLength → (∀ keys, host.finish response ≠ .ok keys) →
        host.finish response = .error .authentication) := by
  refine ⟨?_, fun meets => meets.finish aead, fun host response => ?_⟩
  · intro allowed device pairing reached idle faultless tries random meets
    obtain ⟨keys, after, started, begun⟩ := verifyAndStart_succeeds reached.sound idle
      faultless tries random meets aead
    exact ⟨keys, after, started, begun.state, begun.session, begun.chip⟩
  · exact ⟨fun keys => Initiator.finish_eq_ok_iff aead, host.finish_of_length,
      Initiator.finish_of_refused aead⟩

end

/-- The device on a new chip, the chip and the default pairing keys meet. -/
theorem counting_agrees :
    (∃ keys after, perform (verifyAndStart defaultPairing) counting = (.ok (), after) ∧
      after.session = some (Session.forHost .aes256Gcm keys) ∧
      after.chip.session = some (Session.forChip .aes256Gcm keys)) ∧
    (counting.initiator counting.chip.publicKey defaultPairing).finish [] =
      .error .malformedMessage := by
  obtain ⟨succeeds, -, only⟩ := handshake_agrees Standard.exact
  obtain ⟨keys, after, started, -, host, chip⟩ := succeeds defaultPairing
    (counting_reached fun _ _ => True) (by decide) rfl (by decide) ⟨.inl rfl, rfl⟩ counting_meets
  exact ⟨⟨keys, after, started, host, chip⟩, (only _ []).2.1 (by decide)⟩

end SecureElement.Device
