import Mathlib.Data.List.Nodup
import SecureElement.Proofs.Delivery

/-!
Nonces along the life of one side of a session.

A party is given any buffers to protect and any frames to open, in any order. The
packet that it seals after `i` others is sealed under the nonce of `i`, so no
nonce is used twice under the key of its direction, and likewise for the packets
that it opens (`Ledger.nonces_used_once`). A call that fails uses no nonce, and
when the counter has reached its last value every further call fails before it
touches its buffer. What calls do to their buffers is therefore written out here:
`protectInPlace` and `unprotectInPlace` are `protect` and `unprotect` with the
buffer as it is left on every way out.
-/

namespace SecureElement

namespace Bytes

/-- A part behind a piece that is written stays. -/
theorem slice_overlay_zero {buffer piece : Bytes} {offset count : Nat}
    (behind : piece.length = offset) :
    slice (overlay buffer 0 piece) offset count = slice buffer offset count := by
  subst behind
  simp [slice, overlay]

end Bytes

namespace Session

section

variable [Primitives]

/-! ### Buffers -/

/-- Protecting a packet in its buffer: how it went, and the buffer and the session
afterwards. The size is written before the packet is encrypted. -/
def protectInPlace (session : Session) (buffer : Bytes) (length : Nat) :
    Except SessionError Nat × Bytes × Session :=
  if maxSize < length ∨ buffer.length < length + overhead then
    (.error .malformedFrame, buffer, session)
  else
    match session.sending.nextNonce with
    | .error cause => (.error cause, buffer, session)
    | .ok nonce =>
      let sized := buffer.overlay 0 (Bytes.littleEndian sizeLength length)
      match Aead.encrypt session.suite session.sending.key nonce []
          (sized.slice sizeLength length) with
      | .error cause => (.error cause, sized, session)
      | .ok (cipher, tag) =>
        (.ok (length + overhead),
          (sized.overlay sizeLength cipher).overlay (sizeLength + cipher.length) tag.val,
          { session with sending := session.sending.advance })

/-- Opening a frame in its buffer: how it went, and the buffer and the session
afterwards. What a decryption that fails leaves of the frame is not specified, so
it is any function of it. -/
def unprotectInPlace (spoil : Bytes → Bytes) (session : Session) (frame : Bytes) :
    Except SessionError Nat × Bytes × Session :=
  let size := Bytes.ofLittleEndian (frame.take sizeLength)
  if frame.length < overhead then (.error .malformedFrame, frame, session)
  else if frame.length ≠ size + overhead then (.error .malformedFrame, frame, session)
  else
    match session.receiving.nextNonce with
    | .error cause => (.error cause, frame, session)
    | .ok nonce =>
      match Aead.decrypt session.suite session.receiving.key nonce []
          (frame.slice sizeLength size) (frame.drop (sizeLength + size)) with
      | .error cause => (.error cause, spoil frame, session)
      | .ok packet =>
        (.ok size, frame.overlay sizeLength packet,
          { session with receiving := session.receiving.advance })

variable {session after : Session} {buffer written frame packet : Bytes} {length size : Nat}
  {cause : SessionError}

/-- In place or not, a packet is protected alike. -/
theorem protectInPlace_of_ok (ok : session.protect buffer length = .ok (size, written, after)) :
    session.protectInPlace buffer length = (.ok size, written, after) := by
  obtain ⟨short, room, more, cipher, tag, encrypted, rfl, rfl, rfl⟩ := of_protect_eq_ok ok
  have fits : sizeLength + length + tagLength ≤ buffer.length := by
    unfold overhead at room
    omega
  have count : cipher.length = length := by
    rw [Primitives.length_encrypt? encrypted]
    exact Bytes.length_slice (by omega)
  have field : (Bytes.littleEndian sizeLength length).length = sizeLength := by simp
  have whole : ((buffer.overlay 0 (Bytes.littleEndian sizeLength length)).overlay sizeLength
      cipher).overlay (sizeLength + cipher.length) tag.val =
        buffer.overlay 0 (sealed cipher tag) := by
    have first : (buffer.overlay 0 (Bytes.littleEndian sizeLength length)).overlay
        (0 + (Bytes.littleEndian sizeLength length).length) cipher =
          buffer.overlay 0 (Bytes.littleEndian sizeLength length ++ cipher) :=
      Bytes.overlay_overlay (by rw [field]; omega)
    have second : (buffer.overlay 0 (Bytes.littleEndian sizeLength length ++ cipher)).overlay
        (0 + (Bytes.littleEndian sizeLength length ++ cipher).length) tag.val =
          buffer.overlay 0 (Bytes.littleEndian sizeLength length ++ cipher ++ tag.val) := by
      apply Bytes.overlay_overlay
      rw [List.length_append, field]
      omega
    simp only [List.length_append, field, Nat.zero_add] at first second
    rw [first, second, sealed, count]
  unfold protectInPlace
  rw [if_neg (by omega), nextNonce_eq_ok_iff.mpr ⟨more, rfl⟩]
  simp only [Bytes.slice_overlay_zero field, Aead.encrypt, encrypted, whole]

/-- A packet that is not protected leaves the session as it was. -/
theorem protectInPlace_of_error (error : session.protect buffer length = .error cause) :
    ∃ left, session.protectInPlace buffer length = (.error cause, left, session) := by
  have field : (Bytes.littleEndian sizeLength length).length = sizeLength := by simp
  unfold protect at error
  unfold protectInPlace
  split at error
  · rename_i unfit
    cases error
    exact ⟨_, if_pos unfit⟩
  · rename_i fits
    rw [if_neg fits]
    cases next : session.sending.nextNonce with
    | error exhausted =>
      rw [next] at error
      cases error
      exact ⟨_, rfl⟩
    | ok nonce =>
      rw [next] at error
      simp only [Bytes.slice_overlay_zero field]
      cases made : Aead.encrypt session.suite session.sending.key nonce []
          (buffer.slice sizeLength length) with
      | error failed =>
        simp only [bind, Except.bind, made] at error
        cases error
        exact ⟨_, rfl⟩
      | ok encrypted =>
        simp only [bind, Except.bind, made] at error
        cases error

/-- In place or not, a frame is opened alike. -/
theorem unprotectInPlace_of_ok (spoil : Bytes → Bytes)
    (ok : session.unprotect frame = .ok (packet, after)) :
    session.unprotectInPlace spoil frame =
      (.ok packet.length, frame.overlay sizeLength packet, after) := by
  obtain ⟨more, rfl, cipher, tag, short, rfl, decrypted⟩ := unprotect_eq_ok_iff.mp ok
  have count := Primitives.length_decrypt? decrypted
  have opened := Aead.decrypt_tag session.suite session.receiving.key
    (nonce session.receiving.counter) [] cipher tag
  rw [decrypted] at opened
  unfold unprotectInPlace
  rw [size_sealed short, if_neg (by simp), if_neg (by simp), nextNonce_eq_ok_iff.mpr ⟨more, rfl⟩,
    slice_sealed, drop_sealed_cipher]
  simp only [opened, count]

/-- A frame that does not open leaves the session as it was. -/
theorem unprotectInPlace_of_error (spoil : Bytes → Bytes)
    (error : session.unprotect frame = .error cause) :
    ∃ left, session.unprotectInPlace spoil frame = (.error cause, left, session) := by
  unfold unprotect at error
  unfold unprotectInPlace
  dsimp only
  split at error
  · rename_i small
    cases error
    exact ⟨_, if_pos small⟩
  · rename_i large
    rw [if_neg large]
    dsimp only at error
    split at error
    · rename_i unfit
      cases error
      exact ⟨_, if_pos unfit⟩
    · rename_i fits
      rw [if_neg fits]
      cases next : session.receiving.nextNonce with
      | error exhausted =>
        rw [next] at error
        cases error
        exact ⟨_, rfl⟩
      | ok nonce =>
        rw [next] at error
        dsimp only
        cases opened : Aead.decrypt session.suite session.receiving.key nonce []
            (frame.slice sizeLength (Bytes.ofLittleEndian (frame.take sizeLength)))
            (frame.drop (sizeLength + Bytes.ofLittleEndian (frame.take sizeLength))) with
        | error failed =>
          simp only [bind, Except.bind, opened] at error
          cases error
          exact ⟨_, rfl⟩
        | ok plain =>
          simp only [bind, Except.bind, opened] at error
          cases error

/-- When the last counter value is reached, nothing more is protected: a packet
that could be is refused before its buffer is touched. -/
theorem protectInPlace_of_exhausted (last : session.sending.counter = 0xFFFFFFFF)
    (short : length ≤ maxSize) (room : length + overhead ≤ buffer.length) :
    session.protectInPlace buffer length = (.error .counterExhausted, buffer, session) := by
  unfold protectInPlace
  rw [if_neg (by omega)]
  simp [Direction.nextNonce, last]

/-- The same goes for a frame whose length is the one that it gives. -/
theorem unprotectInPlace_of_exhausted (spoil : Bytes → Bytes)
    (last : session.receiving.counter = 0xFFFFFFFF)
    (fits : frame.length = Bytes.ofLittleEndian (frame.take sizeLength) + overhead) :
    session.unprotectInPlace spoil frame = (.error .counterExhausted, frame, session) := by
  unfold unprotectInPlace
  rw [if_neg (by omega), if_neg (by omega)]
  simp [Direction.nextNonce, last]

/-! ### Records -/

/-- A packet that was sealed or opened: its nonce, its text and its frame. -/
structure Entry where
  nonce : Nonce
  packet : Bytes
  frame : Bytes

/-- One side of a session, and a record of what it has sealed and opened. -/
structure Ledger where
  session : Session
  sealed : List Entry := []
  opened : List Entry := []

/-- A call. Its arguments are not constrained. -/
inductive Call where
  | protect (buffer : Bytes) (length : Nat)
  | unprotect (frame : Bytes)

namespace Ledger

/-- A new side of a session, the host's or the chip's. -/
def start (suite : CipherSuite) (sending receiving : Key) : Ledger where
  session := ⟨suite, .start sending, .start receiving⟩

/-- Makes a call. What fails is not recorded. -/
def step (spoil : Bytes → Bytes) (ledger : Ledger) : Call → Ledger
  | .protect buffer length =>
    match ledger.session.protectInPlace buffer length with
    | (.ok size, written, session) =>
      { ledger with
        session
        sealed := ledger.sealed ++ [{
          nonce := nonce ledger.session.sending.counter
          packet := buffer.slice sizeLength length
          frame := written.take size }] }
    | (.error _, _, session) => { ledger with session }
  | .unprotect frame =>
    match ledger.session.unprotectInPlace spoil frame with
    | (.ok size, written, session) =>
      { ledger with
        session
        opened := ledger.opened ++ [{
          nonce := nonce ledger.session.receiving.counter
          packet := written.slice sizeLength size
          frame }] }
    | (.error _, _, session) => { ledger with session }

def run (spoil : Bytes → Bytes) (ledger : Ledger) (calls : List Call) : Ledger :=
  calls.foldl (step spoil) ledger

/-! ### Calls -/

variable {ledger : Ledger}

theorem step_protect_of_ok (spoil : Bytes → Bytes)
    (ok : ledger.session.protect buffer length = .ok (size, written, after)) :
    ledger.step spoil (.protect buffer length) =
      { ledger with
        session := after
        sealed := ledger.sealed ++
          [⟨nonce ledger.session.sending.counter, buffer.slice sizeLength length,
            written.take size⟩] } := by
  simp only [step, protectInPlace_of_ok ok]

theorem step_protect_of_error (spoil : Bytes → Bytes)
    (error : ledger.session.protect buffer length = .error cause) :
    ledger.step spoil (.protect buffer length) = ledger := by
  obtain ⟨left, same⟩ := protectInPlace_of_error error
  simp only [step, same]

theorem step_unprotect_of_ok (spoil : Bytes → Bytes)
    (ok : ledger.session.unprotect frame = .ok (packet, after)) :
    ledger.step spoil (.unprotect frame) =
      { ledger with
        session := after
        opened := ledger.opened ++
          [⟨nonce ledger.session.receiving.counter, packet, frame⟩] } := by
  have inside : sizeLength ≤ frame.length := Nat.le_of_add_right_le (length_le_of_unprotect ok)
  simp only [step, unprotectInPlace_of_ok spoil ok, Bytes.slice_overlay inside]

theorem step_unprotect_of_error (spoil : Bytes → Bytes)
    (error : ledger.session.unprotect frame = .error cause) :
    ledger.step spoil (.unprotect frame) = ledger := by
  obtain ⟨left, same⟩ := unprotectInPlace_of_error spoil error
  simp only [step, same]

theorem receiving_step_protect (spoil : Bytes → Bytes) (ledger : Ledger) (buffer : Bytes)
    (length : Nat) : (ledger.step spoil (.protect buffer length)).session.receiving =
      ledger.session.receiving := by
  cases made : ledger.session.protect buffer length with
  | error cause => rw [step_protect_of_error spoil made]
  | ok outcome =>
    obtain ⟨-, -, -, cipher, tag, -, -, -, same⟩ := of_protect_eq_ok made
    rw [step_protect_of_ok spoil made, same]

theorem sending_step_unprotect (spoil : Bytes → Bytes) (ledger : Ledger) (frame : Bytes) :
    (ledger.step spoil (.unprotect frame)).session.sending = ledger.session.sending := by
  cases opens : ledger.session.unprotect frame with
  | error cause => rw [step_unprotect_of_error spoil opens]
  | ok outcome =>
    obtain ⟨-, same, -⟩ := unprotect_eq_ok_iff.mp opens
    rw [step_unprotect_of_ok spoil opens, same]

/-! ### Invariant -/

omit [Primitives]

/-- What holds of a direction and the record of it: the key is as it was, the
counter is the number of entries, and each entry was made as `made` says under
the nonce of its position. -/
structure Counted (key : Key) (made : Nonce → Bytes → Bytes → Tag → Prop) (direction : Direction)
    (entries : List Entry) : Prop where
  key : direction.key = key
  counter : direction.counter.toNat = entries.length
  nonces : entries.map Entry.nonce = (List.range entries.length).map fun i => nonce (.ofNat i)
  made : ∀ entry ∈ entries, ∃ cipher tag, made entry.nonce entry.packet cipher tag ∧
    entry.frame = Session.sealed cipher tag

theorem Counted.start (key : Key) (made : Nonce → Bytes → Bytes → Tag → Prop) :
    Counted key made (.start key) [] :=
  ⟨rfl, rfl, rfl, nofun⟩

theorem Counted.next {key : Key} {made : Nonce → Bytes → Bytes → Tag → Prop} {direction : Direction}
    {entries : List Entry} (counted : Counted key made direction entries)
    (more : direction.counter ≠ 0xFFFFFFFF) {packet cipher : Bytes} {tag : Tag}
    (makes : made (nonce direction.counter) packet cipher tag) :
    Counted key made direction.advance
      (entries ++ [⟨nonce direction.counter, packet, Session.sealed cipher tag⟩]) := by
  constructor
  case key => exact counted.key
  case counter =>
    rw [Direction.toNat_advance more, counted.counter]
    simp
  case nonces =>
    rw [List.map_append, counted.nonces, List.length_append, List.length_singleton,
      List.range_succ, List.map_append]
    simp only [List.map_cons, List.map_nil]
    rw [← counted.counter, UInt32.ofNat_toNat]
  case made =>
    intro entry member
    rcases List.mem_append.mp member with earlier | new
    · exact counted.made entry earlier
    · rw [List.mem_singleton] at new
      subst new
      exact ⟨cipher, tag, makes, rfl⟩

/-- As many nonces as a counter counts are all different. -/
theorem Counted.nodup {key : Key} {made : Nonce → Bytes → Bytes → Tag → Prop}
    {direction : Direction} {entries : List Entry} (counted : Counted key made direction entries) :
    (entries.map Entry.nonce).Nodup := by
  have bound := direction.counter.toNat_lt
  rw [counted.counter] at bound
  rw [counted.nonces]
  apply List.Nodup.map_on ?_ List.nodup_range
  intro i inside j inside' same
  rw [List.mem_range] at inside inside'
  have words := congrArg UInt32.toNat (nonce_injective same)
  rwa [UInt32.toNat_ofNat_of_lt' (by unfold UInt32.size; omega),
    UInt32.toNat_ofNat_of_lt' (by unfold UInt32.size; omega)] at words

variable [Primitives]

/-- What holds of a ledger throughout a run. -/
structure Invariant (suite : CipherSuite) (sending receiving : Key) (ledger : Ledger) : Prop where
  unchanged : ledger.session.suite = suite
  sealed : Counted sending (fun nonce packet cipher tag =>
    Primitives.encrypt? suite sending nonce [] packet = some (cipher, tag))
    ledger.session.sending ledger.sealed
  opened : Counted receiving (fun nonce packet cipher tag =>
    Primitives.decrypt? suite receiving nonce [] cipher tag = some packet)
    ledger.session.receiving ledger.opened

variable {suite : CipherSuite} {sending receiving : Key}

theorem invariant_start : Invariant suite sending receiving (start suite sending receiving) :=
  ⟨rfl, .start _ _, .start _ _⟩

theorem Invariant.protect (held : Invariant suite sending receiving ledger)
    (spoil : Bytes → Bytes) (buffer : Bytes) (length : Nat) :
    Invariant suite sending receiving (ledger.step spoil (.protect buffer length)) := by
  obtain ⟨rfl, sealed, opened⟩ := held
  cases made : ledger.session.protect buffer length with
  | error cause =>
    rw [step_protect_of_error spoil made]
    exact ⟨rfl, sealed, opened⟩
  | ok outcome =>
    obtain ⟨size, written, after⟩ := outcome
    obtain ⟨-, -, more, -⟩ := of_protect_eq_ok made
    obtain ⟨cipher, tag, encrypted, -, frame, rfl⟩ := frame_of_protect made
    rw [sealed.key] at encrypted
    rw [step_protect_of_ok spoil made, frame]
    exact ⟨rfl, sealed.next more encrypted, opened⟩

theorem Invariant.unprotect (held : Invariant suite sending receiving ledger)
    (spoil : Bytes → Bytes) (frame : Bytes) :
    Invariant suite sending receiving (ledger.step spoil (.unprotect frame)) := by
  obtain ⟨rfl, sealed, opened⟩ := held
  cases opens : ledger.session.unprotect frame with
  | error cause =>
    rw [step_unprotect_of_error spoil opens]
    exact ⟨rfl, sealed, opened⟩
  | ok outcome =>
    obtain ⟨packet, after⟩ := outcome
    obtain ⟨more, rfl, cipher, tag, -, rfl, decrypted⟩ := unprotect_eq_ok_iff.mp opens
    rw [opened.key] at decrypted
    rw [step_unprotect_of_ok spoil opens]
    exact ⟨rfl, sealed, opened.next more decrypted⟩

theorem invariant_step (held : Invariant suite sending receiving ledger)
    (spoil : Bytes → Bytes) (call : Call) :
    Invariant suite sending receiving (ledger.step spoil call) := by
  cases call with
  | protect buffer length => exact held.protect spoil buffer length
  | unprotect frame => exact held.unprotect spoil frame

theorem invariant_run (held : Invariant suite sending receiving ledger) (spoil : Bytes → Bytes)
    (calls : List Call) : Invariant suite sending receiving (ledger.run spoil calls) := by
  induction calls generalizing ledger with
  | nil => exact held
  | cons call calls ih => exact ih (invariant_step held spoil call)

/-! ### Nonces -/

/-- After any calls the packets that were sealed and those that were opened are
each numbered by their nonces from 0 on, so no nonce occurs twice, and the counter
of a direction is the number of its packets. A call that succeeds adds one packet
to the record of its direction and leaves the other direction alone; a call that
fails changes nothing but its buffer; and a call that could succeed but for a
counter at its last value fails for that and changes not even the buffer. -/
theorem nonces_used_once (spoil : Bytes → Bytes) (suite : CipherSuite) (sending receiving : Key)
    (calls : List Call) :
    let ledger := (start suite sending receiving).run spoil calls
    Invariant suite sending receiving ledger ∧
      (ledger.sealed.map Entry.nonce).Nodup ∧ (ledger.opened.map Entry.nonce).Nodup ∧
      (∀ buffer length,
        (ledger.step spoil (.protect buffer length)).session.receiving =
          ledger.session.receiving) ∧
      (∀ frame,
        (ledger.step spoil (.unprotect frame)).session.sending = ledger.session.sending) ∧
      (∀ buffer length size written after,
        ledger.session.protect buffer length = .ok (size, written, after) →
        ledger.step spoil (.protect buffer length) =
          { ledger with
            session := after
            sealed := ledger.sealed ++
              [⟨nonce ledger.session.sending.counter, buffer.slice sizeLength length,
                written.take size⟩] }) ∧
      (∀ frame packet after, ledger.session.unprotect frame = .ok (packet, after) →
        ledger.step spoil (.unprotect frame) =
          { ledger with
            session := after
            opened := ledger.opened ++
              [⟨nonce ledger.session.receiving.counter, packet, frame⟩] }) ∧
      (∀ buffer length cause, ledger.session.protect buffer length = .error cause →
        ledger.step spoil (.protect buffer length) = ledger) ∧
      (∀ frame cause, ledger.session.unprotect frame = .error cause →
        ledger.step spoil (.unprotect frame) = ledger) ∧
      (∀ buffer length, ledger.session.sending.counter = 0xFFFFFFFF → length ≤ maxSize →
        length + overhead ≤ buffer.length → ledger.session.protectInPlace buffer length =
          (.error .counterExhausted, buffer, ledger.session)) ∧
      ∀ frame, ledger.session.receiving.counter = 0xFFFFFFFF →
        frame.length = Bytes.ofLittleEndian (frame.take sizeLength) + overhead →
        ledger.session.unprotectInPlace spoil frame =
          (.error .counterExhausted, frame, ledger.session) := by
  intro ledger
  have held : Invariant suite sending receiving ledger := invariant_run invariant_start spoil calls
  refine ⟨held, held.sealed.nodup, held.opened.nodup, receiving_step_protect spoil ledger,
    sending_step_unprotect spoil ledger, ?_, ?_, ?_, ?_, ?_, ?_⟩
  · intro buffer length size written after ok
    exact step_protect_of_ok spoil ok
  · intro frame packet after ok
    exact step_unprotect_of_ok spoil ok
  · intro buffer length cause error
    exact step_protect_of_error spoil error
  · intro frame cause error
    exact step_unprotect_of_error spoil error
  · intro buffer length last short room
    exact protectInPlace_of_exhausted last short room
  · intro frame last fits
    exact unprotectInPlace_of_exhausted spoil last fits

end Ledger

end

/-- Between two packets that are sealed, a packet without room for its tag uses no
nonce. -/
theorem Ledger.two_nonces_used :
    let ledger := (Ledger.start .aes256Gcm (.replicate 32 1) (.replicate 32 2)).run id
      [.protect (List.replicate 21 7) 3, .protect [] 3, .protect (List.replicate 21 7) 3]
    ledger.sealed.map Entry.nonce = [nonce 0, nonce 1] ∧ ledger.session.sending.counter = 2 ∧
      (ledger.sealed.map Entry.nonce).Nodup := by
  intro ledger
  have distinct := (Ledger.nonces_used_once id .aes256Gcm (.replicate 32 1) (.replicate 32 2)
    [.protect (List.replicate 21 7) 3, .protect [] 3, .protect (List.replicate 21 7) 3]).2.1
  have refused (session : Session) : session.protect [] 3 = .error .malformedFrame :=
    if_pos (by decide)
  have first : (Ledger.start .aes256Gcm (.replicate 32 1) (.replicate 32 2)).session.protect
      (List.replicate 21 7) 3 = _ :=
    protect_eq_ok (by decide) (by decide) (by decide) (Standard.encrypt?_aes256Gcm _ _ _ _)
  have second : Session.protect ⟨.aes256Gcm, ⟨.replicate 32 1, 1⟩, .start (.replicate 32 2)⟩
      (List.replicate 21 7) 3 = _ :=
    protect_eq_ok (by decide) (by decide) (by decide) (Standard.encrypt?_aes256Gcm _ _ _ _)
  have ran : ledger.sealed.map Entry.nonce = [nonce 0, nonce 1] ∧
      ledger.session.sending.counter = 2 := by
    simp only [ledger, Ledger.run, List.foldl_cons, List.foldl_nil]
    rw [Ledger.step_protect_of_ok id first, Ledger.step_protect_of_error id (refused _),
      Ledger.step_protect_of_ok id second]
    exact ⟨rfl, rfl⟩
  exact ⟨ran.1, ran.2, distinct⟩

end Session

end SecureElement
