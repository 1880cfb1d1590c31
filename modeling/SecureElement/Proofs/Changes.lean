import SecureElement.Proofs.Exchange
import SecureElement.Proofs.Phases

/-!
What an operation of a device does to the sessions of the two parties.

There are four kinds of changes (`Device.Change`), and every operation makes one
of them whatever goes wrong on the way: the host has no session afterwards, both
parties keep what they have, both have counted one packet in each direction, or
both have begun a session with the keys of one handshake. What holds of the
sessions after any run follows from the changes alone.
-/

namespace SecureElement

namespace Session

/-- The two sides of a session: what one sends is what the other receives. -/
structure Mirrors (host chip : Session) : Prop where
  suite : chip.suite = host.suite
  command : chip.receiving = host.sending
  result : chip.sending = host.receiving

/-- A session after a packet in each direction. -/
def counted (session : Session) : Session :=
  { session with
    sending := session.sending.advance
    receiving := session.receiving.advance }

theorem Mirrors.start (suite : CipherSuite) (keys : SessionKeys) :
    Mirrors (forHost suite keys) (forChip suite keys) := ⟨rfl, rfl, rfl⟩

theorem Mirrors.counted {host chip : Session} (mirrors : host.Mirrors chip) :
    host.counted.Mirrors chip.counted :=
  ⟨mirrors.suite, congrArg Direction.advance mirrors.command,
    congrArg Direction.advance mirrors.result⟩

end Session

namespace Device

/-- The chip that a device is connected to. -/
abbrev chip (device : Device Chip) : Chip := device.bus.transport

/-! ### Handshakes -/

/-- What the host brings to a handshake that it begins now. -/
def initiator (device : Device Chip) (chipPublic : Key) (pairing : Pairing) : Initiator where
  suite := device.config.suite
  ephemeral := (device.chip.random.draw 32).1
  hostPrivate := pairing.secret
  hostPublic := pairing.publicKey
  chipPublic := chipPublic
  slot := pairing.slot

variable [Primitives]

/-- What the chip brings to it. The host draws its ephemeral key first. -/
def responder (device : Device Chip) : Responder :=
  { device.chip with random := (device.chip.random.draw 32).2 }.responder

/-! ### Changes -/

/-- What an operation can do to the sessions, where `host?` is what the host
brings to the handshake if the operation is one. -/
inductive Change (host? : Option Initiator) (before after : Device Chip) : Prop
  /-- The host has no session. -/
  | ended (host : after.session = none)
  /-- Both parties keep what they have. -/
  | kept (host : after.session = before.session) (chip : after.chip.session = before.chip.session)
      (pending : after.chip.pending = before.chip.pending)
  /-- Both parties have counted a packet in each direction. -/
  | counted {host chip : Session} (held : before.session = some host)
      (held' : before.chip.session = some chip) (counted : after.session = some host.counted)
      (counted' : after.chip.session = some chip.counted) (pending : after.chip.pending = [])
  /-- Both parties have begun a session. -/
  | started {host : Initiator} {response : Bytes} {keys keys' : SessionKeys}
      (given : host? = some host)
      (answered : before.responder.answer host.request before.chip.store.pairingKey? =
        .ok (response, keys))
      (accepted : host.finish response = .ok keys')
      (session : after.session = some (Session.forHost host.suite keys'))
      (session' : after.chip.session = some (Session.forChip before.responder.suite keys))
      (pending : after.chip.pending = [])

/-- What holds of a device after every run: if the host has a session, so has the
chip, and no command is arriving. -/
structure Sound (device : Device Chip) : Prop where
  bus : device.bus.Sound
  state : device.state = .established ↔ device.session.isSome
  paired : ∀ host, device.session = some host →
    ∃ chip, device.chip.session = some chip ∧ device.chip.pending = []

/-- An operation has made a change and left the device in order. -/
structure Yields (host? : Option Initiator) (before after : Device Chip) : Prop where
  bus : after.bus.Sound
  state : after.state = .established ↔ after.session.isSome
  change : Change host? before after

variable {device before after : Device Chip} {host? : Option Initiator}

theorem Sound.next (sound : before.Sound) (yields : Yields host? before after) : after.Sound := by
  refine ⟨yields.bus, yields.state, fun host held => ?_⟩
  cases yields.change with
  | ended none => rw [none] at held; cases held
  | kept host' chip pending =>
    rw [chip, pending]
    exact sound.paired host (host' ▸ held)
  | counted _ _ _ counted' pending => exact ⟨_, counted', pending⟩
  | started _ _ _ _ session' pending => exact ⟨_, session', pending⟩

/-- Host and chip have the two sides of one session, if the host has one. -/
def Mirrored (device : Device Chip) : Prop :=
  ∀ host, device.session = some host →
    ∃ chip, device.chip.session = some chip ∧ host.Mirrors chip

/-- Whatever a trusted operation does, the sessions mirror each other afterwards
if they did before. -/
theorem Mirrored.next (mirrored : before.Mirrored) (yields : Yields host? before after)
    (trusted : ∀ host, host? = some host →
      host.Trusts before.responder before.chip.store.pairingKey?) : after.Mirrored := by
  intro host held
  cases yields.change with
  | ended none => rw [none] at held; cases held
  | kept host' chip pending =>
    rw [chip]
    exact mirrored host (host' ▸ held)
  | counted before before' counted counted' =>
    obtain ⟨other, same, mirrors⟩ := mirrored _ before
    rw [counted] at held
    rw [before'] at same
    cases held
    cases same
    exact ⟨_, counted', mirrors.counted⟩
  | started given answered accepted session session' =>
    obtain ⟨suites, same⟩ := (trusted _ given).same answered accepted
    rw [session] at held
    cases held
    exact ⟨_, session', same ▸ suites ▸ .start _ _⟩

end Device

end SecureElement
