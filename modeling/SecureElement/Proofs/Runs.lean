import SecureElement.Proofs.Commands
import SecureElement.Proofs.Establishment

/-!
Runs of a device on a chip.

A run takes a new chip into use and goes on with any operations of the device, in
any order and with any outcome, while the knobs of the chip are turned between
them; a chip that was given back may be taken into use again (`Device.Reached`).
Every step makes one of the four changes to the sessions (`Action.yields`), so
what is kept by the changes holds of every device that a run reaches.
-/

namespace SecureElement

/-- A knob of the chip. -/
inductive Knob where
  | failTransfers (count : Nat)
  | busyPolls (count : Nat)
  | corruptNextResponse (index : Nat)
  | tamperNextResult (index : Nat)
  | replayNextResult
  | setEntropy (entropy : Entropy)
  | provision (slot : PairingSlot) (key : Key)

/-- Turns a knob. -/
def Knob.turn : Knob → Chip → Chip
  | failTransfers count, chip => chip.failTransfers count
  | busyPolls count, chip => chip.busyPolls count
  | corruptNextResponse index, chip => chip.corruptNextResponse index
  | tamperNextResult index, chip => chip.tamperNextResult index
  | replayNextResult, chip => chip.replayNextResult
  | setEntropy entropy, chip => chip.setEntropy entropy
  | provision slot key, chip => chip.provision slot key

/-- Turning a knob keeps the chip sound. -/
theorem Chip.Sound.turn [Primitives] {chip : Chip} (sound : chip.Sound) (knob : Knob) :
    (knob.turn chip).Sound := by
  cases knob with
  | provision slot key => exact ⟨sound.framed, sound.memory, sound.certified⟩
  | _ => exact sound.like rfl rfl rfl rfl

namespace Device

/-- A step of a run. -/
inductive Action where
  | certificate
  | chipId
  | version (object : Info.Object)
  | sessionStart (chipPublic : Key) (pairing : Pairing)
  | verifyAndStart (pairing : Pairing)
  | sessionAbort
  | sleep (kind : SleepKind)
  | reboot (kind : StartupKind)
  | execute (command : Command)
  | ping (data : Bytes)
  | randomValueGet (count : UInt8)
  | eddsaSign (slot : UInt16) (message : Bytes)
  | turn (knob : Knob)

variable [Primitives]

/-- Takes a step; where a result is collected, from at most `frames` responses. -/
def Action.run (frames : Nat) : Action → DeviceRun Chip Unit
  | certificate => do let _ ← bounded Device.certificate
  | chipId => do let _ ← bounded Device.chipId
  | version object => do let _ ← bounded (Device.version object)
  | sessionStart chipPublic pairing => bounded (Device.sessionStart chipPublic pairing)
  | verifyAndStart pairing => bounded (Device.verifyAndStart pairing)
  | sessionAbort => bounded Device.sessionAbort
  | sleep kind => bounded (Device.sleep kind)
  | reboot kind => bounded (Device.reboot kind)
  | execute command => do let _ ← Device.execute frames command
  | ping data => do let _ ← Device.ping frames data
  | randomValueGet count => do let _ ← Device.randomValueGet frames count
  | eddsaSign slot message => do let _ ← Device.eddsaSign frames slot message
  | turn knob => modify fun device => { device with bus.transport := knob.turn device.chip }

/-- What the host brings to the handshake that a step is, if it is one. -/
def Action.host? (device : Device Chip) : Action → Option Initiator
  | sessionStart chipPublic pairing => some (device.initiator chipPublic pairing)
  | verifyAndStart pairing => some (device.initiator device.chip.publicKey pairing)
  | _ => none

/-- The devices that runs of allowed steps reach. -/
inductive Reached (allowed : Device Chip → Action → Prop) : Device Chip → Prop
  /-- A new chip is taken into use. -/
  | start {suite : CipherSuite} {random : RandomSource} {config : Config} {device : Device Chip}
      (taken : init (Chip.create suite random) config = .ok device) : Reached allowed device
  /-- A chip is given back and taken into use again. -/
  | again {before device : Device Chip} {config : Config} (reached : Reached allowed before)
      (taken : init before.deinit.2 config = .ok device) : Reached allowed device
  | step {before after : Device Chip} {action : Action} {frames : Nat}
      {result : Except Error Unit} (reached : Reached allowed before)
      (permitted : allowed before action)
      (ran : attempt (action.run frames) before = some (result, after)) : Reached allowed after

/-! ### Steps -/

variable {device after : Device Chip} {frames : Nat}

theorem turn_yields (sound : device.Sound) (knob : Knob) :
    Yields none device { device with bus.transport := knob.turn device.chip } := by
  have wire : (knob.turn device.chip).window = device.chip.window := by cases knob <;> rfl
  have session : (knob.turn device.chip).session = device.chip.session := by cases knob <;> rfl
  have pending : (knob.turn device.chip).pending = device.chip.pending := by cases knob <;> rfl
  refine ⟨⟨⟨sound.bus.length, ?_⟩, sound.bus.chip.turn knob⟩, sound.state,
    .kept rfl session pending⟩
  dsimp only
  rw [wire]
  exact sound.bus.closed

theorem ping_yields (sound : device.Sound) {data : Bytes} {result : Except Error Bytes}
    (ran : attempt (ping frames data) device = some (result, after)) :
    Yields none device after := by
  unfold ping at ran
  rcases attempt_bind_eq_some ran with ⟨e, failed, -⟩ | ⟨echo, between, done, rest⟩
  · exact execute_yields sound failed
  · have same : between = after := by
      dsimp only at rest
      split at rest <;> cases rest <;> rfl
    exact same ▸ execute_yields sound done

theorem randomValueGet_yields (sound : device.Sound) {count : UInt8} {result : Except Error Bytes}
    (ran : attempt (randomValueGet frames count) device = some (result, after)) :
    Yields none device after := by
  unfold randomValueGet at ran
  rcases attempt_bind_eq_some ran with ⟨e, failed, -⟩ | ⟨bytes, between, done, rest⟩
  · exact execute_yields sound failed
  · have same : between = after := by
      split at rest <;> cases rest <;> rfl
    exact same ▸ execute_yields sound done

theorem eddsaSign_yields (sound : device.Sound) {slot : UInt16} {message : Bytes}
    {result : Except Error (Octets 64)}
    (ran : attempt (eddsaSign frames slot message) device = some (result, after)) :
    Yields none device after := by
  unfold eddsaSign at ran
  split at ran
  · cases ran
    exact (Reading.refl sound).yields sound _
  · exact execute_yields sound ran

/-- Every step makes a change and leaves the device in order. -/
theorem Action.yields (sound : device.Sound) (action : Action) {result : Except Error Unit}
    (ran : attempt (action.run frames) device = some (result, after)) :
    Yields (action.host? device) device after := by
  cases action with
  | certificate =>
    exact of_attempt_discard_bounded ran ▸
      (keeps_certificate device (.refl sound)).yields sound _
  | chipId =>
    exact of_attempt_discard_bounded ran ▸ (keeps_chipId device (.refl sound)).yields sound _
  | version object =>
    exact of_attempt_discard_bounded ran ▸
      (keeps_version object device (.refl sound)).yields sound _
  | sessionStart chipPublic pairing =>
    have yields := sessionStart_yields sound chipPublic pairing
    rw [of_attempt_bounded ran] at yields
    exact yields
  | verifyAndStart pairing =>
    have yields := verifyAndStart_yields sound pairing
    rw [of_attempt_bounded ran] at yields
    exact yields
  | sessionAbort =>
    have yields := sessionAbort_yields sound
    rw [of_attempt_bounded ran] at yields
    exact yields
  | sleep kind =>
    have yields := sleep_yields sound kind
    rw [of_attempt_bounded ran] at yields
    exact yields
  | reboot kind =>
    have yields := reboot_yields sound kind
    rw [of_attempt_bounded ran] at yields
    exact yields
  | execute command =>
    obtain ⟨outcome, done⟩ := of_attempt_discard ran
    exact execute_yields sound done
  | ping data =>
    obtain ⟨outcome, done⟩ := of_attempt_discard ran
    exact ping_yields sound done
  | randomValueGet count =>
    obtain ⟨outcome, done⟩ := of_attempt_discard ran
    exact randomValueGet_yields sound done
  | eddsaSign slot message =>
    obtain ⟨outcome, done⟩ := of_attempt_discard ran
    exact eddsaSign_yields sound done
  | turn knob =>
    cases ran
    exact turn_yields sound knob

/-! ### Beginnings -/

/-- A device on a chip that is taken into use: it has no session. -/
def taken (chip : Chip) (config : Config) : Device Chip where
  bus := Link.start { chip with initialized := true }
  buffer := List.replicate config.packetCapacity.toNat 0
  config := config
  state := .awaitingHandshake
  session := none

/-- A chip is taken into use if the packet buffer can hold a frame. -/
theorem init_eq_ok_iff {chip : Chip} {config : Config} :
    init chip config = .ok device ↔
      minCapacity ≤ config.packetCapacity.toNat ∧ device = taken chip config := by
  unfold init
  dsimp only
  split
  · rename_i small
    simp only [reduceCtorEq, false_iff]
    exact fun h => Nat.not_le_of_lt small h.1
  · rename_i large
    constructor
    · rintro ⟨⟩
      exact ⟨Nat.le_of_not_lt large, rfl⟩
    · rintro ⟨-, rfl⟩
      rfl

theorem init_sound {chip : Chip} {config : Config} (sound : chip.Sound)
    (closed : chip.window.selected = false) (ok : init chip config = .ok device) :
    device.Sound ∧ device.session = none := by
  obtain ⟨-, rfl⟩ := init_eq_ok_iff.mp ok
  refine ⟨⟨⟨⟨List.length_replicate, closed⟩, ?_⟩, ⟨nofun, nofun⟩, nofun⟩, rfl⟩
  exact sound.like rfl rfl rfl rfl

theorem create_sound (suite : CipherSuite) (random : RandomSource) :
    (Chip.create suite random).Sound := by
  refine ⟨.nil, ?_, rfl⟩
  intro slot content held
  cases (Store.get_memory_fresh Chip.defaultPairingKey slot).symm.trans held

theorem deinit_sound (sound : device.Sound) : device.deinit.2.Sound :=
  sound.bus.chip.like rfl rfl rfl rfl

/-! ### Runs -/

variable {allowed : Device Chip → Action → Prop}

/-- Every device that a run reaches is in order. -/
theorem Reached.sound (reached : Reached allowed device) : device.Sound := by
  induction reached with
  | start taken => exact (init_sound (create_sound _ _) rfl taken).1
  | again _ taken sound => exact (init_sound (deinit_sound sound) sound.bus.closed taken).1
  | step _ _ ran sound => exact sound.next (Action.yields sound _ ran)

end Device

end SecureElement
