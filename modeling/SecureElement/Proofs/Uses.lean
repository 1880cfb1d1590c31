import SecureElement.Proofs.Coupling.Device

/-!
Any use of a transport.

A transport is used by windows on the bus, by operations of the link and by devices, in
any order, with any buffers and any outcomes; in between it may change (`Used`). What
the transport maintains outlasts any use of it (`Used.maintains`).
-/

namespace SecureElement

namespace Bus

/-- An operation of the bus and its arguments. -/
inductive Operation where
  | write (length : Nat)
  | read
  | delay (duration : UInt32)
  | random (count : Nat)

/-- What an operation returns. -/
def Operation.Result : Operation → Type
  | read => Except Error Nat
  | random count => Except Error (Octets count)
  | _ => Except Error Unit

variable {σ τ : Type} [Transport σ] [Transport τ]

/-- Runs an operation. -/
def Operation.run (c : Config) : (operation : Operation) → Bus σ → operation.Result × Bus σ
  | write length, bus => perform (Bus.write c length) bus
  | read, bus => perform (Bus.read c) bus
  | delay duration, bus => perform (Bus.delay duration) bus
  | random count, bus => perform (Bus.random count) bus

/-- Over related transports an operation returns the same, whatever the length of the
buffer. -/
theorem Operation.run_alike {R : Phase → σ → τ → Prop} (coupled : Transport.Coupled R)
    (c : Config) (operation : Operation) {size : Nat} {left : Bus σ} {right : Bus τ}
    (alike : Alike R size .outside left right) :
    (operation.run c left).1 = (operation.run c right).1 ∧
      Alike R size .outside (operation.run c left).2 (operation.run c right).2 := by
  cases operation with
  | write length => exact ((coupled_write coupled c length).perform alike).same
  | read => exact ((coupled_read coupled c).perform alike).same
  | delay duration => exact ((coupled_delay coupled duration).perform alike).same
  | random count => exact ((coupled_random coupled count).perform alike).same

end Bus

variable {σ τ : Type} [Transport σ] [Transport τ] [Primitives]

/-- What may become of a transport that is used, and that may also change by itself. -/
inductive Used (elsewhere : σ → σ → Prop) (before : σ) : σ → Prop
  | unused : Used elsewhere before before
  | bus {transport : σ} (earlier : Used elsewhere before transport) (frame : Bytes) (c : Config)
      (operation : Bus.Operation) :
      Used elsewhere before (operation.run c ⟨transport, frame⟩).2.transport
  | link {transport : σ} (earlier : Used elsewhere before transport) (frame : Bytes) (c : Config)
      (operation : Link.Operation) :
      Used elsewhere before (operation.run c ⟨transport, frame⟩).2.transport
  | taken {transport : σ} {config : Config} {device : Device σ}
      (earlier : Used elsewhere before transport)
      (took : Device.init transport config = .ok device) :
      Used elsewhere before device.bus.transport
  | refused {transport after : σ} {config : Config} {e : Error}
      (earlier : Used elsewhere before transport)
      (refused : Device.init transport config = .error (e, after)) : Used elsewhere before after
  | device {device after : Device σ} {result : Except Error Unit}
      (earlier : Used elsewhere before device.bus.transport) (frames : Nat)
      (operation : Device.Operation)
      (ran : attempt (operation.run frames) device = some (result, after)) :
      Used elsewhere before after.bus.transport
  | released {device : Device σ} (earlier : Used elsewhere before device.bus.transport) :
      Used elsewhere before device.deinit.2
  | changed {transport after : σ} (earlier : Used elsewhere before transport)
      (change : elsewhere transport after) : Used elsewhere before after

namespace Used

variable {elsewhere : σ → σ → Prop} {before after : σ} {R : Phase → σ → τ → Prop}

/-- What a use of a transport does, it does to a related one. -/
theorem coupled {elsewhere' : τ → τ → Prop} (coupled : Transport.FullyCoupled R)
    (changes : ∀ {left after : σ} {right : τ}, elsewhere left after → R .outside left right →
      ∃ after', elsewhere' right after' ∧ R .outside after after')
    (used : Used elsewhere before after) {before' : τ} (related : R .outside before before') :
    ∃ after', Used elsewhere' before' after' ∧ R .outside after after' := by
  -- The related use is made of the same operations, with the same buffers.
  induction used with
  | unused => exact ⟨before', .unused, related⟩
  | bus _ frame c operation ih =>
    obtain ⟨other, used, related⟩ := ih
    obtain ⟨-, alike⟩ := operation.run_alike coupled.toCoupled c (.of_related related frame)
    exact ⟨_, used.bus frame c operation, alike.transport⟩
  | link _ frame c operation ih =>
    obtain ⟨other, used, related⟩ := ih
    obtain ⟨-, alike⟩ := operation.run_alike coupled.toCoupled c (.of_related related frame)
    exact ⟨_, used.link frame c operation, alike.transport⟩
  | taken _ took ih =>
    obtain ⟨other, used, related⟩ := ih
    obtain ⟨_, took', alike⟩ := (took ▸ Device.init_alike coupled _ related).exists_device
    exact ⟨_, used.taken took', alike.bus.transport⟩
  | refused _ refused ih =>
    obtain ⟨other, used, related⟩ := ih
    obtain ⟨_, refused', related⟩ := (refused ▸ Device.init_alike coupled _ related).exists_refusal
    exact ⟨_, used.refused refused', related⟩
  | @device device _ _ _ frames operation ran ih =>
    obtain ⟨other, used, related⟩ := ih
    have used : Used elsewhere' before' (device.moved other).bus.transport := used
    have alike := Device.alike_moved related
    obtain ⟨⟨_, after'⟩, ran', ends⟩ :=
      (Device.Operation.run_alike coupled.toCoupled frames operation).attempt alike ran
    exact ⟨_, used.device frames operation ran', ends.same.2.bus.transport⟩
  | @released device _ ih =>
    obtain ⟨other, used, related⟩ := ih
    have used : Used elsewhere' before' (device.moved other).bus.transport := used
    exact ⟨_, used.released, (Device.deinit_alike coupled (Device.alike_moved related)).2⟩
  | changed _ change ih =>
    obtain ⟨other, used, related⟩ := ih
    obtain ⟨after', changed, related⟩ := changes change related
    exact ⟨after', used.changed changed, related⟩

/-- What the transport maintains outlasts any use of it, if the changes in between leave it. -/
theorem maintains {I : Phase → σ → Prop} (maintains : Transport.Maintains I)
    (changes : ∀ {transport after : σ}, elsewhere transport after → I .outside transport →
      I .outside after) (used : Used elsewhere before after) (held : I .outside before) :
    I .outside after := by
  have kept {left after right : σ} (change : elsewhere left after)
      (related : left = right ∧ I .outside left) :
      ∃ after', elsewhere right after' ∧ after = after' ∧ I .outside after :=
    ⟨after, related.1 ▸ change, rfl, changes change related.2⟩
  obtain ⟨_, -, rfl, held⟩ := used.coupled maintains.fullyCoupled kept ⟨rfl, held⟩
  exact held

end Used

end SecureElement
