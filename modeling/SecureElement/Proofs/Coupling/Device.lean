import SecureElement.Proofs.Coupling
import SecureElement.Proofs.Histories

/-!
Two devices side by side.

Over coupled transports two devices that are otherwise the same stay so, whatever
operations they come through, and the operations have the same outcomes
(`Device.Operation.run_alike`).
-/

namespace SecureElement.Device

open Bus (Between)

variable {σ τ α : Type} {R : Phase → σ → τ → Prop} {size : Nat}

/-- Two devices that are the same but for their transports, which are related. -/
structure Alike (R : Phase → σ → τ → Prop) (size : Nat) (left : Device σ) (right : Device τ) :
    Prop where
  bus : left.bus.Alike R size .outside right.bus
  buffer : left.buffer = right.buffer
  config : left.config = right.config
  state : left.state = right.state
  session : left.session = right.session

/-- The same device over another transport. -/
def moved (device : Device σ) (transport : τ) : Device τ :=
  { device with bus := ⟨transport, device.bus.frame⟩ }

theorem alike_moved {device : Device σ} {transport : τ}
    (related : R .outside device.bus.transport transport) :
    Alike R device.bus.frame.length device (device.moved transport) :=
  ⟨.of_related related _, rfl, rfl, rfl, rfl⟩

/-- Actions on devices, side by side. -/
abbrev Together (R : Phase → σ → τ → Prop) (size : Nat) {m : Type → Type} [Monad m] [Compares m]
    (left : ExceptT Error (StateT (Device σ) m) α)
    (right : ExceptT Error (StateT (Device τ) m) α) : Prop :=
  Coupled (Alike R size) (Alike R size) (Alike R size) left right

section

variable {m : Type → Type} [Monad m] [Compares m]

theorem together_pure (a : α) :
    Together R size (pure a : ExceptT Error (StateT (Device σ) m) α) (pure a) :=
  .pure fun _ _ alike => alike

theorem together_throw (e : Error) :
    Together R size (throw e : ExceptT Error (StateT (Device σ) m) α) (throw e) :=
  .throw fun _ _ alike => alike

theorem together_modify [LawfulMonad m] {change : Device σ → Device σ}
    {change' : Device τ → Device τ} (kept : ∀ left right, Alike R size left right →
      Alike R size (change left) (change' right)) :
    Together R size (modify change : ExceptT Error (StateT (Device σ) m) PUnit)
      (modify change') :=
  .modify kept

theorem together_endSession [LawfulMonad m] (state : SessionState) :
    Together R size
      (modify fun device => device.endSession state : ExceptT Error (StateT (Device σ) m) PUnit)
      (modify fun device => device.endSession state) :=
  together_modify fun _ _ alike => ⟨alike.bus, alike.buffer, alike.config, rfl, rfl⟩

end

theorem together_onBus {act : Config → BusM σ α} {act' : Config → BusM τ α}
    (between : ∀ c, Between R size (act c) (act' c)) :
    Together R size (onBus act) (onBus act') := by
  rintro ⟨bus, buffer, config, state, session⟩ ⟨bus', _, _, _, _⟩ ⟨alike, ⟨⟩, ⟨⟩, ⟨⟩, ⟨⟩⟩
  obtain ⟨same, ended⟩ := ((between config).perform alike).same
  change Ends _ _ ((perform (act config) bus).1, _) ((perform (act' config) bus').1, _)
  refine ⟨same, ?_⟩
  split
  all_goals exact ⟨ended, rfl, rfl, rfl, rfl⟩

theorem together_bounded {act : DeviceM σ α} {act' : DeviceM τ α}
    (together : Together R size act act') : Together R size (bounded act) (bounded act') :=
  fun left right alike => .some (together left right alike)

theorem together_expectNoSession :
    Together R size (expectNoSession : DeviceM σ Unit) expectNoSession := by
  refine .get fun left right alike => ?_
  rw [alike.state]
  exact .ite (fun _ => together_throw _) fun _ => together_pure _

theorem together_protectCommand [Primitives] (command : Command) :
    Together R size (protectCommand command : DeviceM σ Bytes) (protectCommand command) := by
  refine .get ?_
  rintro ⟨bus, buffer, config, state, session⟩ ⟨bus', _, _, _, _⟩ ⟨alike, ⟨⟩, ⟨⟩, ⟨⟩, ⟨⟩⟩
  cases session with
  | none => exact together_throw _
  | some session =>
    dsimp only
    cases session.protect (buffer.overlay Session.sizeLength command.packet)
        command.packet.length with
    | error cause =>
      refine .bind (.modify fun _ _ _ => ?_) fun _ => together_throw _
      exact ⟨alike, rfl, rfl, rfl, rfl⟩
    | ok outcome =>
      refine .bind (.modify fun _ _ _ => ?_) fun _ => together_pure _
      exact ⟨alike, rfl, rfl, rfl, rfl⟩

theorem together_unprotectResult [Primitives] (frame : Bytes) :
    Together R size (unprotectResult frame : DeviceM σ Bytes) (unprotectResult frame) := by
  refine .get fun left right alike => ?_
  rw [← alike.session]
  cases left.session with
  | none => exact together_throw _
  | some session =>
    dsimp only
    cases session.unprotect frame with
    | error cause => exact together_throw _
    | ok outcome =>
      refine .bind (.modify fun _ _ alike => ?_) fun _ => together_pure _
      exact ⟨alike.bus, alike.buffer, alike.config, alike.state, rfl⟩

/-! ### Life of a device -/

/-- The same outcome of taking a transport into use. -/
def Taken (R : Phase → σ → τ → Prop) :
    Except (Error × σ) (Device σ) → Except (Error × τ) (Device τ) → Prop
  | .ok device, .ok device' => Alike R Frame.maxLength device device'
  | .error (e, transport), .error (e', transport') => e = e' ∧ R .outside transport transport'
  | _, _ => False

/-- What was taken into use on one side is so on the other. -/
theorem Taken.exists_device {device : Device σ} {outcome : Except (Error × τ) (Device τ)}
    (taken : Taken R (.ok device) outcome) :
    ∃ device', outcome = .ok device' ∧ Alike R Frame.maxLength device device' := by
  cases outcome with
  | ok device' => exact ⟨device', rfl, taken⟩
  | error refusal => exact taken.elim

/-- What was refused on one side is so on the other. -/
theorem Taken.exists_refusal {e : Error} {transport : σ}
    {outcome : Except (Error × τ) (Device τ)} (taken : Taken R (.error (e, transport)) outcome) :
    ∃ transport', outcome = .error (e, transport') ∧ R .outside transport transport' := by
  cases outcome with
  | ok device => exact taken.elim
  | error refusal =>
    obtain ⟨rfl, related⟩ := taken
    exact ⟨refusal.2, rfl, related⟩

variable [Transport σ] [Transport τ]

theorem init_alike (coupled : Transport.FullyCoupled R) (config : Config) {left : σ} {right : τ}
    (related : R .outside left right) : Taken R (init left config) (init right config) := by
  have released {left : σ} {right : τ} (related : R .outside left right) :=
    (coupled.release.perform related).same.2
  unfold init
  dsimp only
  split
  · exact ⟨rfl, released related⟩
  · obtain ⟨same, ended⟩ := (coupled.init.perform related).same
    unfold perform at same ended
    rcases one : Transport.init.run.run left with ⟨result, after⟩
    rcases other : Transport.init.run.run right with ⟨result', after'⟩
    rw [one, other] at same ended
    obtain rfl : result = result' := same
    cases result with
    | error cause => exact ⟨rfl, released ended⟩
    | ok => exact ⟨⟨rfl, List.length_replicate, ended⟩, rfl, rfl, rfl, rfl⟩

theorem deinit_alike (coupled : Transport.FullyCoupled R) {left : Device σ} {right : Device τ}
    (alike : Alike R size left right) :
    (deinit left).1 = (deinit right).1 ∧ R .outside (deinit left).2 (deinit right).2 := by
  obtain ⟨same, ended⟩ := (coupled.release.perform alike.bus.transport).same
  exact ⟨congrArg (·.mapError Error.transport) same, ended⟩

/-! ### Information and sessions -/

variable (coupled : Transport.Coupled R)
include coupled

theorem together_checkEntropy :
    Together R size (checkEntropy : DeviceM σ Unit) checkEntropy := by
  refine .get fun left right alike => ?_
  rw [coupled.entropy _ _ alike.bus.transport, alike.config]
  exact .ite (fun _ => together_throw _) fun _ => together_pure _

theorem together_getInfo (object block : UInt8) :
    Together R size (onBus fun c => Link.getInfo c object block : DeviceM σ Bytes)
      (onBus fun c => Link.getInfo c object block) :=
  together_onBus fun c => Link.coupled_transceive coupled c _ _

theorem together_certificateBlocks (count : Nat) (block : UInt8) :
    Together R size (certificateBlocks count block : DeviceM σ Bytes)
      (certificateBlocks count block) := by
  induction count generalizing block with
  | zero => exact together_pure _
  | succ count ih =>
    refine .bind (together_getInfo coupled _ _) fun data => ?_
    refine .ite (fun _ => .throw_bind fun _ _ alike => alike) fun _ => ?_
    exact .bind (ih _) fun _ => together_pure _

theorem together_certificate :
    Together R size (certificate : DeviceM σ Bytes) certificate :=
  together_certificateBlocks coupled _ _

theorem together_chipId : Together R size (chipId : DeviceM σ ChipId) chipId := by
  refine .bind (together_getInfo coupled _ _) fun data => ?_
  cases Octets.ofBytes? Info.chipIdLength data with
  | some id => exact together_pure _
  | none => exact together_throw _

theorem together_version (object : Info.Object) :
    Together R size (version object : DeviceM σ FirmwareVersion) (version object) := by
  refine .bind (together_getInfo coupled _ _) fun data => ?_
  cases FirmwareVersion.ofBytes? data with
  | some version => exact together_pure _
  | none => exact together_throw _

theorem together_sessionStart [Primitives] (chipPublic : Key) (pairing : Pairing) :
    Together R size (sessionStart chipPublic pairing : DeviceM σ Unit)
      (sessionStart chipPublic pairing) := by
  refine .bind together_expectNoSession fun _ => ?_
  refine .bind (together_modify fun _ _ alike => ?_) fun _ => ?_
  · exact ⟨alike.bus, alike.buffer, alike.config, rfl, alike.session⟩
  refine .bind (together_checkEntropy coupled) fun _ => ?_
  refine .bind (together_onBus fun _ => Bus.coupled_random coupled 32) fun ephemeral => ?_
  refine .get fun left right alike => ?_
  rw [← alike.config]
  refine .bind (.tryCatch ?_ fun e => together_throw _) fun response => ?_
  · exact together_onBus fun c => Link.coupled_transceive coupled c _ _
  · cases Initiator.finish _ response with
    | error cause => exact together_throw _
    | ok keys => exact .modify fun _ _ alike => ⟨alike.bus, alike.buffer, alike.config, rfl, rfl⟩

theorem together_verifyAndStart [Primitives] (pairing : Pairing) :
    Together R size (verifyAndStart pairing : DeviceM σ Unit) (verifyAndStart pairing) := by
  refine .bind together_expectNoSession fun _ => ?_
  refine .bind (together_certificate coupled) fun bytes => ?_
  cases Info.staticKey bytes with
  | error cause => exact together_throw _
  | ok chipPublic => exact together_sessionStart coupled chipPublic pairing

theorem together_request (id : UInt8) (data : Bytes) :
    Together R size
      (onBus fun c => Link.transceive c id data >>= fun _ => pure () : DeviceM σ Unit)
      (onBus fun c => Link.transceive c id data >>= fun _ => pure ()) :=
  together_onBus fun c => Link.coupled_request coupled c id data

theorem together_sessionAbort :
    Together R size (sessionAbort : DeviceM σ Unit) sessionAbort := by
  refine .get fun left right alike => ?_
  rw [← alike.session]
  refine .ite (fun _ => ?_) fun _ => together_pure _
  exact .bind (together_endSession _) fun _ => together_request coupled _ _

theorem together_sleep (kind : SleepKind) :
    Together R size (sleep kind : DeviceM σ Unit) (sleep kind) := by
  refine .get fun left right alike => ?_
  rw [← alike.session]
  refine .ite (fun _ => ?_) fun _ => together_request coupled _ _
  exact .bind (together_endSession _) fun _ => together_request coupled _ _

theorem together_reboot (kind : StartupKind) :
    Together R size (reboot kind : DeviceM σ Unit) (reboot kind) := by
  refine .get fun left right alike => ?_
  rw [← alike.session]
  refine .ite (fun _ => ?_) fun _ => together_request coupled _ _
  exact .bind (together_endSession _) fun _ => together_request coupled _ _

/-! ### Commands -/

theorem together_collectResult (frames : Nat) :
    Together R size (collectResult frames : DeviceRun σ Bytes) (collectResult frames) := by
  rintro ⟨bus, buffer, config, state, session⟩ ⟨bus', _, _, _, _⟩ ⟨alike, ⟨⟩, ⟨⟩, ⟨⟩, ⟨⟩⟩
  obtain ⟨same, ended⟩ := Link.collect_alike coupled config frames buffer 0 alike
  change Option.Rel _ (attempt (collectResult frames) _) (attempt (collectResult frames) _)
  rw [attempt_collectResult, attempt_collectResult]
  dsimp only [Link.receiveEncrypted]
  rcases one : (Link.collect config frames buffer 0).run bus with ⟨result, after⟩
  rcases other : (Link.collect config frames buffer 0).run bus' with ⟨result', after'⟩
  rw [one, other] at same ended
  obtain rfl : result = result' := same
  rcases result with _ | ⟨result, collected⟩
  · exact .none
  · refine .some ⟨rfl, ?_⟩
    split
    all_goals exact ⟨ended, rfl, rfl, rfl, rfl⟩

variable [Primitives]

theorem together_exchange (frames : Nat) (command : Command) :
    Together R size (exchange frames command : DeviceRun σ Bytes) (exchange frames command) := by
  refine .bind (together_bounded (together_protectCommand command)) fun frame => ?_
  refine .bind (together_bounded (.tryCatch ?_ fun e => together_throw _)) fun _ => ?_
  · exact together_onBus fun c => Link.coupled_sendChunks coupled c _
  refine .bind (together_collectResult coupled frames) fun result => ?_
  exact together_bounded (together_unprotectResult result)

theorem together_execute (frames : Nat) (command : Command) :
    Together R size (execute frames command : DeviceRun σ command.Response)
      (execute frames command) := by
  refine .get fun left right alike => ?_
  have same : refusal? left command = refusal? right command := by
    unfold refusal?
    rw [alike.buffer, alike.session]
  rw [← same]
  cases refusal? left command with
  | some e => exact together_throw _
  | none =>
    refine .bind (.tryCatch (together_exchange coupled frames command) fun e =>
      .bind (together_endSession _) fun _ => together_throw _) fun packet => ?_
    refine .bind (together_modify fun _ _ alike => ?_) fun _ => ?_
    · refine ⟨alike.bus, ?_, alike.config, alike.state, alike.session⟩
      dsimp only
      rw [alike.buffer]
    cases command.decodePacket packet with
    | ok response => exact together_pure _
    | error e => exact together_throw _

theorem together_ping (frames : Nat) (data : Bytes) :
    Together R size (ping frames data : DeviceRun σ Bytes) (ping frames data) := by
  refine .bind (together_execute coupled frames _) fun echo => ?_
  exact .ite (fun _ => .throw_bind fun _ _ alike => alike) fun _ => together_pure _

theorem together_randomValueGet (frames : Nat) (count : UInt8) :
    Together R size (randomValueGet frames count : DeviceRun σ Bytes)
      (randomValueGet frames count) := by
  refine .bind (together_execute coupled frames _) fun bytes => ?_
  cases Command.checkCount count bytes with
  | ok => exact together_pure _
  | error e => exact together_throw _

theorem together_eddsaSign (frames : Nat) (slot : UInt16) (message : Bytes) :
    Together R size (eddsaSign frames slot message : DeviceRun σ (Octets 64))
      (eddsaSign frames slot message) :=
  .ite (fun _ => .throw_bind fun _ _ alike => alike) fun _ => together_execute coupled frames _

/-! ### Operations -/

omit [Transport σ] [Transport τ] [Primitives] coupled in
theorem together_discard {act : DeviceRun σ α} {act' : DeviceRun τ α}
    (together : Together R size act act') :
    Together R size (act >>= fun _ => pure ()) (act' >>= fun _ => pure ()) :=
  .bind together fun _ => together_pure _

/-- Over related transports an operation has the same outcome, if it has one. -/
theorem Operation.run_alike (frames : Nat) (operation : Operation) :
    Together R size (operation.run frames : DeviceRun σ Unit) (operation.run frames) := by
  cases operation with
  | certificate => exact together_discard (together_bounded (together_certificate coupled))
  | chipId => exact together_discard (together_bounded (together_chipId coupled))
  | version object => exact together_discard (together_bounded (together_version coupled object))
  | sessionStart chipPublic pairing =>
    exact together_bounded (together_sessionStart coupled chipPublic pairing)
  | verifyAndStart pairing => exact together_bounded (together_verifyAndStart coupled pairing)
  | sessionAbort => exact together_bounded (together_sessionAbort coupled)
  | sleep kind => exact together_bounded (together_sleep coupled kind)
  | reboot kind => exact together_bounded (together_reboot coupled kind)
  | execute command => exact together_discard (together_execute coupled frames command)
  | ping data => exact together_discard (together_ping coupled frames data)
  | randomValueGet count => exact together_discard (together_randomValueGet coupled frames count)
  | eddsaSign slot message =>
    exact together_discard (together_eddsaSign coupled frames slot message)

end SecureElement.Device
