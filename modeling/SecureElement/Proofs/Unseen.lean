import SecureElement.Proofs.Phases

/-!
Changes of a transport that the stack does not see.

A change is unseen if every operation of the transport does on the changed state
what it does on the state as it was, with the change on top
(`Transport.Unseen`). Then nothing that is built on the transport sees it either:
the steps of a window, the exchanges and what a device does with them end with the
same result, and in the state that they would have ended in, changed (`Blind`).
-/

namespace SecureElement

/-! ### Actions that do not see a change -/

section

variable {ε s α β : Type} {m : Type → Type} [Monad m]

/-- An action that a change of the state makes no difference to: its result is the
same, and the change is on top of what it does. -/
def Blind (change : s → s) (act : ExceptT ε (StateT s m) α) : Prop :=
  ∀ before, act.run.run (change before) = Prod.map id change <$> act.run.run before

theorem run_run_bind [LawfulMonad m] (act : ExceptT ε (StateT s m) α)
    (next : α → ExceptT ε (StateT s m) β) (before : s) :
    (act >>= next).run.run before = act.run.run before >>= fun ended =>
      match ended.1 with
      | .ok a => (next a).run.run ended.2
      | .error e => pure (.error e, ended.2) := by
  change (act.run >>= ExceptT.bindCont next).run before = _
  rw [StateT.run_bind]
  congr 1
  funext ⟨result, after⟩
  cases result <;> rfl

theorem run_run_tryCatch [LawfulMonad m] (act : ExceptT ε (StateT s m) α)
    (handler : ε → ExceptT ε (StateT s m) α) (before : s) :
    (tryCatch act handler).run.run before = act.run.run before >>= fun ended =>
      match ended.1 with
      | .ok a => pure (.ok a, ended.2)
      | .error e => (handler e).run.run ended.2 := by
  change (act.run >>= fun result => match result with
    | .ok a => pure (.ok a)
    | .error e => (handler e).run).run before = _
  rw [StateT.run_bind]
  congr 1
  funext ⟨result, after⟩
  cases result <;> rfl

theorem run_run_get [LawfulMonad m] (before : s) :
    (get : ExceptT ε (StateT s m) s).run.run before = pure (.ok before, before) := by
  change (do let ended ← (pure (before, before) : m (s × s)); pure (Except.ok ended.1, ended.2)) = _
  rw [pure_bind]

theorem run_run_modify [LawfulMonad m] (update : s → s) (before : s) :
    (modify update : ExceptT ε (StateT s m) PUnit).run.run before =
      pure (.ok ⟨⟩, update before) := by
  change (do
    let ended ← (pure (PUnit.unit, update before) : m (PUnit × s))
    pure (Except.ok ended.1, ended.2)) = _
  rw [pure_bind]

namespace Blind

variable [LawfulMonad m] {change : s → s} {act : ExceptT ε (StateT s m) α}

theorem pure (a : α) : Blind change (pure a : ExceptT ε (StateT s m) α) := fun before =>
  (map_pure (f := m) (Prod.map id change) (Except.ok a, before)).symm

theorem throw (e : ε) : Blind change (throw e : ExceptT ε (StateT s m) α) := fun before =>
  (map_pure (f := m) (Prod.map id change) (Except.error e, before)).symm

theorem bind {next : α → ExceptT ε (StateT s m) β} (first : Blind change act)
    (rest : ∀ a, Blind change (next a)) : Blind change (act >>= next) := by
  intro before
  rw [run_run_bind, run_run_bind, first before, bind_map_left, map_bind]
  congr 1
  funext ⟨result, after⟩
  cases result with
  | ok a => exact rest a after
  | error e => exact (map_pure (f := m) (Prod.map id change) (Except.error e, after)).symm

theorem tryCatch {handler : ε → ExceptT ε (StateT s m) α} (first : Blind change act)
    (rest : ∀ e, Blind change (handler e)) : Blind change (tryCatch act handler) := by
  intro before
  rw [run_run_tryCatch, run_run_tryCatch, first before, bind_map_left, map_bind]
  congr 1
  funext ⟨result, after⟩
  cases result with
  | ok a => exact (map_pure (f := m) (Prod.map id change) (Except.ok a, after)).symm
  | error e => exact rest e after

theorem modify {update : s → s}
    (commutes : ∀ before, update (change before) = change (update before)) :
    Blind change (modify update : ExceptT ε (StateT s m) PUnit) := by
  intro before
  rw [run_run_modify, run_run_modify, map_pure, commutes]
  rfl

/-- What follows from a look at the state must not depend on the change. -/
theorem get {next : s → ExceptT ε (StateT s m) β}
    (same : ∀ before, next (change before) = next before)
    (rest : ∀ before, Blind change (next before)) : Blind change (get >>= next) := by
  intro before
  have looks (state : s) :
      (MonadState.get >>= next).run.run state = (next state).run.run state := by
    rw [run_run_bind, run_run_get, pure_bind]
  rw [looks, looks, same]
  exact rest before before

omit [LawfulMonad m] in
theorem ite {p : Prop} [Decidable p] {other : ExceptT ε (StateT s m) α} (first : Blind change act)
    (second : Blind change other) : Blind change (if p then act else other) := by
  split
  · exact first
  · exact second

end Blind

theorem Blind.perform {change : s → s} {act : ExceptT ε (StateM s) α} (blind : Blind change act)
    (before : s) :
    perform act (change before) = Prod.map id change (SecureElement.perform act before) :=
  blind before

theorem Blind.attempt {change : s → s} {act : ExceptT ε (StateT s Option) α}
    (blind : Blind change act) (before : s) :
    attempt act (change before) = (SecureElement.attempt act before).map (Prod.map id change) :=
  blind before

end

/-- A change of the state of a transport that no operation sees. -/
structure Transport.Unseen {σ : Type} [Transport σ] (change : σ → σ) : Prop where
  select : Blind change (Transport.select : ExceptT TransportError (StateM σ) Unit)
  deselect : Blind change (Transport.deselect : ExceptT TransportError (StateM σ) Unit)
  exchange (offset : Nat) (region : Bytes) (timeout : UInt32) (state : σ) :
    Transport.exchange offset region timeout (change state) =
      Prod.map id change (Transport.exchange offset region timeout state)
  delay (duration : UInt32) (state : σ) :
    Transport.delay duration (change state) = Prod.map id change (Transport.delay duration state)
  random (count : Nat) : Blind change (Transport.random count)
  entropy (state : σ) : Transport.entropy (change state) = Transport.entropy state

/-- The bus with the state of its transport changed. -/
def Bus.change {σ : Type} (change : σ → σ) (bus : Bus σ) : Bus σ :=
  { bus with transport := change bus.transport }

/-- The device with the state of its transport changed. -/
def Device.change {σ : Type} (change : σ → σ) (device : Device σ) : Device σ :=
  { device with bus := device.bus.change change }

/-! ### The bus -/

namespace Bus

section

variable {σ α : Type} {change : σ → σ}

theorem blind_lift {act : ExceptT TransportError (StateM σ) α} (blind : Blind change act) :
    Blind (Bus.change change) (lift act) := by
  intro bus
  change ((perform act (change bus.transport)).1.mapError Error.transport,
    ({ bus with transport := (perform act (change bus.transport)).2 } : Bus σ)) = _
  rw [blind.perform]
  rfl

theorem blind_modifyFrame (update : Bytes → Bytes) :
    Blind (Bus.change change) (modifyFrame update) := .modify fun _ => rfl

theorem blind_checkBounds (offset length : Nat) :
    Blind (Bus.change change) (checkBounds offset length) := by
  refine .get (fun _ => rfl) fun bus => ?_
  cases Transport.checkBounds bus.frame offset length with
  | ok => exact .pure _
  | error cause => exact .throw _

end

/-- A window that begins with an exchange of what is put in the buffer for it. -/
def window {σ α : Type} [Transport σ] (c : Config) (piece : Bytes) (rest : BusM σ α) :
    BusM σ α := do
  modifyFrame fun frame => frame.overlay 0 piece
  lift Transport.select
  transferOrClose c 0 piece.length
  rest

theorem window_bind {σ α β : Type} [Transport σ] (c : Config) (piece : Bytes) (rest : BusM σ α)
    (next : α → BusM σ β) : window c piece rest >>= next = window c piece (rest >>= next) := by
  simp only [window, bind_assoc]

variable {σ α : Type} [Transport σ] {change : σ → σ} (unseen : Transport.Unseen change)
  (c : Config)
include unseen

theorem blind_transfer (offset length : Nat) :
    Blind (Bus.change change) (transfer c offset length) := by
  have same (frame : Bytes) (state : σ) :
      Transport.transfer frame offset length c.transferTimeout (change state) =
        Prod.map id change (Transport.transfer frame offset length c.transferTimeout state) := by
    unfold Transport.transfer
    cases Transport.checkBounds frame offset length with
    | error cause => rfl
    | ok =>
      have exchanged := unseen.exchange offset (frame.slice offset length) c.transferTimeout state
      simp only [bind, StateT.bind, exchanged]
      rfl
  intro bus
  exact congrArg (fun r : (Except TransportError Unit × Bytes) × σ =>
    (r.1.1.mapError Error.transport, (⟨r.2, r.1.2⟩ : Bus σ))) (same bus.frame bus.transport)

theorem blind_deselect : Blind (Bus.change change) (lift Transport.deselect : BusM σ Unit) :=
  blind_lift unseen.deselect

theorem blind_abandon (e : Error) : Blind (Bus.change change) (abandon e : BusM σ α) :=
  .bind (.tryCatch (blind_deselect unseen) fun _ => .pure ()) fun _ => .throw e

theorem blind_transferOrClose (offset length : Nat) :
    Blind (Bus.change change) (transferOrClose c offset length) :=
  .tryCatch (blind_transfer unseen c offset length) fun e => blind_abandon unseen e

theorem blind_delay (duration : UInt32) : Blind (Bus.change change) (delay duration) := by
  refine blind_lift fun state => ?_
  exact congrArg (Prod.map Except.ok id) (unseen.delay duration state)

theorem blind_window (piece : Bytes) {rest : BusM σ α} (blind : Blind (Bus.change change) rest) :
    Blind (Bus.change change) (window c piece rest) :=
  .bind (blind_modifyFrame _) fun _ => .bind (blind_lift unseen.select) fun _ =>
    .bind (blind_transferOrClose unseen c 0 _) fun _ => blind

theorem blind_write (length : Nat) : Blind (Bus.change change) (write c length) := by
  refine .ite (.bind (.throw _) fun _ => ?_) ?_
  all_goals
    exact .bind (blind_checkBounds 0 length) fun _ => .bind (blind_lift unseen.select) fun _ =>
      .bind (blind_transferOrClose unseen c 0 length) fun _ =>
      .bind (blind_deselect unseen) fun _ => .ite (blind_delay unseen _) (.pure _)

theorem blind_readFrame : Blind (Bus.change change) (readFrame c) := by
  refine .bind (blind_modifyFrame _) fun _ => .bind (blind_transferOrClose unseen c 1 2) fun _ =>
    .get (fun _ => rfl) fun bus => .ite (.bind (blind_abandon unseen _) fun _ => ?_) ?_
  all_goals
    exact .bind (blind_modifyFrame _) fun _ => .bind (blind_transferOrClose unseen c 3 _) fun _ =>
      .bind (blind_deselect unseen) fun _ => .pure _

omit unseen in
/-- What a poll does once it has the chip status sees no change that the transport does
not see. -/
theorem exists_poll_eq_window (c : Config) : ∃ rest : BusM σ (Option Nat),
    poll c = window c [responseRequest] rest ∧
      ∀ {change : σ → σ}, Transport.Unseen change → Blind (Bus.change change) rest := by
  refine ⟨_, rfl, fun unseen => .get (fun _ => rfl) fun bus =>
    .ite (blind_abandon unseen _) (.ite (blind_abandon unseen _) (.ite ?_ ?_))⟩
  · exact .bind (blind_deselect unseen) fun _ => .pure _
  · exact .bind (blind_readFrame unseen c) fun _ => .pure _

theorem blind_poll : Blind (Bus.change change) (poll c) := by
  obtain ⟨rest, same, blind⟩ := exists_poll_eq_window (σ := σ) c
  rw [same]
  exact blind_window unseen c _ (blind unseen)

theorem blind_pollUpTo (tries : Nat) : Blind (Bus.change change) (pollUpTo c tries) := by
  induction tries with
  | zero => exact .throw _
  | succ tries ih =>
    refine .bind (blind_poll unseen c) fun found => ?_
    cases found with
    | some length => exact .pure length
    | none => exact .bind (blind_delay unseen _) fun _ => ih

omit unseen in
theorem exists_pollUpTo_eq_window (c : Config) (tries : Nat) : ∃ rest : BusM σ Nat,
    pollUpTo c (tries + 1) = window c [responseRequest] rest ∧
      ∀ {change : σ → σ}, Transport.Unseen change → Blind (Bus.change change) rest := by
  obtain ⟨rest, polls, blind⟩ := exists_poll_eq_window (σ := σ) c
  refine ⟨_, (congrArg (· >>= _) polls).trans (window_bind ..), fun unseen =>
    .bind (blind unseen) fun found => ?_⟩
  cases found with
  | some length => exact .pure length
  | none => exact .bind (blind_delay unseen _) fun _ => blind_pollUpTo unseen c tries

theorem blind_read : Blind (Bus.change change) (read c) :=
  .bind (blind_checkBounds 0 _) fun _ => blind_pollUpTo unseen c _

end Bus

/-! ### Exchanges -/

namespace Link

open Bus

theorem blind_expectStatus {σ : Type} {change : σ → σ} (reply : Frame.Reply) (expected : Status) :
    Blind (Bus.change change) (expectStatus reply expected) :=
  .ite (.pure ()) (.throw _)

variable {σ α : Type} [Transport σ] {change : σ → σ} (unseen : Transport.Unseen change)
  (c : Config)
include unseen

theorem blind_withRetries {attempt : BusM σ α} (once : Blind (Bus.change change) attempt)
    (retries : Nat) : Blind (Bus.change change) (withRetries c attempt retries) := by
  induction retries with
  | zero => exact once
  | succ retries ih =>
    exact .tryCatch once fun e =>
      .ite (.bind (blind_delay unseen _) fun _ => ih) (.throw e)

theorem blind_sendOnce (id : UInt8) (data : Bytes) :
    Blind (Bus.change change) (sendOnce c id data) := by
  refine .get (fun _ => rfl) fun bus => ?_
  cases Frame.buildRequest bus.frame id data with
  | error cause => exact .throw _
  | ok built => exact .bind (blind_modifyFrame _) fun _ => blind_write unseen c _

theorem blind_send (id : UInt8) (data : Bytes) : Blind (Bus.change change) (send c id data) :=
  blind_withRetries unseen c (blind_sendOnce unseen c id data) _

omit unseen in
/-- What is done with a frame once it has been read sees no change of the transport. -/
theorem exists_receive_eq_bind : ∃ parse : Nat → BusM σ Frame.Reply,
    (∀ c, receive c = withRetries c (Bus.read c) c.transportRetries.toNat >>= parse) ∧
      ∀ (change : σ → σ) (length : Nat), Blind (Bus.change change) (parse length) := by
  refine ⟨_, fun _ => rfl, fun change length => .get (fun _ => rfl) fun bus => ?_⟩
  cases Frame.parseResponse (bus.frame.take length) with
  | error cause => exact .throw _
  | ok reply => exact .pure reply

theorem blind_receive : Blind (Bus.change change) (receive c) := by
  obtain ⟨parse, same, blind⟩ := exists_receive_eq_bind (σ := σ)
  rw [same]
  exact .bind (blind_withRetries unseen c (blind_read unseen c) _) (blind change)

/-- What follows the request in an exchange. -/
theorem blind_answer (expected : Status) : Blind (Bus.change change)
    (receive c >>= fun reply => expectStatus reply expected >>= fun _ => pure reply.data) :=
  .bind (blind_receive unseen c) fun reply =>
    .bind (blind_expectStatus reply expected) fun _ => .pure _

theorem blind_transceive (id : UInt8) (data : Bytes) :
    Blind (Bus.change change) (transceive c id data) :=
  .bind (blind_send unseen c id data) fun _ => blind_answer unseen c .requestOk

theorem blind_sendChunks (chunks : List Bytes) :
    Blind (Bus.change change) (sendChunks c chunks) := by
  induction chunks with
  | nil => exact .pure ()
  | cons chunk rest ih =>
    exact .bind (blind_send unseen c _ chunk) fun _ => .bind (blind_receive unseen c) fun reply =>
      .bind (blind_expectStatus reply _) fun _ => ih

theorem run_collect_change (frames : Nat) (out : Bytes) (length : Nat) (bus : Bus σ) :
    (collect c frames out length).run (bus.change change) =
      Prod.map id (Bus.change change) ((collect c frames out length).run bus) := by
  induction frames generalizing out length bus with
  | zero => rfl
  | succ frames ih =>
    rw [run_collect, run_collect, (blind_receive unseen c).perform]
    rcases perform (receive c) bus with ⟨e | reply, after⟩
    · rfl
    · dsimp only [Prod.map, id]
      split
      · split
        · rfl
        · split
          · rfl
          · exact ih (out.overlay length reply.data) (length + reply.data.length) after
      · rfl

end Link

/-! ### Devices -/

namespace Device

section

variable {σ α : Type} {change : σ → σ}

theorem blind_bounded {act : DeviceM σ α} (blind : Blind (Device.change change) act) :
    Blind (Device.change change) (bounded act) := fun device => congrArg some (blind device)

theorem blind_onBus {act : Config → BusM σ α} (blind : ∀ c, Blind (Bus.change change) (act c)) :
    Blind (Device.change change) (onBus act) := by
  intro device
  exact congrArg (fun r : Except Error α × Bus σ => (r.1, { device with bus := r.2 }))
    (blind device.config device.bus)

theorem blind_expectNoSession : Blind (Device.change change) (expectNoSession : DeviceM σ Unit) :=
  .get (fun _ => rfl) fun _ => .ite (.throw _) (.pure _)

theorem blind_unprotectResult [Primitives] (frame : Bytes) :
    Blind (Device.change change) (unprotectResult frame : DeviceM σ Bytes) := by
  refine .get (fun _ => rfl) fun device => ?_
  cases device.session with
  | none => exact .throw _
  | some session =>
    dsimp only
    cases session.unprotect frame with
    | error cause => exact .throw _
    | ok opened => exact .bind (.modify fun _ => rfl) fun _ => .pure _

end

variable {σ α : Type} [Transport σ] {change : σ → σ} (unseen : Transport.Unseen change)
include unseen

theorem blind_certificateBlocks (count : Nat) (block : UInt8) :
    Blind (Device.change change) (certificateBlocks count block : DeviceM σ Bytes) := by
  induction count generalizing block with
  | zero => exact .pure []
  | succ count ih =>
    refine .bind (blind_onBus fun c => Link.blind_transceive unseen c _ _) fun data =>
      .ite (.bind (.throw _) fun _ => ?_) ?_
    all_goals exact .bind (ih _) fun _ => .pure _

theorem blind_checkEntropy : Blind (Device.change change) (checkEntropy : DeviceM σ Unit) := by
  refine .get (fun device => ?_) fun device => .ite (.throw _) (.pure _)
  dsimp only [Device.change, Bus.change]
  rw [unseen.entropy]

theorem blind_collectResult (frames : Nat) :
    Blind (Device.change change) (collectResult frames : DeviceRun σ Bytes) := by
  intro device
  change attempt (collectResult frames) (device.change change) =
    (attempt (collectResult frames) device).map (Prod.map id (Device.change change))
  rw [attempt_collectResult, attempt_collectResult]
  have collected := Link.run_collect_change unseen device.config frames device.buffer 0 device.bus
  unfold Link.receiveEncrypted
  dsimp only [Device.change]
  rw [collected]
  rcases (Link.collect device.config frames device.buffer 0).run device.bus with
    ⟨_ | ⟨result, buffer⟩, bus⟩
  · rfl
  · rfl

theorem blind_sessionStart [Primitives] (chipPublic : Key) (pairing : Pairing) :
    Blind (Device.change change) (sessionStart chipPublic pairing : DeviceM σ Unit) := by
  refine .bind blind_expectNoSession fun _ => .bind (.modify fun _ => rfl) fun _ =>
    .bind (blind_checkEntropy unseen) fun _ =>
    .bind (blind_onBus fun _ => Bus.blind_lift (unseen.random 32)) fun ephemeral =>
    .get (fun _ => rfl) fun device => .bind (.tryCatch ?_ fun e => .throw _) fun response => ?_
  · exact blind_onBus fun c => Link.blind_transceive unseen c _ _
  · cases Initiator.finish _ response with
    | error cause => exact .throw _
    | ok keys => exact .modify fun _ => rfl

end Device

end SecureElement
