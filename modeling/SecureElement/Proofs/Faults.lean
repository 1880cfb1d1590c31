import SecureElement.Proofs.Attempts
import SecureElement.Proofs.Changes

/-!
Faults of the transport and what a device makes of them.

An action masks faults (`Device.Masks`) if as many failed transfers as there are
retries make no difference to how it ends, and one more ends it with a timeout before
the chip has noticed anything. Only the first exchange of an action can meet them: the
retries of that exchange either use the faults up or end the action. So an action does
nothing on the transport before it fails or passes on to one that does (`Spared`), or its
first exchange masks the faults (`Masked`) and what follows does not see how many
transfers there were.
-/

namespace SecureElement.Device

variable {α β : Type}

/-! ### Composed actions -/

section

variable {σ : Type}

theorem bounded_bind (act : DeviceM σ α) (next : α → DeviceM σ β) :
    bounded (act >>= next) = bounded act >>= fun a => bounded (next a) := by
  funext device
  change some (perform (act >>= next) device) =
    attempt (bounded act >>= fun a => bounded (next a)) device
  rw [attempt_bind, attempt_bounded, perform_bind]
  rcases perform act device with ⟨e | a, after⟩
  · rfl
  · rfl

theorem bounded_get_bind (next : Device σ → DeviceM σ β) :
    bounded (get >>= next) = get >>= fun device => bounded (next device) :=
  bounded_bind get next

theorem bounded_tryCatch (act : DeviceM σ α) (handler : Error → DeviceM σ α) :
    bounded (tryCatch act handler) = tryCatch (bounded act) fun e => bounded (handler e) := by
  funext device
  change some (perform (tryCatch act handler) device) =
    attempt (tryCatch (bounded act) fun e => bounded (handler e)) device
  rw [attempt_tryCatch, attempt_bounded, perform_tryCatch]
  rcases perform act device with ⟨e | a, after⟩
  · rfl
  · rfl

theorem onBus_bind (act : Config → BusM σ α) (next : Config → α → BusM σ β) :
    onBus (fun c => act c >>= next c) = onBus act >>= fun a => onBus fun c => next c a := by
  funext device
  change perform (onBus fun c => act c >>= next c) device =
    perform (onBus act >>= fun a => onBus fun c => next c a) device
  rw [perform_bind, perform_onBus, perform_onBus, perform_bind]
  rcases perform (act device.config) device.bus with ⟨e | a, after⟩
  · rfl
  · rfl

theorem attempt_onBus {act : Config → BusM σ α} {device : Device σ} {result : Except Error α}
    {bus : Bus σ} (performed : perform (act device.config) device.bus = (result, bus)) :
    attempt (bounded (onBus act)) device = some (result, { device with bus }) := by
  rw [attempt_bounded, perform_onBus, performed]

end

/-! ### Faults -/

/-- The device with a number of transfers that will fail. -/
def failing (device : Device Chip) (count : Nat) : Device Chip :=
  device.change fun chip => chip.failTransfers count

/-- The device after more transfers and a longer wait. -/
def aged (device : Device Chip) (transfers duration : Nat) : Device Chip :=
  device.change fun chip => chip.aged transfers duration

/-- The chip when each attempt of an exchange has met one of `count` faults: it is as it
was, but for what counts the attempts and for random bytes that the host has drawn. -/
def exhausted (device : Device Chip) (count : Nat) (random : RandomSource) : Chip :=
  { device.chip with
    faults.failTransfers := count - (device.config.transportRetries.toNat + 1)
    transfers := device.chip.transfers + (device.config.transportRetries.toNat + 1)
    delayed := device.chip.delayed +
      device.config.transportRetries.toNat * device.config.retryDelay.toNat
    window := .closed
    random }

/-- An action reaches the transport: if no transfer fails it makes one, or it does not
end. -/
def Reaches (act : DeviceRun Chip α) (device : Device Chip) : Prop :=
  ∀ result after, attempt act (device.failing 0) = some (result, after) →
    device.chip.transfers < after.chip.transfers

/-- Faults of the transport are masked by its retries. -/
structure Masks (act : DeviceRun Chip α) (device : Device Chip) : Prop where
  /-- No more faults than retries: the result and the device are those without them, but
  for the transfer and the wait that each fault costs. -/
  within {count : Nat} (reaches : Reaches act device)
    (few : count ≤ device.config.transportRetries.toNat) :
    attempt act (device.failing count) = (attempt act (device.failing 0)).map
      (Prod.map id fun after => after.aged count (count * device.config.retryDelay.toNat))
  /-- More faults than retries: the action times out when one fault for each attempt is
  spent, and the chip has noticed none of the attempts. -/
  beyond {count : Nat} (reaches : Reaches act device)
    (many : device.config.transportRetries.toNat < count) :
    ∃ after random, attempt act (device.failing count) =
      some (.error (.transport .timeout), after) ∧ after.chip = device.exhausted count random
  /-- An action that does not reach the transport leaves the faults there. -/
  elsewhere (count : Nat) (silent : ¬Reaches act device) :
    attempt act (device.failing count) = (attempt act (device.failing 0)).map
      (Prod.map id fun after => after.failing count)

/-- An action ends in the same way however many transfers will fail, and at most draws
random bytes. -/
structure Spared (act : DeviceRun Chip α) (device : Device Chip) (result : Except Error α)
    (after : Device Chip) : Prop where
  runs (count : Nat) : attempt act (device.failing count) = some (result, after.failing count)
  config : after.config = device.config
  bus : ∃ random, after.bus = { device.bus with transport.random := random }

/-- An action masks faults because it reaches the transport. -/
structure Masked (act : DeviceRun Chip α) (device : Device Chip) : Prop where
  reaches : Reaches act device
  within {count : Nat} (few : count ≤ device.config.transportRetries.toNat) :
    attempt act (device.failing count) = (attempt act (device.failing 0)).map
      (Prod.map id fun after => after.aged count (count * device.config.retryDelay.toNat))
  beyond {count : Nat} (many : device.config.transportRetries.toNat < count) :
    ∃ after random, attempt act (device.failing count) =
      some (.error (.transport .timeout), after) ∧ after.chip = device.exhausted count random

/-- An action does not reach the transport or masks its faults. -/
inductive Withstands (act : DeviceRun Chip α) (device : Device Chip) : Prop
  | spared (result : Except Error α) (after : Device Chip)
      (spared : Spared act device result after) : Withstands act device
  | masked (masked : Masked act device) : Withstands act device

variable {act : DeviceRun Chip α} {device between : Device Chip} {result : Except Error α}

theorem Spared.ready (spared : Spared act device result between) (ready : device.bus.Ready) :
    between.bus.Ready := by
  obtain ⟨random, same⟩ := spared.bus
  rw [same]
  exact ⟨ready.length, ready.closed⟩

theorem Spared.transfers (spared : Spared act device result between) :
    between.chip.transfers = device.chip.transfers := by
  obtain ⟨random, same⟩ := spared.bus
  rw [chip, same]

/-- An action that makes no transfers masks faults. -/
theorem Masks.of_silent (result : Except Error α) (after : Device Chip)
    (runs : ∀ count, attempt act (device.failing count) = some (result, after.failing count))
    (same : after.chip.transfers = device.chip.transfers) : Masks act device := by
  have silent : ¬Reaches act device := fun reaches =>
    Nat.lt_irrefl _ (Nat.lt_of_lt_of_eq (reaches _ _ (runs 0)) same)
  refine ⟨fun reaches => absurd reaches silent, fun reaches => absurd reaches silent,
    fun count _ => ?_⟩
  rw [runs, runs]
  rfl

theorem Withstands.masks (withstands : Withstands act device) : Masks act device := by
  cases withstands with
  | spared result after spared => exact .of_silent result after spared.runs spared.transfers
  | masked masked =>
    exact ⟨fun _ => masked.within, fun _ => masked.beyond, fun _ silent =>
      absurd masked.reaches silent⟩

/-! ### Sequences -/

/-- What does not see the count of transfers does not lower it. -/
theorem transfers_le_of_blind
    (blind : ∀ transfers duration,
      Blind (Device.change fun chip => chip.aged transfers duration) act)
    (ran : attempt act device = some (result, between)) :
    device.chip.transfers ≤ between.chip.transfers := by
  have later := (blind device.chip.transfers 0).attempt
    { device with bus.transport.transfers := 0 }
  have counted : Device.change (fun chip => chip.aged device.chip.transfers 0)
      { device with bus.transport.transfers := 0 } = device := by
    simp only [Device.change, Bus.change, Chip.aged, Nat.zero_add, Nat.add_zero]
  rw [counted, ran] at later
  obtain ⟨⟨other, young⟩, -, same⟩ := Option.map_eq_some_iff.mp later.symm
  cases same
  exact Nat.le_add_left _ _

/-- What does not see transfers and time may follow. -/
theorem Masked.bind {next : α → DeviceRun Chip β} (masked : Masked act device)
    (blind : ∀ a transfers duration,
      Blind (Device.change fun chip => chip.aged transfers duration) (next a)) :
    Masked (act >>= next) device where
  reaches := by
    intro result after ran
    rcases attempt_bind_eq_some ran with ⟨e, failed, -⟩ | ⟨a, between, done, rest⟩
    · exact masked.reaches _ _ failed
    · exact Nat.lt_of_lt_of_le (masked.reaches _ _ done) (transfers_le_of_blind (blind a) rest)
  within few := by
    rw [attempt_bind, attempt_bind, masked.within few]
    rcases attempt act (device.failing 0) with _ | ⟨e | a, between⟩
    · rfl
    · rfl
    · exact (blind a _ _).attempt between
  beyond many := by
    obtain ⟨after, random, failed, same⟩ := masked.beyond many
    refine ⟨after, random, ?_, same⟩
    rw [attempt_bind, failed]

/-- A handler that does nothing on the bus and passes a timeout on. -/
structure Rethrows (handler : Error → DeviceRun Chip α) (rename : Error → Error)
    (leave : Device Chip → Device Chip) : Prop where
  runs (e : Error) (device : Device Chip) :
    attempt (handler e) device = some (.error (rename e), leave device)
  timeout : rename (.transport .timeout) = .transport .timeout
  config (device : Device Chip) : (leave device).config = device.config
  bus (device : Device Chip) (bus : Bus Chip) :
    leave { device with bus } = { leave device with bus }

theorem Rethrows.bus_eq {handler : Error → DeviceRun Chip α} {rename : Error → Error}
    {leave : Device Chip → Device Chip} (rethrows : Rethrows handler rename leave)
    (device : Device Chip) : (leave device).bus = device.bus :=
  (congrArg Device.bus (rethrows.bus device device.bus)).trans rfl

theorem Rethrows.change {handler : Error → DeviceRun Chip α} {rename : Error → Error}
    {leave : Device Chip → Device Chip} (rethrows : Rethrows handler rename leave)
    (device : Device Chip) (change : Chip → Chip) :
    leave (device.change change) = (leave device).change change := by
  unfold Device.change
  rw [rethrows.bus_eq]
  exact rethrows.bus device _

/-- A handler may follow that leaves a timeout what it is. -/
theorem Masked.tryCatch {handler : Error → DeviceRun Chip α} {rename : Error → Error}
    {leave : Device Chip → Device Chip} (masked : Masked act device)
    (rethrows : Rethrows handler rename leave) : Masked (tryCatch act handler) device := by
  have chips (device : Device Chip) : (leave device).chip = device.chip :=
    congrArg Bus.transport (rethrows.bus_eq device)
  refine ⟨fun result after ran => ?_, fun {count} few => ?_, fun many => ?_⟩
  · rw [attempt_tryCatch] at ran
    rcases done : attempt act (device.failing 0) with _ | ⟨e | a, between⟩
    all_goals
      rw [done] at ran
      dsimp only at ran
    · cases ran
    · rw [rethrows.runs] at ran
      cases ran
      rw [chips]
      exact masked.reaches _ _ done
    · cases ran
      exact masked.reaches _ _ done
  · rw [attempt_tryCatch, attempt_tryCatch, masked.within few]
    rcases attempt act (device.failing 0) with _ | ⟨e | a, between⟩
    · rfl
    · change attempt (handler e) (between.aged count (count * device.config.retryDelay.toNat)) =
        (attempt (handler e) between).map
          (Prod.map id fun after => after.aged count (count * device.config.retryDelay.toNat))
      rw [rethrows.runs, rethrows.runs, aged, rethrows.change]
      rfl
    · rfl
  · obtain ⟨after, random, failed, kept⟩ := masked.beyond many
    refine ⟨leave after, random, ?_, ?_⟩
    · rw [attempt_tryCatch, failed]
      dsimp only
      rw [rethrows.runs, rethrows.timeout]
    · rw [chips]
      exact kept

/-- What an action comes to on a device may be what another comes to on a device with the
same bus. -/
theorem Withstands.of_runs {other : DeviceRun Chip α}
    (runs : ∀ count, attempt act (device.failing count) = attempt other (between.failing count))
    (config : between.config = device.config)
    (bus : ∃ random, between.bus = { device.bus with transport.random := random })
    (withstands : Withstands other between) : Withstands act device := by
  obtain ⟨random, same⟩ := bus
  cases withstands with
  | spared result after spared =>
    obtain ⟨random', same'⟩ := spared.bus
    refine .spared result after ⟨fun count => (runs count).trans (spared.runs count),
      spared.config.trans config, random', ?_⟩
    rw [same', same]
  | masked masked =>
    refine .masked ⟨fun result after ran => ?_, fun few => ?_, fun many => ?_⟩
    · have reached := masked.reaches _ _ ((runs 0).symm.trans ran)
      rwa [chip, same] at reached
    · rw [runs, runs, ← config]
      exact masked.within (config ▸ few)
    · obtain ⟨after, random', failed, kept⟩ := masked.beyond (config ▸ many)
      refine ⟨after, random', (runs _).trans failed, ?_⟩
      rw [kept, exhausted, exhausted, config, chip, same]

/-- An action that is spared may come before. -/
theorem Withstands.after {next : α → DeviceRun Chip β} (spared : Spared act device result between)
    (rest : ∀ a, result = .ok a → Withstands (next a) between) :
    Withstands (act >>= next) device := by
  cases result with
  | error e =>
    refine .spared (.error e) between ⟨fun count => ?_, spared.config, spared.bus⟩
    rw [attempt_bind, spared.runs]
  | ok a =>
    refine .of_runs (fun count => ?_) spared.config spared.bus (rest a rfl)
    rw [attempt_bind, spared.runs]

/-- What does not see transfers and time, and makes none, may follow. -/
theorem Withstands.bind {next : α → DeviceRun Chip β} (withstands : Withstands act device)
    (blind : ∀ a transfers duration,
      Blind (Device.change fun chip => chip.aged transfers duration) (next a))
    (rest : ∀ a between, Withstands (next a) between) : Withstands (act >>= next) device := by
  cases withstands with
  | spared result between spared => exact .after spared fun a _ => rest a between
  | masked masked => exact .masked (masked.bind blind)

theorem Withstands.tryCatch {handler : Error → DeviceRun Chip α} {rename : Error → Error}
    {leave : Device Chip → Device Chip} (withstands : Withstands act device)
    (rethrows : Rethrows handler rename leave) : Withstands (tryCatch act handler) device := by
  cases withstands with
  | masked masked => exact .masked (masked.tryCatch rethrows)
  | spared result after spared =>
    cases result with
    | ok a =>
      refine .spared (.ok a) after ⟨fun count => ?_, spared.config, spared.bus⟩
      rw [attempt_tryCatch, spared.runs]
    | error e =>
      refine .spared (.error (rename e)) (leave after)
        ⟨fun count => ?_, (rethrows.config after).trans spared.config, ?_⟩
      · rw [attempt_tryCatch, spared.runs]
        dsimp only
        rw [rethrows.runs, failing, rethrows.change]
        rfl
      · rw [rethrows.bus_eq]
        exact spared.bus

/-- What follows from a look at the device must not depend on the faults. -/
theorem Spared.get {next : Device Chip → DeviceRun Chip α}
    (same : ∀ count, next (device.failing count) = next device)
    (rest : Spared (next device) device result between) :
    Spared (get >>= next) device result between := by
  refine ⟨fun count => ?_, rest.config, rest.bus⟩
  rw [attempt_bind_ok (attempt_get _), same]
  exact rest.runs count

theorem Withstands.get {next : Device Chip → DeviceRun Chip α}
    (same : ∀ count, next (device.failing count) = next device)
    (rest : Withstands (next device) device) : Withstands (get >>= next) device := by
  refine .of_runs (fun count => ?_) rfl ⟨device.chip.random, rfl⟩ rest
  rw [attempt_bind_ok (attempt_get _), same]

/-! ### Steps of the host -/

theorem spared_pure (a : α) (device : Device Chip) : Spared (pure a) device (.ok a) device :=
  ⟨fun _ => attempt_pure a _, rfl, device.chip.random, rfl⟩

theorem spared_throw (e : Error) (device : Device Chip) :
    Spared (throw e : DeviceRun Chip α) device (.error e) device :=
  ⟨fun _ => attempt_throw e _, rfl, device.chip.random, rfl⟩

/-- A change of what the host keeps. -/
theorem spared_modify {leave : Device Chip → Device Chip} (device : Device Chip)
    (config : (leave device).config = device.config)
    (bus : ∀ bus : Bus Chip, leave { device with bus } = { leave device with bus }) :
    Spared (modify leave) device (.ok ⟨⟩) (leave device) := by
  have same : (leave device).bus = device.bus :=
    (congrArg Device.bus (bus device.bus)).trans rfl
  refine ⟨fun count => ?_, config, device.chip.random, same⟩
  rw [attempt_modify]
  unfold failing Device.change
  rw [same, ← bus]

theorem spared_check (p : Prop) [Decidable p] (e : Error) (device : Device Chip) : ∃ result,
    Spared (bounded (if p then throw e else pure ())) device result device := by
  split
  · exact ⟨_, spared_throw e device⟩
  · exact ⟨_, spared_pure () device⟩

theorem spared_expectNoSession (device : Device Chip) : ∃ result,
    Spared (bounded expectNoSession) device result device := by
  obtain ⟨result, spared⟩ := spared_check (device.state = .established) .sessionActive device
  refine ⟨result, ?_⟩
  unfold expectNoSession
  rw [bounded_get_bind]
  exact .get (fun _ => rfl) spared

theorem rethrows_throw (rename : Error → Error)
    (timeout : rename (.transport .timeout) = .transport .timeout) :
    Rethrows (fun e => bounded (throw (rename e)) : Error → DeviceRun Chip α) rename id :=
  ⟨fun _ _ => rfl, timeout, fun _ => rfl, fun _ _ => rfl⟩

end SecureElement.Device
