import SecureElement.Device

/-!
Running actions.

`perform` runs an action that always has an outcome and `attempt` one that may
have none within its bound. Sequencing, recovery and access to the state are
each one equation here, so that a fact about a composed action is the fact about
its parts, put together. `Keeps` is what such facts often come to: whatever the
outcome, a property of the state holds after the action if it held before.
-/

namespace SecureElement

variable {ε s α β : Type}

theorem mapError_ok (rename : ε → β) (a : α) :
    (Except.ok a : Except ε α).mapError rename = .ok a := rfl

theorem mapError_error (rename : ε → β) (e : ε) :
    (Except.error e : Except ε α).mapError rename = .error (rename e) := rfl

/-! ### Actions with an outcome -/

/-- The outcome of an action from a state, and the state after it. -/
def perform (act : ExceptT ε (StateM s) α) (before : s) : Except ε α × s :=
  act.run.run before

@[simp] theorem perform_pure (a : α) (before : s) :
    perform (pure a : ExceptT ε (StateM s) α) before = (.ok a, before) := rfl

@[simp] theorem perform_throw (e : ε) (before : s) :
    perform (throw e : ExceptT ε (StateM s) α) before = (.error e, before) := rfl

@[simp] theorem perform_get (before : s) :
    perform (get : ExceptT ε (StateM s) s) before = (.ok before, before) := rfl

@[simp] theorem perform_set (after before : s) :
    perform (set after : ExceptT ε (StateM s) PUnit) before = (.ok ⟨⟩, after) := rfl

@[simp] theorem perform_modify (change : s → s) (before : s) :
    perform (modify change : ExceptT ε (StateM s) PUnit) before = (.ok ⟨⟩, change before) := rfl

/-- A failure ends a sequence of actions. -/
theorem perform_bind (act : ExceptT ε (StateM s) α) (next : α → ExceptT ε (StateM s) β)
    (before : s) :
    perform (act >>= next) before =
      match perform act before with
      | (.ok a, after) => perform (next a) after
      | (.error e, after) => (.error e, after) := by
  change (act.run >>= ExceptT.bindCont next).run before = _
  rw [StateT.run_bind]
  unfold perform
  rcases act.run.run before with ⟨result, after⟩
  cases result <;> rfl

/-- A handler takes over where an action failed. -/
theorem perform_tryCatch (act : ExceptT ε (StateM s) α) (handler : ε → ExceptT ε (StateM s) α)
    (before : s) :
    perform (tryCatch act handler) before =
      match perform act before with
      | (.ok a, after) => (.ok a, after)
      | (.error e, after) => perform (handler e) after := by
  change (act.run >>= fun result => match result with
    | .ok a => pure (.ok a)
    | .error e => (handler e).run).run before = _
  rw [StateT.run_bind]
  unfold perform
  rcases act.run.run before with ⟨result, after⟩
  cases result <;> rfl

theorem perform_bind_ok {act : ExceptT ε (StateM s) α} {next : α → ExceptT ε (StateM s) β}
    {before after : s} {a : α} (h : perform act before = (.ok a, after)) :
    perform (act >>= next) before = perform (next a) after := by
  rw [perform_bind, h]

theorem perform_bind_error {act : ExceptT ε (StateM s) α} {next : α → ExceptT ε (StateM s) β}
    {before after : s} {e : ε} (h : perform act before = (.error e, after)) :
    perform (act >>= next) before = (.error e, after) := by
  rw [perform_bind, h]

/-- An action whose handler only changes the error succeeds as the action does. -/
theorem perform_tryCatch_throw (act : ExceptT ε (StateM s) α) (rename : ε → ε) (before : s) :
    perform (tryCatch act fun e => throw (rename e)) before =
      ((perform act before).1.mapError rename, (perform act before).2) := by
  rw [perform_tryCatch]
  rcases perform act before with ⟨result, after⟩
  cases result <;> rfl

/-! ### Properties that actions keep -/

/-- A property of the state that holds after an action if it held before. -/
def Keeps (P : s → Prop) (act : ExceptT ε (StateM s) α) : Prop :=
  ∀ before, P before → P (perform act before).2

namespace Keeps

variable {P : s → Prop} {act : ExceptT ε (StateM s) α}

theorem pure (a : α) : Keeps P (pure a : ExceptT ε (StateM s) α) := fun _ held => held

theorem throw (e : ε) : Keeps P (throw e : ExceptT ε (StateM s) α) := fun _ held => held

theorem bind {next : α → ExceptT ε (StateM s) β} (first : Keeps P act)
    (rest : ∀ a, Keeps P (next a)) : Keeps P (act >>= next) := by
  intro before held
  have between := first before held
  rw [perform_bind]
  rcases performed : perform act before with ⟨result, after⟩
  rw [performed] at between
  cases result with
  | ok a => exact rest a after between
  | error e => exact between

end Keeps

/-! ### Actions that may have no outcome -/

/-- The outcome of an action from a state and the state after it, if there is
one. -/
def attempt (act : ExceptT ε (StateT s Option) α) (before : s) : Option (Except ε α × s) :=
  act.run.run before

@[simp] theorem attempt_pure (a : α) (before : s) :
    attempt (pure a : ExceptT ε (StateT s Option) α) before = some (.ok a, before) := rfl

@[simp] theorem attempt_throw (e : ε) (before : s) :
    attempt (throw e : ExceptT ε (StateT s Option) α) before = some (.error e, before) := rfl

@[simp] theorem attempt_get (before : s) :
    attempt (get : ExceptT ε (StateT s Option) s) before = some (.ok before, before) := rfl

@[simp] theorem attempt_modify (change : s → s) (before : s) :
    attempt (modify change : ExceptT ε (StateT s Option) PUnit) before =
      some (.ok ⟨⟩, change before) := rfl

@[simp] theorem attempt_bounded {σ : Type} (act : DeviceM σ α) (before : Device σ) :
    attempt (Device.bounded act) before = some (perform act before) := rfl

theorem attempt_bind (act : ExceptT ε (StateT s Option) α)
    (next : α → ExceptT ε (StateT s Option) β) (before : s) :
    attempt (act >>= next) before =
      match attempt act before with
      | some (.ok a, after) => attempt (next a) after
      | some (.error e, after) => some (.error e, after)
      | none => none := by
  change (act.run >>= ExceptT.bindCont next).run before = _
  rw [StateT.run_bind]
  unfold attempt
  rcases act.run.run before with _ | ⟨result, after⟩
  · rfl
  · cases result <;> rfl

theorem attempt_bind_ok {act : ExceptT ε (StateT s Option) α}
    {next : α → ExceptT ε (StateT s Option) β} {before after : s} {a : α}
    (h : attempt act before = some (.ok a, after)) :
    attempt (act >>= next) before = attempt (next a) after := by
  rw [attempt_bind, h]

/-- A sequence that has an outcome fails in its first part or has that of the
second. -/
theorem attempt_bind_eq_some {act : ExceptT ε (StateT s Option) α}
    {next : α → ExceptT ε (StateT s Option) β} {before after : s} {result : Except ε β}
    (h : attempt (act >>= next) before = some (result, after)) :
    (∃ e, attempt act before = some (.error e, after) ∧ result = .error e) ∨
      ∃ a between, attempt act before = some (.ok a, between) ∧
        attempt (next a) between = some (result, after) := by
  rw [attempt_bind] at h
  rcases first : attempt act before with _ | ⟨e | a, between⟩
  · rw [first] at h
    cases h
  · rw [first] at h
    cases h
    exact .inl ⟨e, rfl, rfl⟩
  · rw [first] at h
    exact .inr ⟨a, between, rfl, h⟩

theorem attempt_tryCatch (act : ExceptT ε (StateT s Option) α)
    (handler : ε → ExceptT ε (StateT s Option) α) (before : s) :
    attempt (tryCatch act handler) before =
      match attempt act before with
      | some (.ok a, after) => some (.ok a, after)
      | some (.error e, after) => attempt (handler e) after
      | none => none := by
  change (act.run >>= fun result => match result with
    | .ok a => pure (.ok a)
    | .error e => (handler e).run).run before = _
  rw [StateT.run_bind]
  unfold attempt
  rcases act.run.run before with _ | ⟨result, after⟩
  · rfl
  · cases result <;> rfl

end SecureElement
