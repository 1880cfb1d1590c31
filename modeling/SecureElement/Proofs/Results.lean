import SecureElement.Chip.Store

/-!
What commands return.

A result has at most the data that the host reserves room for
(`Command.responseLength`), because a memory slot never holds more than can be
written to it (`Store.Valid`).
-/

namespace SecureElement.Store

/-- No memory slot holds more than can be written to it. -/
def Valid (store : Store) : Prop :=
  ∀ (slot : Fin 512) (content : Bytes), store.memory.get slot = some content →
    content.length ≤ Limit.memory

theorem get_memory_fresh (key : Key) (slot : Fin 512) : (fresh key).memory.get slot = none := by
  change (Vector.replicate 512 (none : Option Bytes))[slot] = none
  rw [Fin.getElem_fin, Vector.getElem_replicate]

/-- If the command succeeds, its result has at most `bound` bytes of data, and the
store is as valid as before. -/
def Within (store : Store) (bound : Nat) (outcome : Outcome) : Prop :=
  ∀ result after, outcome = .ok (result, after) → store.Valid →
    result.length ≤ bound ∧ after.Valid

namespace Within

variable {store : Store} {bound : Nat} {α : Type}

theorem error (code : ResultCode) : store.Within bound (.error code) := nofun

theorem ok {result : Bytes} {after : Store}
    (h : store.Valid → result.length ≤ bound ∧ after.Valid) :
    store.Within bound (.ok (result, after)) := by
  intro _ _ same
  cases same
  exact h

theorem mono {outcome : Outcome} {bound' : Nat} (within : store.Within bound outcome)
    (le : bound ≤ bound') : store.Within bound' outcome := by
  intro result after ran valid
  obtain ⟨short, valid'⟩ := within result after ran valid
  exact ⟨Nat.le_trans short le, valid'⟩

/-- A result from a store that stays as it is. -/
theorem keep {result : Bytes} (short : result.length ≤ bound) :
    store.Within bound (.ok (result, store)) :=
  .ok fun valid => ⟨short, valid⟩

/-- A change to a store that does not touch its memory. -/
theorem change {after : Store} (same : after.memory = store.memory) :
    store.Within bound (.ok ([], after)) := by
  refine .ok fun valid => ⟨Nat.zero_le bound, ?_⟩
  unfold Valid
  rw [same]
  exact valid

theorem bind {check : Except ResultCode α} {next : α → Outcome}
    (rest : ∀ a, store.Within bound (next a)) : store.Within bound (check >>= next) := by
  cases check with
  | error code => exact .error code
  | ok a => exact rest a

theorem ite {condition : Prop} [Decidable condition] {left right : Outcome}
    (first : store.Within bound left) (second : store.Within bound right) :
    store.Within bound (if condition then left else right) := by
  split
  · exact first
  · exact second

end Within

theorem length_padded (padding : Nat) (content : Bytes) :
    (padded padding content).length = padding + content.length := by
  simp [padded]

/-! ### Handlers -/

section

variable (store : Store) (data : Bytes)

theorem pairingKeyWrite_within : store.Within 0 (store.pairingKeyWrite data) := by
  unfold pairingKeyWrite
  exact .bind fun _ => .bind fun _ => .ite (.change rfl) (.error _)

theorem pairingKeyRead_within : store.Within 35 (store.pairingKeyRead data) := by
  unfold pairingKeyRead
  refine .bind fun _ => .bind fun slot => ?_
  split
  · rename_i key _
    refine .keep (Nat.le_of_eq ?_)
    rw [length_padded, key.property]
  · exact .error _
  · exact .error _

theorem pairingKeyInvalidate_within : store.Within 0 (store.pairingKeyInvalidate data) := by
  unfold pairingKeyInvalidate
  exact .bind fun _ => .bind fun _ => .change rfl

/-- A slot that is given no more than can be written to it. -/
theorem Valid.set {store : Store} (valid : store.Valid) (slot : Fin 512) {entry : Option Bytes}
    (short : ∀ content, entry = some content → content.length ≤ Limit.memory) :
    Valid { store with memory := store.memory.set slot entry slot.isLt } := by
  intro other content found
  have found : (store.memory.set slot entry slot.isLt)[other.val] = some content := found
  rw [Vector.getElem_set] at found
  split at found
  · exact short content found
  · exact valid other content found

theorem rMemDataWrite_within : store.Within 0 (store.rMemDataWrite data) := by
  unfold rMemDataWrite
  split
  · exact .error _
  · rename_i size
    refine .bind fun slot => .ite ?_ (.error _)
    refine .ok fun valid => ⟨Nat.le_refl 0, valid.set slot fun content written => ?_⟩
    cases written
    rw [List.length_drop]
    omega

theorem rMemDataRead_within : store.Within (3 + Limit.memory) (store.rMemDataRead data) := by
  unfold rMemDataRead
  refine .bind fun _ => .bind fun slot => .ok fun valid => ⟨?_, valid⟩
  rw [length_padded]
  cases held : store.memory[slot] with
  | none => simp
  | some content => exact Nat.add_le_add_left (valid slot content held) 3

theorem rMemDataErase_within : store.Within 0 (store.rMemDataErase data) := by
  unfold rMemDataErase
  exact .bind fun _ => .bind fun slot =>
    .ok fun valid => ⟨Nat.le_refl 0, valid.set slot nofun⟩

theorem randomValueGet_within (drawn : Bytes) :
    store.Within (3 + drawn.length) (store.randomValueGet drawn data) := by
  unfold randomValueGet
  exact .bind fun _ => .keep (Nat.le_of_eq (length_padded 3 drawn))

theorem insertKey_within (secret : Key) (origin : KeyOrigin) :
    store.Within 0 (store.insertKey data secret origin) := by
  unfold insertKey
  refine .bind fun slot => ?_
  split
  · exact .error _
  · exact .error _
  · exact .ite (.change rfl) (.error _)

theorem eccKeyGenerate_within (drawn : Bytes) :
    store.Within 0 (store.eccKeyGenerate drawn data) := by
  unfold eccKeyGenerate
  exact .bind fun _ => insertKey_within store data _ _

theorem eccKeyStore_within : store.Within 0 (store.eccKeyStore data) := by
  unfold eccKeyStore
  exact .bind fun _ => insertKey_within store data _ _

theorem eccKeyErase_within : store.Within 0 (store.eccKeyErase data) := by
  unfold eccKeyErase
  exact .bind fun _ => .bind fun _ => .change rfl

theorem mCounterInit_within : store.Within 0 (store.mCounterInit data) := by
  unfold mCounterInit
  exact .bind fun _ => .bind fun _ => .change rfl

theorem mCounterUpdate_within : store.Within 0 (store.mCounterUpdate data) := by
  unfold mCounterUpdate
  refine .bind fun _ => .bind fun i => ?_
  split
  · exact .error _
  · exact .ite (.error _) (.change rfl)

theorem mCounterGet_within : store.Within 7 (store.mCounterGet data) := by
  unfold mCounterGet
  refine .bind fun _ => .bind fun i => ?_
  split
  · exact .error _
  · refine .keep (Nat.le_of_eq ?_)
    rw [length_padded, Bytes.length_littleEndian]

variable [Primitives]

theorem eccKeyRead_within : store.Within (15 + 64) (store.eccKeyRead data) := by
  unfold eccKeyRead
  refine .bind fun _ => .bind fun entry => .keep ?_
  rw [List.length_cons, List.length_cons, length_padded,
    (Primitives.verifyingKey entry.secret).property]
  decide

theorem eddsaSign_within : store.Within (15 + 64) (store.eddsaSign data) := by
  unfold eddsaSign
  split
  · exact .error _
  · refine .bind fun entry => .keep ?_
    exact Nat.le_of_eq (by rw [length_padded, (Primitives.sign entry.secret _).property])

end

/-! ### Command packets -/

section

variable [Primitives]

/-- The longest result is that of a ping. -/
theorem run_within (store : Store) {drawn : Bytes} (few : drawn.length ≤ Limit.random)
    (id : UInt8) (data : Bytes) : store.Within Limit.ping (store.run drawn id data) := by
  unfold run
  split
  · by_cases short : data.length ≤ Limit.ping
    · rw [if_pos short]
      exact .keep short
    · rw [if_neg short]
      exact .error _
  · exact (store.pairingKeyWrite_within data).mono (by decide)
  · exact (store.pairingKeyRead_within data).mono (by decide)
  · exact (store.pairingKeyInvalidate_within data).mono (by decide)
  · exact (store.rMemDataWrite_within data).mono (by decide)
  · exact (store.rMemDataRead_within data).mono (by decide)
  · exact (store.rMemDataErase_within data).mono (by decide)
  · exact (store.randomValueGet_within data drawn).mono
      (Nat.le_trans (Nat.add_le_add_left few 3) (by decide))
  · exact (store.eccKeyGenerate_within data drawn).mono (by decide)
  · exact (store.eccKeyStore_within data).mono (by decide)
  · exact (store.eccKeyRead_within data).mono (by decide)
  · exact (store.eccKeyErase_within data).mono (by decide)
  · exact .error _
  · exact (store.eddsaSign_within data).mono (by decide)
  · exact (store.mCounterInit_within data).mono (by decide)
  · exact (store.mCounterUpdate_within data).mono (by decide)
  · exact (store.mCounterGet_within data).mono (by decide)
  · exact .error _

omit [Primitives] in
/-- No command takes more random bytes than can be asked for. -/
theorem demand_le (packet : Bytes) : demand packet ≤ Limit.random := by
  unfold demand
  split
  · exact Nat.le_of_lt_succ (UInt8.toNat_lt _)
  · decide
  · exact Nat.zero_le _

omit [Primitives] in
theorem length_draw_le (random : RandomSource) (packet : Bytes) :
    (random.draw (demand packet)).1.val.length ≤ Limit.random :=
  Nat.le_trans (Nat.le_of_eq (random.draw (demand packet)).1.property) (demand_le packet)

theorem execute_cons (store : Store) (random : RandomSource) (id : UInt8) (data : Bytes) :
    store.execute random (id :: data) =
      let drawn := random.draw (demand (id :: data))
      match store.run drawn.1.val id data with
      | .ok (result, after) => (ResultCode.ok.byte :: result, after, drawn.2)
      | .error code => ([code.byte], store, drawn.2) := rfl

/-- The store is as valid after a packet as before. -/
theorem execute_valid {store : Store} (valid : store.Valid) (random : RandomSource)
    (packet : Bytes) : (store.execute random packet).2.1.Valid := by
  cases packet with
  | nil => exact valid
  | cons id data =>
    rw [execute_cons]
    have within := run_within store (length_draw_le random (id :: data)) id data
    dsimp only
    cases ran : store.run (random.draw (demand (id :: data))).1.val id data with
    | error code => exact valid
    | ok outcome => exact (within outcome.1 outcome.2 ran valid).2

/-- The result of a packet is no longer than that of the longest ping. -/
theorem length_result_le {store : Store} (valid : store.Valid) (random : RandomSource)
    (packet : Bytes) : (store.execute random packet).1.length ≤ 1 + Limit.ping := by
  cases packet with
  | nil => exact Nat.le_add_right 1 Limit.ping
  | cons id data =>
    rw [execute_cons]
    have within := run_within store (length_draw_le random (id :: data)) id data
    dsimp only
    cases ran : store.run (random.draw (demand (id :: data))).1.val id data with
    | error code => exact Nat.le_add_right 1 Limit.ping
    | ok outcome =>
      have short := (within outcome.1 outcome.2 ran valid).1
      rw [List.length_cons]
      omega

theorem run_command_within (store : Store) {drawn : Bytes} (command : Command)
    (count : drawn.length = demand command.packet) :
    store.Within command.responseLength (store.run drawn command.id command.encode) := by
  cases command with
  | ping data => exact .ite (.keep (Nat.le_refl _)) (.error _)
  | pairingKeyWrite slot key => exact store.pairingKeyWrite_within _
  | pairingKeyRead slot => exact store.pairingKeyRead_within _
  | pairingKeyInvalidate slot => exact store.pairingKeyInvalidate_within _
  | rMemDataWrite slot data => exact store.rMemDataWrite_within _
  | rMemDataRead slot => exact store.rMemDataRead_within _
  | rMemDataErase slot => exact store.rMemDataErase_within _
  | randomValueGet count' =>
    have within := store.randomValueGet_within [count'] drawn
    rw [count] at within
    exact within
  | eccKeyGenerate slot curve => exact store.eccKeyGenerate_within _ drawn
  | eccKeyStore slot curve key => exact store.eccKeyStore_within _
  | eccKeyRead slot => exact store.eccKeyRead_within _
  | eccKeyErase slot => exact store.eccKeyErase_within _
  | eddsaSign slot message => exact store.eddsaSign_within _
  | mCounterInit index value => exact store.mCounterInit_within _
  | mCounterUpdate index => exact store.mCounterUpdate_within _
  | mCounterGet index => exact store.mCounterGet_within _

/-- The result of a command is no longer than the host reserves room for. -/
theorem length_execute_le {store : Store} (valid : store.Valid) (random : RandomSource)
    (command : Command) :
    (store.execute random command.packet).1.length ≤ 1 + command.responseLength := by
  have within := run_command_within store command (random.draw (demand command.packet)).1.property
  unfold Command.packet at within ⊢
  rw [execute_cons]
  dsimp only
  cases ran : store.run (random.draw (demand (command.id :: command.encode))).1.val command.id
      command.encode with
  | error code => exact Nat.le_add_right 1 command.responseLength
  | ok outcome =>
    have short := (within outcome.1 outcome.2 ran valid).1
    simp only [List.length_cons]
    omega

end

end SecureElement.Store
