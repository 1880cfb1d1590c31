import SecureElement.Proofs.Checked.Frames
import SecureElement.Proofs.Results

/-!
Accesses of the chip's commands.

A handler of the chip reads its parameters at fixed places of the data of a command,
which is as long as the sender has made it. Each of them checks a length first that
covers all that it reads, so no command packet makes an access that faults
(`Store.checkedExecute_eq`).

Here the handlers act on the store in place, and what a handler has changed when it
fails stays changed. So that a command which is refused leaves the store as it was is a
matter of their order: every refusal comes before the one change
(`Store.checkedExecute_of_refused`).
-/

namespace SecureElement

namespace Checked

variable {α : Type} {count : Nat}

/-- What stands at a place of a vector. -/
def place (places : Vector α count) (index : Nat) : Checked α :=
  if inside : index < count then .ok places[index] else .error .bounds

/-- The vector with a place written. -/
def amend (places : Vector α count) (index : Nat) (content : α) : Checked (Vector α count) :=
  if inside : index < count then .ok (places.set index content) else .error .bounds

theorem place_eq (places : Vector α count) (slot : Fin count) :
    place places slot = .ok places[slot] := dif_pos slot.isLt

theorem amend_eq (places : Vector α count) (slot : Fin count) (content : α) :
    amend places slot content = .ok (places.set slot content) := dif_pos slot.isLt

theorem fixed_eq {n : Nat} {bytes : Bytes} (length : bytes.length = n) :
    fixed n bytes = .ok (Octets.fit n bytes) := by
  have same : (Octets.fit n bytes).val = bytes := Octets.fit_val_of_length length
  rw [← fixed_val (Octets.fit n bytes), same]

theorem part_behind {bytes : Bytes} {start : Nat} (inside : start ≤ bytes.length) :
    part bytes start bytes.length = .ok (bytes.drop start) := by
  rw [part_eq inside (Nat.le_refl _), Bytes.slice_eq_drop]

end Checked

namespace Store

open Checked

/-! ### Handlers in place -/

/-- A step of a handler, which acts on the store in place. -/
abbrev Handler (α : Type) := CheckedM Store ResultCode α

/-- A step that does not see the store. -/
def Handler.blind {α : Type} (step : Except ResultCode α) : Handler α :=
  ExceptT.mk fun store => .ok (step, store)

/-- An access outside of the store. -/
def Handler.access {α : Type} (step : Checked α) : Handler α := .look fun _ => step

open Handler CheckedM

/-- How a command ends and the store after it, if a failure leaves the store as it was. -/
def settled (store : Store) : Outcome → Except ResultCode Bytes × Store
  | .ok (data, after) => (.ok data, after)
  | .error code => (.error code, store)

/-- The handler does not fault, ends as the plain one does and leaves the store that the
plain one returns, or the one that it found if it fails. -/
def Handles (store : Store) (handler : Handler Bytes) (outcome : Outcome) : Prop :=
  trial handler store = .ok (store.settled outcome)

/-- A step does not fault, reads what the plain one does and leaves the store alone. -/
def Reads {α : Type} (store : Store) (step : Handler α) (value : Except ResultCode α) : Prop :=
  trial step store = .ok (value, store)

variable {store : Store} {data drawn : Bytes} {α β : Type}

theorem Reads.bind {step : Handler α} {value : Except ResultCode α} {next : α → Handler β}
    {next' : α → Except ResultCode β} (reads : store.Reads step value)
    (rest : ∀ a, value = .ok a → store.Reads (next a) (next' a)) :
    store.Reads (step >>= next) (value >>= next') := by
  unfold Reads
  rw [trial_bind, reads]
  cases value with
  | error code => rfl
  | ok a => exact rest a rfl

theorem trial_look {read : Store → Checked β} {b : β} (found : read store = .ok b) :
    trial (look read : Handler β) store = .ok (.ok b, store) := by
  change (read store).map _ = _
  rw [found]
  rfl

/-- An access that does not fault is nothing that the plain step has to do. -/
theorem Reads.look {read : Store → Checked β} {b : β} {next : β → Handler α}
    {value : Except ResultCode α} (found : read store = .ok b)
    (rest : store.Reads (next b) value) : store.Reads (CheckedM.look read >>= next) value := by
  unfold Reads
  rw [trial_bind, trial_look found]
  exact rest

namespace Handles

/-- A refusal is in order as long as the store is the one that the handler found. -/
theorem throw (code : ResultCode) : store.Handles (throw code) (.error code) := rfl

/-- An answer without a change. -/
theorem reply (data : Bytes) : store.Handles (pure data) (.ok (data, store)) := rfl

/-- A change, after which there is nothing left but the answer. -/
theorem change {write : Store → Checked Store} {after : Store} (writes : write store = .ok after) :
    store.Handles (do change write; pure data) (.ok (data, after)) := by
  have changed : trial (CheckedM.change write : Handler Unit) store = .ok (.ok (), after) := by
    change (write store).map _ = _
    rw [writes]
    rfl
  unfold Handles
  rw [trial_bind, changed]
  rfl

theorem read {step : Handler α} {value : Except ResultCode α} {next : α → Handler Bytes}
    {next' : α → Outcome} (reads : store.Reads step value)
    (rest : ∀ a, value = .ok a → store.Handles (next a) (next' a)) :
    store.Handles (step >>= next) (value >>= next') := by
  unfold Handles
  rw [trial_bind, reads]
  cases value with
  | error code => rfl
  | ok a => exact rest a rfl

theorem look {read : Store → Checked β} {b : β} {next : β → Handler Bytes} {outcome : Outcome}
    (found : read store = .ok b) (rest : store.Handles (next b) outcome) :
    store.Handles (CheckedM.look read >>= next) outcome := by
  unfold Handles
  rw [trial_bind, trial_look found]
  exact rest

theorem ite {condition : Prop} [Decidable condition] {left' right' : Handler Bytes}
    {left right : Outcome} (first : condition → store.Handles left' left)
    (second : ¬condition → store.Handles right' right) :
    store.Handles (if condition then left' else right') (if condition then left else right) := by
  split
  · exact first ‹_›
  · exact second ‹_›

/-- A handler that fails has changed nothing. -/
theorem kept {handler : Handler Bytes} {outcome : Outcome} {code : ResultCode} {after : Store}
    (handles : store.Handles handler outcome)
    (failed : trial handler store = .ok (.error code, after)) : after = store := by
  cases outcome <;> cases failed.symm.trans handles
  rfl

end Handles

/-! ### Parameters -/

/-- The slot or index in the first two bytes. -/
def checkedIndex (count : Nat) (data : Bytes) : Handler Nat := do
  let low ← access (byte data 0)
  let high ← access (byte data 1)
  let i := Bytes.ofLittleEndian [low, high]
  if i < count then return i else throw .fail

/-- Behind a check of the length, the handler may read as much. -/
theorem Handles.expectLength {length : Nat} {next : Handler Bytes} {next' : Outcome}
    (rest : data.length = length → store.Handles next next') :
    store.Handles (do blind (Store.expectLength length data); next)
      (do Store.expectLength length data; next') := by
  refine .read rfl fun _ expected => rest ?_
  unfold Store.expectLength at expected
  split at expected
  · assumption
  · cases expected

theorem reads_index (count : Nat) (long : 2 ≤ data.length) :
    store.Reads (checkedIndex count data) ((index count data).map Fin.val) := by
  have front : data.take 2 = [data.getD 0 0, data.getD 1 0] :=
    show data.slice 0 2 = _ from Bytes.slice_two (by omega)
  refine .look (byte_eq (by omega)) (.look (byte_eq (by omega)) ?_)
  rw [index, front]
  dsimp only
  split <;> rfl

/-- An index that is read names a place. -/
theorem Reads.index {count : Nat} {next : Nat → Handler α} {next' : Fin count → Except ResultCode α}
    (long : 2 ≤ data.length) (rest : ∀ i : Fin count, store.Reads (next i) (next' i)) :
    store.Reads (checkedIndex count data >>= next) (Store.index count data >>= next') := by
  have read : store.Reads _ _ := reads_index count long
  unfold Reads at read ⊢
  rw [trial_bind, read]
  cases Store.index count data with
  | error code => rfl
  | ok i => exact rest i

theorem Handles.index {count : Nat} {next : Nat → Handler Bytes} {next' : Fin count → Outcome}
    (long : 2 ≤ data.length) (rest : ∀ i : Fin count, store.Handles (next i) (next' i)) :
    store.Handles (checkedIndex count data >>= next) (Store.index count data >>= next') := by
  have read : store.Reads _ _ := reads_index count long
  unfold Reads at read
  unfold Handles
  rw [trial_bind, read]
  cases Store.index count data with
  | error code => rfl
  | ok i => exact rest i

/-! ### Pairing keys -/

/-- Puts something into a pairing slot. -/
def setPairing (slot : Nat) (entry : PairingEntry) : Handler Unit :=
  .change fun store => do return { store with pairing := ← amend store.pairing slot entry }

/-- Writes a key to a blank slot. -/
def checkedPairingKeyWrite (data : Bytes) : Handler Bytes := do
  blind (expectLength 35 data)
  let slot ← checkedIndex 4 data
  let entry ← look fun store => place store.pairing slot
  if entry = .blank then
    let bytes ← access (part data 3 data.length)
    let key ← access (fixed 32 bytes)
    setPairing slot (.written key)
    return []
  else throw .fail

/-- Reads the key of a slot. -/
def checkedPairingKeyRead (data : Bytes) : Handler Bytes := do
  blind (expectLength 2 data)
  let slot ← checkedIndex 4 data
  let entry ← look fun store => place store.pairing slot
  match entry with
  | .written key => return padded 3 key.val
  | .blank => throw .pairingKeyEmpty
  | .invalidated => throw .pairingKeyInvalid

/-- Invalidates a slot for good. -/
def checkedPairingKeyInvalidate (data : Bytes) : Handler Bytes := do
  blind (expectLength 2 data)
  let slot ← checkedIndex 4 data
  setPairing slot .invalidated
  return []

theorem handles_setPairing (slot : Fin 4) (entry : PairingEntry) :
    store.Handles (do setPairing slot entry; return [])
      (.ok ([], { store with pairing := store.pairing.set slot entry slot.isLt })) := by
  apply Handles.change
  rw [amend_eq]
  rfl

theorem handles_pairingKeyWrite :
    store.Handles (checkedPairingKeyWrite data) (store.pairingKeyWrite data) := by
  refine .expectLength fun length => .index (by omega) fun slot => ?_
  refine .look (place_eq _ slot) (.ite (fun _ => ?_) fun _ => .throw _)
  refine .look (part_behind (by omega)) (.look (fixed_eq ?_) (handles_setPairing slot _))
  rw [List.length_drop, length]

theorem handles_pairingKeyRead :
    store.Handles (checkedPairingKeyRead data) (store.pairingKeyRead data) := by
  refine .expectLength fun length => .index (by omega) fun slot => ?_
  refine .look (place_eq _ slot) ?_
  cases store.pairing[slot] with
  | written key => exact .reply _
  | blank => exact .throw _
  | invalidated => exact .throw _

theorem handles_pairingKeyInvalidate :
    store.Handles (checkedPairingKeyInvalidate data) (store.pairingKeyInvalidate data) :=
  .expectLength fun _ => .index (by omega) fun slot => handles_setPairing slot _

/-! ### Memory -/

/-- Puts something into a memory slot, or empties it. -/
def setMemory (slot : Nat) (content : Option Bytes) : Handler Unit :=
  .change fun store => do return { store with memory := ← amend store.memory slot content }

/-- Writes to an empty slot. -/
def checkedRMemDataWrite (data : Bytes) : Handler Bytes := do
  if data.length ≤ 3 ∨ 3 + Limit.memory < data.length then throw .invalidCmd
  else
    let slot ← checkedIndex 512 data
    let entry ← look fun store => place store.memory slot
    if entry = none then
      let content ← access (part data 3 data.length)
      setMemory slot (some content)
      return []
    else throw .rMemWriteFail

/-- Reads a slot; an empty one has no content. -/
def checkedRMemDataRead (data : Bytes) : Handler Bytes := do
  blind (expectLength 2 data)
  let slot ← checkedIndex 512 data
  let entry ← look fun store => place store.memory slot
  return padded 3 (entry.getD [])

/-- Empties a slot. -/
def checkedRMemDataErase (data : Bytes) : Handler Bytes := do
  blind (expectLength 2 data)
  let slot ← checkedIndex 512 data
  setMemory slot none
  return []

theorem handles_setMemory (slot : Fin 512) (content : Option Bytes) :
    store.Handles (do setMemory slot content; return [])
      (.ok ([], { store with memory := store.memory.set slot content slot.isLt })) := by
  apply Handles.change
  rw [amend_eq]
  rfl

theorem handles_rMemDataWrite :
    store.Handles (checkedRMemDataWrite data) (store.rMemDataWrite data) := by
  refine .ite (fun _ => .throw _) fun length => .index (by omega) fun slot => ?_
  refine .look (place_eq _ slot) (.ite (fun _ => ?_) fun _ => .throw _)
  exact .look (part_behind (by omega)) (handles_setMemory slot _)

theorem handles_rMemDataRead :
    store.Handles (checkedRMemDataRead data) (store.rMemDataRead data) :=
  .expectLength fun _ => .index (by omega) fun slot => .look (place_eq _ slot) (.reply _)

theorem handles_rMemDataErase :
    store.Handles (checkedRMemDataErase data) (store.rMemDataErase data) :=
  .expectLength fun _ => .index (by omega) fun slot => handles_setMemory slot _

/-! ### Random bytes -/

/-- Returns the random bytes that were drawn. -/
def checkedRandomValueGet (drawn data : Bytes) : Handler Bytes := do
  blind (expectLength 1 data)
  return padded 3 drawn

theorem handles_randomValueGet :
    store.Handles (checkedRandomValueGet drawn data) (store.randomValueGet drawn data) :=
  .expectLength fun _ => .reply _

/-! ### Keys -/

/-- Puts a key into a slot, or empties it. -/
def setKey (slot : Nat) (entry : Option EccEntry) : Handler Unit :=
  .change fun store => do return { store with ecc := ← amend store.ecc slot entry }

/-- Puts a key into the empty slot that `[slot][curve]` names. -/
def checkedInsertKey (data : Bytes) (secret : Key) (origin : KeyOrigin) : Handler Bytes := do
  let slot ← checkedIndex 32 data
  let curve ← access (byte data 2)
  match Curve.ofByte curve with
  | .error _ => throw .invalidCmd
  | .ok .p256 => throw .fail
  | .ok .ed25519 =>
    let entry ← look fun store => place store.ecc slot
    if entry = none then
      setKey slot (some ⟨secret, origin⟩)
      return []
    else throw .fail

/-- Makes the random bytes that were drawn a key. -/
def checkedEccKeyGenerate (drawn data : Bytes) : Handler Bytes := do
  blind (expectLength 3 data)
  checkedInsertKey data (Octets.fit 32 drawn) .generated

/-- Stores a key from outside. -/
def checkedEccKeyStore (data : Bytes) : Handler Bytes := do
  blind (expectLength 47 data)
  let bytes ← access (part data 15 data.length)
  let secret ← access (fixed 32 bytes)
  checkedInsertKey data secret .stored

/-- The entry of the slot that the data names. -/
def checkedKeyOf (data : Bytes) : Handler EccEntry := do
  let slot ← checkedIndex 32 data
  let entry ← look fun store => place store.ecc slot
  match entry with
  | some entry => return entry
  | none => throw .eccInvalidKey

/-- Reads the public key of a slot. -/
def checkedEccKeyRead [Primitives] (data : Bytes) : Handler Bytes := do
  blind (expectLength 2 data)
  let entry ← checkedKeyOf data
  return Curve.ed25519.byte :: entry.origin.byte ::
    padded 13 (Primitives.verifyingKey entry.secret).val

/-- Empties a slot. -/
def checkedEccKeyErase (data : Bytes) : Handler Bytes := do
  blind (expectLength 2 data)
  let slot ← checkedIndex 32 data
  setKey slot none
  return []

/-- Signs a message with the key of a slot. -/
def checkedEddsaSign [Primitives] (data : Bytes) : Handler Bytes := do
  if data.length < 15 ∨ 15 + Limit.message < data.length then throw .invalidCmd
  else
    let entry ← checkedKeyOf data
    let message ← access (part data 15 data.length)
    return padded 15 (Primitives.sign entry.secret message).val

theorem handles_setKey (slot : Fin 32) (entry : Option EccEntry) :
    store.Handles (do setKey slot entry; return [])
      (.ok ([], { store with ecc := store.ecc.set slot entry slot.isLt })) := by
  apply Handles.change
  rw [amend_eq]
  rfl

theorem handles_insertKey (long : 3 ≤ data.length) (secret : Key) (origin : KeyOrigin) :
    store.Handles (checkedInsertKey data secret origin) (store.insertKey data secret origin) := by
  refine .index (by omega) fun slot => .look (byte_eq (by omega)) ?_
  cases Curve.ofByte (data.getD 2 0) with
  | error cause => exact .throw _
  | ok curve =>
    cases curve with
    | p256 => exact .throw _
    | ed25519 =>
      exact .look (place_eq _ slot) (.ite (fun _ => handles_setKey slot _) fun _ => .throw _)

theorem handles_eccKeyGenerate :
    store.Handles (checkedEccKeyGenerate drawn data) (store.eccKeyGenerate drawn data) :=
  .expectLength fun _ => handles_insertKey (by omega) _ _

theorem handles_eccKeyStore :
    store.Handles (checkedEccKeyStore data) (store.eccKeyStore data) := by
  refine .expectLength fun length => .look (part_behind (by omega)) (.look (fixed_eq ?_) ?_)
  · rw [List.length_drop, length]
  · exact handles_insertKey (by omega) _ _

theorem reads_keyOf (long : 2 ≤ data.length) :
    store.Reads (checkedKeyOf data) (store.keyOf data) := by
  refine .index long fun slot => .look (place_eq _ slot) ?_
  cases store.ecc[slot] <;> rfl

theorem handles_eccKeyErase :
    store.Handles (checkedEccKeyErase data) (store.eccKeyErase data) :=
  .expectLength fun _ => .index (by omega) fun slot => handles_setKey slot _

section

variable [Primitives]

theorem handles_eccKeyRead :
    store.Handles (checkedEccKeyRead data) (store.eccKeyRead data) :=
  .expectLength fun _ => .read (reads_keyOf (by omega)) fun _ _ => .reply _

theorem handles_eddsaSign :
    store.Handles (checkedEddsaSign data) (store.eddsaSign data) := by
  refine .ite (fun _ => .throw _) fun length => .read (reads_keyOf (by omega)) fun entry _ => ?_
  exact .look (part_behind (by omega)) (.reply _)

end

/-! ### Counters -/

/-- Sets a counter. -/
def setCounter (i : Nat) (value : UInt32) : Handler Unit :=
  .change fun store => do return { store with counters := ← amend store.counters i (some value) }

/-- Sets a counter to the value of the data. -/
def checkedMCounterInit (data : Bytes) : Handler Bytes := do
  blind (expectLength 7 data)
  let i ← checkedIndex 16 data
  let first ← access (byte data 3)
  let second ← access (byte data 4)
  let third ← access (byte data 5)
  let fourth ← access (byte data 6)
  setCounter i (UInt32.ofNat (Bytes.ofLittleEndian [first, second, third, fourth]))
  return []

/-- Counts down. -/
def checkedMCounterUpdate (data : Bytes) : Handler Bytes := do
  blind (expectLength 2 data)
  let i ← checkedIndex 16 data
  let entry ← look fun store => place store.counters i
  match entry with
  | none => throw .counterInvalid
  | some value =>
    if value = 0 then throw .mCounterUpdateErr
    else
      let less ← access (sub value.toNat 1)
      setCounter i (UInt32.ofNat less)
      return []

/-- Reads a counter. -/
def checkedMCounterGet (data : Bytes) : Handler Bytes := do
  blind (expectLength 2 data)
  let i ← checkedIndex 16 data
  let entry ← look fun store => place store.counters i
  match entry with
  | none => throw .counterInvalid
  | some value => return padded 3 (Bytes.littleEndian 4 value.toNat)

theorem handles_setCounter (i : Fin 16) (value : UInt32) :
    store.Handles (do setCounter i value; return [])
      (.ok ([], { store with counters := store.counters.set i (some value) i.isLt })) := by
  apply Handles.change
  rw [amend_eq]
  rfl

theorem handles_mCounterInit :
    store.Handles (checkedMCounterInit data) (store.mCounterInit data) := by
  refine .expectLength fun length => .index (by omega) fun i => ?_
  have value : data.drop 3 = [data.getD 3 0, data.getD 4 0, data.getD 5 0, data.getD 6 0] := by
    have whole := Bytes.slice_eq_drop data 3
    rw [length] at whole
    rw [← whole, Bytes.slice_succ (by omega), Bytes.slice_succ (by omega),
      Bytes.slice_two (by omega)]
  dsimp only
  rw [value]
  refine .look (byte_eq (by omega)) (.look (byte_eq (by omega)) ?_)
  refine .look (byte_eq (by omega)) (.look (byte_eq (by omega)) ?_)
  exact handles_setCounter i _

theorem handles_mCounterUpdate :
    store.Handles (checkedMCounterUpdate data) (store.mCounterUpdate data) := by
  refine .expectLength fun length => .index (by omega) fun i => .look (place_eq _ i) ?_
  cases store.counters[i] with
  | none => exact .throw _
  | some value =>
    refine .ite (fun _ => .throw _) fun more => ?_
    have positive : 1 ≤ value.toNat := Nat.one_le_iff_ne_zero.mpr
      fun zero => more (UInt32.toNat_inj.mp zero)
    have less : UInt32.ofNat (value.toNat - 1) = value - 1 := by
      apply UInt32.toNat_inj.mp
      rw [UInt32.toNat_sub_of_le value 1 (UInt32.le_iff_toNat_le.mpr positive)]
      exact UInt32.toNat_ofNat_of_lt' (Nat.lt_of_le_of_lt (Nat.sub_le ..) value.toNat_lt)
    refine .look (sub_eq positive) ?_
    rw [less]
    exact handles_setCounter i _

theorem handles_mCounterGet :
    store.Handles (checkedMCounterGet data) (store.mCounterGet data) := by
  refine .expectLength fun length => .index (by omega) fun i => .look (place_eq _ i) ?_
  cases store.counters[i] with
  | none => exact .throw _
  | some value => exact .reply _

/-! ### Command packets -/

variable [Primitives]

/-- Runs the command `id`, given the random bytes that were drawn for it. -/
def checkedRun (drawn : Bytes) (id : UInt8) (data : Bytes) : Handler Bytes :=
  match id with
  | CommandId.ping => if data.length ≤ Limit.ping then pure data else throw .invalidCmd
  | CommandId.pairingKeyWrite => checkedPairingKeyWrite data
  | CommandId.pairingKeyRead => checkedPairingKeyRead data
  | CommandId.pairingKeyInvalidate => checkedPairingKeyInvalidate data
  | CommandId.rMemDataWrite => checkedRMemDataWrite data
  | CommandId.rMemDataRead => checkedRMemDataRead data
  | CommandId.rMemDataErase => checkedRMemDataErase data
  | CommandId.randomValueGet => checkedRandomValueGet drawn data
  | CommandId.eccKeyGenerate => checkedEccKeyGenerate drawn data
  | CommandId.eccKeyStore => checkedEccKeyStore data
  | CommandId.eccKeyRead => checkedEccKeyRead data
  | CommandId.eccKeyErase => checkedEccKeyErase data
  | CommandId.ecdsaSign => throw .eccInvalidKey
  | CommandId.eddsaSign => checkedEddsaSign data
  | CommandId.mCounterInit => checkedMCounterInit data
  | CommandId.mCounterUpdate => checkedMCounterUpdate data
  | CommandId.mCounterGet => checkedMCounterGet data
  | _ => throw .invalidCmd

/-- Answers a command packet with a result packet. -/
def checkedExecute (store : Store) (random : RandomSource) (packet : Bytes) :
    Checked (Bytes × Store × RandomSource) := do
  let (drawn, random) := random.draw (demand packet)
  let (outcome, store) ← match packet with
    | [] => pure (.error .invalidCmd, store)
    | id :: data => trial (checkedRun drawn.val id data) store
  match outcome with
  | .ok data => return (ResultCode.ok.byte :: data, store, random)
  | .error code => return ([code.byte], store, random)

/-- No command faults, whatever its data. -/
theorem handles_run (id : UInt8) :
    store.Handles (checkedRun drawn id data) (store.run drawn id data) := by
  unfold run
  split
  case h_1 => exact .ite (fun _ => .reply _) fun _ => .throw _
  case h_2 => exact handles_pairingKeyWrite
  case h_3 => exact handles_pairingKeyRead
  case h_4 => exact handles_pairingKeyInvalidate
  case h_5 => exact handles_rMemDataWrite
  case h_6 => exact handles_rMemDataRead
  case h_7 => exact handles_rMemDataErase
  case h_8 => exact handles_randomValueGet
  case h_9 => exact handles_eccKeyGenerate
  case h_10 => exact handles_eccKeyStore
  case h_11 => exact handles_eccKeyRead
  case h_12 => exact handles_eccKeyErase
  case h_13 => exact .throw _
  case h_14 => exact handles_eddsaSign
  case h_15 => exact handles_mCounterInit
  case h_16 => exact handles_mCounterUpdate
  case h_17 => exact handles_mCounterGet
  case h_18 =>
    unfold checkedRun
    split
    case h_18 => exact .throw _
    all_goals exact absurd rfl (by assumption)

/-- No command packet makes an access that faults. -/
theorem checkedExecute_eq (store : Store) (random : RandomSource) (packet : Bytes) :
    store.checkedExecute random packet = .ok (store.execute random packet) := by
  cases packet with
  | nil => rfl
  | cons id data =>
    have ran : store.Handles (checkedRun (random.draw (demand (id :: data))).1.val id data)
        (store.run (random.draw (demand (id :: data))).1.val id data) := handles_run id
    unfold Handles at ran
    unfold checkedExecute
    dsimp only
    rw [ran, execute_cons, ok_bind]
    dsimp only
    cases store.run (random.draw (demand (id :: data))).1.val id data <;> rfl

/-- A command that is refused has changed nothing in the store. -/
theorem checkedExecute_of_refused {random left : RandomSource} {packet result : Bytes}
    {after : Store} (executed : store.checkedExecute random packet = .ok (result, after, left))
    (refused : result.head? ≠ some ResultCode.ok.byte) : after = store := by
  cases packet with
  | nil =>
    cases executed
    rfl
  | cons id data =>
    unfold checkedExecute at executed
    dsimp only at executed
    rcases ran : trial (checkedRun (random.draw (demand (id :: data))).1.val id data) store with
      fault | ⟨code | reply, between⟩
    all_goals rw [ran] at executed
    · cases executed
    · cases executed
      exact (handles_run id).kept ran
    · cases executed
      exact absurd rfl refused

end Store

end SecureElement
