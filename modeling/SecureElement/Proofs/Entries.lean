import SecureElement.Proofs.Checked.Store

/-!
The entries of a store, and what commands do to them.

A store is its entries (`Store.ext_read`). What a command packet can do to a
store is said once (`Store.run_acts`): a command that succeeds leaves the store as it
is or makes one change (`Store.Change`) to the one entry whose kind goes with the
command and whose number stands in the first two bytes of the data
(`Store.execute_changes`). A command that does not succeed leaves the store as it is,
for its handler fails before it changes anything (`Store.execute_of_refused`).
-/

namespace SecureElement

/-- A place in the chip's memory. -/
inductive Entry where
  | pairing (slot : Fin 4)
  | ecc (slot : Fin 32)
  | memory (slot : Fin 512)
  | counter (index : Fin 16)
deriving DecidableEq

namespace Entry

/-- What can stand in a place. -/
abbrev Content : Entry → Type
  | pairing _ => PairingEntry
  | ecc _ => Option EccEntry
  | memory _ => Option Bytes
  | counter _ => Option UInt32

/-- The number of a place among those of its kind. -/
def number : Entry → Nat
  | pairing slot => slot
  | ecc slot => slot
  | memory slot => slot
  | counter index => index

end Entry

namespace Store

/-! ### Reading and writing entries -/

def read (store : Store) : (entry : Entry) → entry.Content
  | .pairing slot => store.pairing.get slot
  | .ecc slot => store.ecc.get slot
  | .memory slot => store.memory.get slot
  | .counter index => store.counters.get index

/-- The places of one kind, one of them with another content. -/
def put {α : Type} {count : Nat} (places : Vector α count) (place : Fin count) (content : α) :
    Vector α count :=
  places.set place content place.isLt

def write (store : Store) : (entry : Entry) → entry.Content → Store
  | .pairing slot, content => { store with pairing := put store.pairing slot content }
  | .ecc slot, content => { store with ecc := put store.ecc slot content }
  | .memory slot, content => { store with memory := put store.memory slot content }
  | .counter index, content => { store with counters := put store.counters index content }

variable {store after : Store} {entry other : Entry}

/-- Stores with the same entries are the same. -/
theorem ext_read {left right : Store} (same : ∀ entry, left.read entry = right.read entry) :
    left = right := by
  obtain ⟨pairing, ecc, memory, counters⟩ := left
  obtain ⟨pairing', ecc', memory', counters'⟩ := right
  have pairings : pairing = pairing' := Vector.ext fun i h => same (.pairing ⟨i, h⟩)
  have keys : ecc = ecc' := Vector.ext fun i h => same (.ecc ⟨i, h⟩)
  have slots : memory = memory' := Vector.ext fun i h => same (.memory ⟨i, h⟩)
  have counts : counters = counters' := Vector.ext fun i h => same (.counter ⟨i, h⟩)
  rw [pairings, keys, slots, counts]

theorem read_write (store : Store) (entry : Entry) (content : entry.Content) :
    (store.write entry content).read entry = content := by
  cases entry <;> exact Vector.getElem_set_self _

theorem read_write_of_ne (content : entry.Content) (different : other ≠ entry) :
    (store.write entry content).read other = store.read other := by
  -- Only entries of one kind are in the same vector, and those differ in number.
  cases entry <;> cases other <;> first
    | rfl
    | exact Vector.getElem_set_ne (Fin.isLt _) (Fin.isLt _)
        fun same => different (congrArg _ (Fin.ext same.symm))

/-! ### What commands do -/

/-- The changes that a command may make to an entry, from what stood there to what
stands there then. -/
inductive Change (drawn data : Bytes) :
    (id : UInt8) → (entry : Entry) → entry.Content → entry.Content → Prop where
  | pairingKeyWrite (slot : Fin 4) :
    Change drawn data CommandId.pairingKeyWrite (.pairing slot)
      .blank (.written (Octets.fit 32 (data.drop 3)))
  | pairingKeyInvalidate (slot : Fin 4) (old : PairingEntry) :
    Change drawn data CommandId.pairingKeyInvalidate (.pairing slot) old .invalidated
  | rMemDataWrite (slot : Fin 512) :
    Change drawn data CommandId.rMemDataWrite (.memory slot) none (some (data.drop 3))
  | rMemDataErase (slot : Fin 512) (old : Option Bytes) :
    Change drawn data CommandId.rMemDataErase (.memory slot) old none
  | eccKeyGenerate (slot : Fin 32) :
    Change drawn data CommandId.eccKeyGenerate (.ecc slot)
      none (some ⟨Octets.fit 32 drawn, .generated⟩)
  | eccKeyStore (slot : Fin 32) :
    Change drawn data CommandId.eccKeyStore (.ecc slot)
      none (some ⟨Octets.fit 32 (data.drop 15), .stored⟩)
  | eccKeyErase (slot : Fin 32) (old : Option EccEntry) :
    Change drawn data CommandId.eccKeyErase (.ecc slot) old none
  | mCounterInit (i : Fin 16) (old : Option UInt32) :
    Change drawn data CommandId.mCounterInit (.counter i)
      old (some (UInt32.ofNat (Bytes.ofLittleEndian (data.drop 3))))
  | mCounterUpdate (i : Fin 16) {value : UInt32} (more : value ≠ 0) :
    Change drawn data CommandId.mCounterUpdate (.counter i) (some value) (some (value - 1))

/-- A counter is set, or it counts down and was not used up. -/
theorem Change.counter {drawn data : Bytes} {id : UInt8} {i : Fin 16} {old new : Option UInt32}
    (change : Change drawn data id (.counter i) old new) :
    (id = CommandId.mCounterInit ∧
        new = some (UInt32.ofNat (Bytes.ofLittleEndian (data.drop 3)))) ∨
      id = CommandId.mCounterUpdate ∧
        ∃ value, 0 < value ∧ old = some value ∧ new = some (value - 1) := by
  cases change with
  | mCounterInit => exact .inl ⟨rfl, rfl⟩
  | mCounterUpdate _ more =>
    exact .inr ⟨rfl, _, UInt32.pos_iff_ne_zero.mpr more, rfl, rfl⟩

/-- If the command succeeds, it leaves the store as it is or changes the entry whose
number stands in front of its data. -/
def Acts (store : Store) (drawn : Bytes) (id : UInt8) (data : Bytes) (outcome : Outcome) : Prop :=
  ∀ result after, outcome = .ok (result, after) → after = store ∨
    ∃ entry new, entry.number = Bytes.ofLittleEndian (data.take 2) ∧
      Change drawn data id entry (store.read entry) new ∧ after = store.write entry new

namespace Acts

variable {drawn data : Bytes} {id : UInt8} {α : Type}

theorem error (code : ResultCode) : store.Acts drawn id data (.error code) := nofun

theorem keep (result : Bytes) : store.Acts drawn id data (.ok (result, store)) := by
  intro _ _ same
  cases same
  exact .inl rfl

theorem change {result : Bytes} (entry : Entry) {new : entry.Content}
    (named : entry.number = Bytes.ofLittleEndian (data.take 2))
    (change : Change drawn data id entry (store.read entry) new) :
    store.Acts drawn id data (.ok (result, store.write entry new)) := by
  intro _ _ same
  cases same
  exact .inr ⟨entry, new, named, change, rfl⟩

theorem bind {check : Except ResultCode α} {next : α → Outcome}
    (rest : ∀ a, check = .ok a → store.Acts drawn id data (next a)) :
    store.Acts drawn id data (check >>= next) := by
  cases check with
  | error code => exact .error code
  | ok a => exact rest a rfl

end Acts

theorem val_of_index {count : Nat} {data : Bytes} {i : Fin count}
    (ok : index count data = .ok i) : i.val = Bytes.ofLittleEndian (data.take 2) := by
  unfold index at ok
  dsimp only at ok
  split at ok
  · cases ok
    rfl
  · cases ok

section

variable (store : Store) (drawn data : Bytes)

theorem pairingKeyWrite_acts :
    store.Acts drawn CommandId.pairingKeyWrite data (store.pairingKeyWrite data) := by
  unfold pairingKeyWrite
  refine .bind fun _ _ => .bind fun slot named => ?_
  split
  · rename_i blank
    refine .change (.pairing slot) (val_of_index named) ?_
    exact (show store.read (.pairing slot) = .blank from blank) ▸ .pairingKeyWrite slot
  · exact .error _

theorem pairingKeyRead_acts (id : UInt8) :
    store.Acts drawn id data (store.pairingKeyRead data) := by
  unfold pairingKeyRead
  refine .bind fun _ _ => .bind fun slot _ => ?_
  split
  · exact .keep _
  · exact .error _
  · exact .error _

theorem pairingKeyInvalidate_acts :
    store.Acts drawn CommandId.pairingKeyInvalidate data (store.pairingKeyInvalidate data) := by
  unfold pairingKeyInvalidate
  exact .bind fun _ _ => .bind fun slot named =>
    .change (.pairing slot) (val_of_index named) (.pairingKeyInvalidate slot _)

theorem rMemDataWrite_acts :
    store.Acts drawn CommandId.rMemDataWrite data (store.rMemDataWrite data) := by
  unfold rMemDataWrite
  split
  · exact .error _
  · refine .bind fun slot named => ?_
    split
    · rename_i empty
      refine .change (.memory slot) (val_of_index named) ?_
      exact (show store.read (.memory slot) = none from empty) ▸ .rMemDataWrite slot
    · exact .error _

theorem rMemDataRead_acts (id : UInt8) : store.Acts drawn id data (store.rMemDataRead data) := by
  unfold rMemDataRead
  exact .bind fun _ _ => .bind fun _ _ => .keep _

theorem rMemDataErase_acts :
    store.Acts drawn CommandId.rMemDataErase data (store.rMemDataErase data) := by
  unfold rMemDataErase
  exact .bind fun _ _ => .bind fun slot named =>
    .change (.memory slot) (val_of_index named) (.rMemDataErase slot _)

theorem insertKey_acts {id : UInt8} {secret : Key} {origin : KeyOrigin}
    (inserts : ∀ slot, Change drawn data id (.ecc slot) none (some ⟨secret, origin⟩)) :
    store.Acts drawn id data (store.insertKey data secret origin) := by
  unfold insertKey
  refine .bind fun slot named => ?_
  split
  · exact .error _
  · exact .error _
  · split
    · rename_i empty
      refine .change (.ecc slot) (val_of_index named) ?_
      exact (show store.read (.ecc slot) = none from empty) ▸ inserts slot
    · exact .error _

theorem eccKeyErase_acts :
    store.Acts drawn CommandId.eccKeyErase data (store.eccKeyErase data) := by
  unfold eccKeyErase
  exact .bind fun _ _ => .bind fun slot named =>
    .change (.ecc slot) (val_of_index named) (.eccKeyErase slot _)

theorem mCounterInit_acts :
    store.Acts drawn CommandId.mCounterInit data (store.mCounterInit data) := by
  unfold mCounterInit
  exact .bind fun _ _ => .bind fun i named =>
    .change (.counter i) (val_of_index named) (.mCounterInit i _)

theorem mCounterUpdate_acts :
    store.Acts drawn CommandId.mCounterUpdate data (store.mCounterUpdate data) := by
  unfold mCounterUpdate
  refine .bind fun _ _ => .bind fun i named => ?_
  split
  · exact .error _
  · rename_i value held
    split
    · exact .error _
    · rename_i more
      refine .change (.counter i) (val_of_index named) ?_
      exact (show store.read (.counter i) = some value from held) ▸ .mCounterUpdate i more

theorem mCounterGet_acts (id : UInt8) : store.Acts drawn id data (store.mCounterGet data) := by
  unfold mCounterGet
  refine .bind fun _ _ => .bind fun i _ => ?_
  split
  · exact .error _
  · exact .keep _

variable [Primitives]

theorem eccKeyRead_acts (id : UInt8) : store.Acts drawn id data (store.eccKeyRead data) := by
  unfold eccKeyRead
  exact .bind fun _ _ => .bind fun _ _ => .keep _

theorem eddsaSign_acts (id : UInt8) : store.Acts drawn id data (store.eddsaSign data) := by
  unfold eddsaSign
  split
  · exact .error _
  · exact .bind fun _ _ => .keep _

/-- What commands do to the store. -/
theorem run_acts (id : UInt8) : store.Acts drawn id data (store.run drawn id data) := by
  unfold run
  split
  case h_1 =>
    split
    · exact .keep _
    · exact .error _
  case h_2 => exact store.pairingKeyWrite_acts drawn data
  case h_3 => exact store.pairingKeyRead_acts drawn data _
  case h_4 => exact store.pairingKeyInvalidate_acts drawn data
  case h_5 => exact store.rMemDataWrite_acts drawn data
  case h_6 => exact store.rMemDataRead_acts drawn data _
  case h_7 => exact store.rMemDataErase_acts drawn data
  case h_8 => exact .bind fun _ _ => .keep _
  case h_9 => exact .bind fun _ _ => store.insertKey_acts drawn data .eccKeyGenerate
  case h_10 => exact .bind fun _ _ => store.insertKey_acts drawn data .eccKeyStore
  case h_11 => exact store.eccKeyRead_acts drawn data _
  case h_12 => exact store.eccKeyErase_acts drawn data
  case h_13 => exact .error _
  case h_14 => exact store.eddsaSign_acts drawn data _
  case h_15 => exact store.mCounterInit_acts drawn data
  case h_16 => exact store.mCounterUpdate_acts drawn data
  case h_17 => exact store.mCounterGet_acts drawn data _
  case h_18 => exact .error _

end

/-! ### Command packets -/

variable [Primitives] {random : RandomSource} {packet : Bytes}

/-- A command that does not succeed leaves the store as it is: its handler, which acts on
the store in place, has changed nothing when it fails. -/
theorem execute_of_refused
    (refused : (store.execute random packet).1.head? ≠ some ResultCode.ok.byte) :
    (store.execute random packet).2.1 = store :=
  checkedExecute_of_refused (checkedExecute_eq store random packet) refused

/-- A command packet that changes the store is answered with success and changes one
entry, whose number stands in front of its data. -/
theorem execute_changes (changed : (store.execute random packet).2.1 ≠ store) :
    (store.execute random packet).1.head? = some ResultCode.ok.byte ∧
      ∃ id data entry, packet = id :: data ∧
        entry.number = Bytes.ofLittleEndian (data.take 2) ∧
        Change (random.draw (demand packet)).1.val data id entry (store.read entry)
          ((store.execute random packet).2.1.read entry) ∧
        store.read entry ≠ (store.execute random packet).2.1.read entry ∧
        ∀ other, other ≠ entry →
          (store.execute random packet).2.1.read other = store.read other := by
  refine ⟨Decidable.byContradiction fun refused => changed (execute_of_refused refused), ?_⟩
  cases packet with
  | nil => exact absurd rfl changed
  | cons id data =>
    rw [execute_cons] at changed ⊢
    dsimp only at changed ⊢
    have acts := store.run_acts (random.draw (demand (id :: data))).1.val data id
    cases ran : store.run (random.draw (demand (id :: data))).1.val id data with
    | error code =>
      rw [ran] at changed
      exact absurd rfl changed
    | ok outcome =>
      rw [ran] at changed
      obtain same | ⟨entry, new, named, change, written⟩ := acts _ _ ran
      · exact absurd same changed
      · dsimp only at changed ⊢
        rw [written] at changed ⊢
        have others (other : Entry) (different : other ≠ entry) :
            (store.write entry new).read other = store.read other :=
          read_write_of_ne new different
        refine ⟨id, data, entry, rfl, named, ?_, fun same => changed ?_, others⟩
        · rw [read_write]
          exact change
        · refine ext_read fun other => ?_
          by_cases here : other = entry
          · rw [here, same]
          · exact others other here

end Store

end SecureElement
