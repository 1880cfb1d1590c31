import SecureElement.Command
import SecureElement.RandomSource

/-!
What the chip keeps, and how commands act on it.

A command packet is answered with a result packet; the only effects are on the
store and on the random source. How many random bytes a command takes depends on
the packet alone (`demand`), and a command that does not succeed leaves the store
as it was: the handlers return a new store only together with success.
-/

namespace SecureElement

/-- The state of a pairing slot. -/
inductive PairingEntry where
  | blank
  | written (key : Key)
  | invalidated
deriving DecidableEq

/-- A private Ed25519 key and how it came. -/
structure EccEntry where
  secret : Key
  origin : KeyOrigin
deriving DecidableEq

/-- The chip's memory. -/
structure Store where
  pairing : Vector PairingEntry 4
  ecc : Vector (Option EccEntry) 32
  memory : Vector (Option Bytes) 512
  counters : Vector (Option UInt32) 16
deriving DecidableEq

namespace Store

/-- A store with nothing in it but a pairing key in the first slot. -/
def fresh (key : Key) : Store where
  pairing := (Vector.replicate 4 PairingEntry.blank).set 0 (.written key)
  ecc := Vector.replicate 32 none
  memory := Vector.replicate 512 none
  counters := Vector.replicate 16 none

/-- The result data of a command and the store after it, or why it failed. -/
abbrev Outcome := Except ResultCode (Bytes × Store)

/-- The usable pairing key of a slot. -/
def pairingKey? (store : Store) (slot : PairingSlot) : Option Key :=
  match store.pairing[slot] with
  | .written key => some key
  | _ => none

/-! ### Parts of the data -/

/-- The slot or index in the first two bytes, if there are so many. -/
def index (count : Nat) (data : Bytes) : Except ResultCode (Fin count) :=
  let i := Bytes.ofLittleEndian (data.take 2)
  if h : i < count then .ok ⟨i, h⟩ else .error .fail

/-- Demands a length of the data. -/
def expectLength (length : Nat) (data : Bytes) : Except ResultCode Unit :=
  if data.length = length then .ok () else .error .invalidCmd

/-- Data behind zeros. -/
def padded (padding : Nat) (content : Bytes) : Bytes :=
  List.replicate padding 0 ++ content

/-! ### Pairing keys -/

/-- Writes a key to a blank slot. -/
def pairingKeyWrite (store : Store) (data : Bytes) : Outcome := do
  expectLength 35 data
  let slot ← index 4 data
  if store.pairing[slot] = .blank then
    let key := Octets.fit 32 (data.drop 3)
    return ([], { store with pairing := store.pairing.set slot (.written key) })
  else throw .fail

/-- Reads the key of a slot. -/
def pairingKeyRead (store : Store) (data : Bytes) : Outcome := do
  expectLength 2 data
  let slot ← index 4 data
  match store.pairing[slot] with
  | .written key => return (padded 3 key.val, store)
  | .blank => throw .pairingKeyEmpty
  | .invalidated => throw .pairingKeyInvalid

/-- Invalidates a slot for good. -/
def pairingKeyInvalidate (store : Store) (data : Bytes) : Outcome := do
  expectLength 2 data
  let slot ← index 4 data
  return ([], { store with pairing := store.pairing.set slot .invalidated })

/-! ### Memory -/

/-- Writes to an empty slot. -/
def rMemDataWrite (store : Store) (data : Bytes) : Outcome := do
  if data.length ≤ 3 ∨ 3 + Limit.memory < data.length then
    throw .invalidCmd
  let slot ← index 512 data
  if store.memory[slot] = none then
    return ([], { store with memory := store.memory.set slot (some (data.drop 3)) })
  else throw .rMemWriteFail

/-- Reads a slot; an empty one has no content. -/
def rMemDataRead (store : Store) (data : Bytes) : Outcome := do
  expectLength 2 data
  let slot ← index 512 data
  return (padded 3 (store.memory[slot].getD []), store)

/-- Empties a slot. -/
def rMemDataErase (store : Store) (data : Bytes) : Outcome := do
  expectLength 2 data
  let slot ← index 512 data
  return ([], { store with memory := store.memory.set slot none })

/-! ### Random bytes -/

/-- Returns the random bytes that were drawn. -/
def randomValueGet (store : Store) (drawn data : Bytes) : Outcome := do
  expectLength 1 data
  return (padded 3 drawn, store)

/-! ### Keys -/

/-- Puts a key into the empty slot that `[slot][curve]` names. -/
def insertKey (store : Store) (data : Bytes) (secret : Key) (origin : KeyOrigin) : Outcome := do
  let slot ← index 32 data
  match Curve.ofByte (data.getD 2 0) with
  | .error _ => throw .invalidCmd
  | .ok .p256 => throw .fail
  | .ok .ed25519 =>
    if store.ecc[slot] = none then
      return ([], { store with ecc := store.ecc.set slot (some ⟨secret, origin⟩) })
    else throw .fail

/-- Makes the random bytes that were drawn a key. -/
def eccKeyGenerate (store : Store) (drawn data : Bytes) : Outcome := do
  expectLength 3 data
  store.insertKey data (Octets.fit 32 drawn) .generated

/-- Stores a key from outside. -/
def eccKeyStore (store : Store) (data : Bytes) : Outcome := do
  expectLength 47 data
  store.insertKey data (Octets.fit 32 (data.drop 15)) .stored

/-- The entry of the slot that the data names. -/
def keyOf (store : Store) (data : Bytes) : Except ResultCode EccEntry := do
  let slot ← index 32 data
  match store.ecc[slot] with
  | some entry => return entry
  | none => throw .eccInvalidKey

/-- Reads the public key of a slot. -/
def eccKeyRead [Primitives] (store : Store) (data : Bytes) : Outcome := do
  expectLength 2 data
  let entry ← store.keyOf data
  return (Curve.ed25519.byte :: entry.origin.byte ::
    padded 13 (Primitives.verifyingKey entry.secret).val, store)

/-- Empties a slot. -/
def eccKeyErase (store : Store) (data : Bytes) : Outcome := do
  expectLength 2 data
  let slot ← index 32 data
  return ([], { store with ecc := store.ecc.set slot none })

/-- Signs a message with the key of a slot. -/
def eddsaSign [Primitives] (store : Store) (data : Bytes) : Outcome := do
  if data.length < 15 ∨ 15 + Limit.message < data.length then
    throw .invalidCmd
  let entry ← store.keyOf data
  return (padded 15 (Primitives.sign entry.secret (data.drop 15)).val, store)

/-! ### Counters -/

/-- Sets a counter. -/
def mCounterInit (store : Store) (data : Bytes) : Outcome := do
  expectLength 7 data
  let i ← index 16 data
  let value := UInt32.ofNat (Bytes.ofLittleEndian (data.drop 3))
  return ([], { store with counters := store.counters.set i (some value) })

/-- Counts down. -/
def mCounterUpdate (store : Store) (data : Bytes) : Outcome := do
  expectLength 2 data
  let i ← index 16 data
  match store.counters[i] with
  | none => throw .counterInvalid
  | some value =>
    if value = 0 then throw .mCounterUpdateErr
    else return ([], { store with counters := store.counters.set i (some (value - 1)) })

/-- Reads a counter. -/
def mCounterGet (store : Store) (data : Bytes) : Outcome := do
  expectLength 2 data
  let i ← index 16 data
  match store.counters[i] with
  | none => throw .counterInvalid
  | some value => return (padded 3 (Bytes.littleEndian 4 value.toNat), store)

/-! ### Command packets -/

/-- Runs the command `id`, given the random bytes that were drawn for it. -/
def run [Primitives] (store : Store) (drawn : Bytes) (id : UInt8) (data : Bytes) : Outcome :=
  match id with
  | CommandId.ping => if data.length ≤ Limit.ping then .ok (data, store) else .error .invalidCmd
  | CommandId.pairingKeyWrite => store.pairingKeyWrite data
  | CommandId.pairingKeyRead => store.pairingKeyRead data
  | CommandId.pairingKeyInvalidate => store.pairingKeyInvalidate data
  | CommandId.rMemDataWrite => store.rMemDataWrite data
  | CommandId.rMemDataRead => store.rMemDataRead data
  | CommandId.rMemDataErase => store.rMemDataErase data
  | CommandId.randomValueGet => store.randomValueGet drawn data
  | CommandId.eccKeyGenerate => store.eccKeyGenerate drawn data
  | CommandId.eccKeyStore => store.eccKeyStore data
  | CommandId.eccKeyRead => store.eccKeyRead data
  | CommandId.eccKeyErase => store.eccKeyErase data
  | CommandId.ecdsaSign => .error .eccInvalidKey
  | CommandId.eddsaSign => store.eddsaSign data
  | CommandId.mCounterInit => store.mCounterInit data
  | CommandId.mCounterUpdate => store.mCounterUpdate data
  | CommandId.mCounterGet => store.mCounterGet data
  | _ => .error .invalidCmd

/-- How many random bytes a command packet takes, whether or not it succeeds. -/
def demand : Bytes → Nat
  | [CommandId.randomValueGet, count] => count.toNat
  | [CommandId.eccKeyGenerate, _, _, _] => 32
  | _ => 0

/-- Answers a command packet with a result packet. -/
def execute [Primitives] (store : Store) (random : RandomSource) (packet : Bytes) :
    Bytes × Store × RandomSource :=
  let (drawn, random) := random.draw (demand packet)
  let outcome : Outcome := match packet with
    | [] => .error .invalidCmd
    | id :: data => store.run drawn.val id data
  match outcome with
  | .ok (data, store) => (ResultCode.ok.byte :: data, store, random)
  | .error code => ([code.byte], store, random)

end Store

end SecureElement
