import Mathlib.Logic.Function.Basic
import SecureElement.Proofs.ByteStrings
import SecureElement.Proofs.Entries

/-!
The chip as a vault.

To who sends commands, the chip is a vault: places and what stands in them
(`Vault`), with an operation for every command that reads and writes places and
knows neither bytes nor layouts (`Vault.operate`). A command that is encoded, run
by the chip and whose result is decoded does just that operation
(`Store.execute_refines`): what the host encodes, the chip reads, and what the chip
answers, the host reads.
-/

namespace SecureElement

/-- What stands in every place. -/
abbrev Vault := (entry : Entry) → entry.Content

namespace Vault

/-! ### Operations -/

/-- The number of a place, if there is such a place. -/
def place (count : Nat) (number : UInt16) : Except ResultCode (Fin count) :=
  if h : number.toNat < count then .ok ⟨number.toNat, h⟩ else .error .fail

variable (vault : Vault)

/-- Puts something into a place. -/
def put (entry : Entry) (content : entry.Content) : Vault := Function.update vault entry content

/-- Puts a key into an empty place; only Ed25519 keys are taken. -/
def insertKey (slot : UInt16) (curve : Curve) (secret : Key) (origin : KeyOrigin) :
    Except ResultCode (Unit × Vault) := do
  let slot ← place 32 slot
  if curve = .ed25519 ∧ vault (.ecc slot) = none then
    return ((), vault.put (.ecc slot) (some ⟨secret, origin⟩))
  else throw .fail

/-- The key in a place. -/
def key (slot : UInt16) : Except ResultCode EccEntry := do
  match vault (.ecc (← place 32 slot)) with
  | some entry => return entry
  | none => throw .eccInvalidKey

variable [Primitives]

/-- The operation of a command, given the random bytes that are drawn for it: what
it returns and the vault after it, or why it is refused. -/
def operate (drawn : Bytes) :
    (command : Command) → Except ResultCode (command.Response × Vault)
  | .ping data => .ok (data, vault)
  | .pairingKeyWrite slot key =>
    if vault (.pairing slot) = .blank then .ok ((), vault.put (.pairing slot) (.written key))
    else .error .fail
  | .pairingKeyRead slot =>
    match vault (.pairing slot) with
    | .written key => .ok (key, vault)
    | .blank => .error .pairingKeyEmpty
    | .invalidated => .error .pairingKeyInvalid
  | .pairingKeyInvalidate slot => .ok ((), vault.put (.pairing slot) .invalidated)
  | .rMemDataWrite slot data =>
    if data = [] then .error .invalidCmd
    else do
      let slot ← place 512 slot
      if vault (.memory slot) = none then return ((), vault.put (.memory slot) (some data))
      else throw .rMemWriteFail
  | .rMemDataRead slot => do
    let slot ← place 512 slot
    return ((vault (.memory slot)).getD [], vault)
  | .rMemDataErase slot => do
    let slot ← place 512 slot
    return ((), vault.put (.memory slot) none)
  | .randomValueGet _ => .ok (drawn, vault)
  | .eccKeyGenerate slot curve => vault.insertKey slot curve (Octets.fit 32 drawn) .generated
  | .eccKeyStore slot curve key => vault.insertKey slot curve key .stored
  | .eccKeyRead slot => do
    let entry ← vault.key slot
    return (⟨.ed25519, entry.origin, (Primitives.verifyingKey entry.secret).val⟩, vault)
  | .eccKeyErase slot => do
    let slot ← place 32 slot
    return ((), vault.put (.ecc slot) none)
  | .eddsaSign slot message => do
    let entry ← vault.key slot
    return (Primitives.sign entry.secret message, vault)
  | .mCounterInit index value => do
    let i ← place 16 index
    return ((), vault.put (.counter i) (some value))
  | .mCounterUpdate index => do
    let i ← place 16 index
    match vault (.counter i) with
    | none => throw .counterInvalid
    | some value =>
      if value = 0 then throw .mCounterUpdateErr
      else return ((), vault.put (.counter i) (some (value - 1)))
  | .mCounterGet index => do
    let i ← place 16 index
    match vault (.counter i) with
    | none => throw .counterInvalid
    | some value => return (value, vault)

end Vault

/-! ### Layouts -/

theorem ResultCode.eq_ok_of_byte {code : ResultCode} (same : code.byte = ResultCode.ok.byte) :
    code = .ok := by
  have read := ResultCode.ofByte?_byte code
  rw [same, ResultCode.ofByte?_byte] at read
  exact (Option.some.inj read).symm

namespace Command

theorem length_word (value : UInt16) : (word value).length = 2 := by simp [word]

/-- The host reads what the chip pads. -/
theorem decodePadded_padded (padding : Nat) (content : Bytes) :
    decodePadded padding (Store.padded padding content) = .ok content := by
  unfold decodePadded Store.padded
  rw [if_neg (by simp), List.drop_left' (by simp)]

theorem decodeOctets_padded (padding : Nat) {length : Nat} (octets : Octets length) :
    decodeOctets padding length (Store.padded padding octets.val) = .ok octets := by
  unfold decodeOctets Store.padded
  rw [if_pos (by simp [octets.property]), List.drop_left' (by simp), Octets.ofBytes?_val]

theorem decodeEccKey_padded (origin : KeyOrigin) (publicKey : Octets 32) :
    decodeEccKey (Curve.ed25519.byte :: origin.byte :: Store.padded 13 publicKey.val) =
      .ok ⟨.ed25519, origin, publicKey.val⟩ := by
  have padding : decodePadded 15 (Curve.ed25519.byte :: origin.byte ::
      Store.padded 13 publicKey.val) = .ok publicKey.val := by
    unfold decodePadded Store.padded
    rw [if_neg (by simp)]
    rfl
  have curve : Curve.ofByte ((Curve.ed25519.byte :: origin.byte ::
      Store.padded 13 publicKey.val).getD 0 0) = .ok .ed25519 := Curve.ofByte_byte .ed25519
  have origin' : KeyOrigin.ofByte ((Curve.ed25519.byte :: origin.byte ::
      Store.padded 13 publicKey.val).getD 1 0) = .ok origin := KeyOrigin.ofByte_byte origin
  unfold decodeEccKey
  rw [padding, curve, origin']
  exact if_pos publicKey.property

/-- A result that is not success is the command's error. -/
theorem decodePacket_of_refused (command : Command) {code : ResultCode} (refused : code ≠ .ok) :
    command.decodePacket [code.byte] = .error (.protocol (.result code)) := by
  cases code with
  | ok => exact absurd rfl refused
  | _ => rfl

/-- A counter's value is read as it was written. -/
theorem ofNat_littleEndian (value : UInt32) :
    UInt32.ofNat (Bytes.ofLittleEndian (Bytes.littleEndian 4 value.toNat)) = value := by
  rw [Bytes.ofLittleEndian_littleEndian (by exact value.toNat_lt), UInt32.ofNat_toNat]

end Command

namespace Store

open Vault (place)

/-- The chip's memory as a vault. -/
abbrev vault (store : Store) : Vault := store.read

/-- The chip reads the slot or index that the host writes. -/
theorem index_word (count : Nat) (value : UInt16) (rest : Bytes) :
    index count (Command.word value ++ rest) = place count value := by
  have number : Bytes.ofLittleEndian ((Command.word value ++ rest).take 2) = value.toNat := by
    rw [List.take_left' (Command.length_word value), Command.word,
      Bytes.ofLittleEndian_littleEndian (by exact value.toNat_lt)]
  unfold index place
  simp only [number]

theorem index_slot (slot : PairingSlot) (rest : Bytes) :
    index 4 (Command.word (UInt16.ofNat slot.val) ++ rest) = .ok slot := by
  have small : (UInt16.ofNat slot.val).toNat = slot.val := by
    rw [UInt16.toNat_ofNat']
    exact Nat.mod_eq_of_lt (Nat.lt_trans slot.isLt (by decide))
  rw [index_word, place, dif_pos (by rw [small]; exact slot.isLt)]
  simp only [small]

theorem expectLength_of_length {length : Nat} {data : Bytes} (h : data.length = length) :
    expectLength length data = .ok () := if_pos h

/-- Writing to an entry puts its content there. -/
theorem read_write_eq (store : Store) (entry : Entry) (content : entry.Content) :
    (store.write entry content).read = Vault.put store.read entry content := by
  funext other
  unfold Vault.put
  by_cases here : other = entry
  · subst here
    rw [read_write, Function.update_self]
  · rw [read_write_of_ne content here, Function.update_of_ne here]

theorem word_eq (value : UInt16) : Command.word value = Command.word value ++ [] :=
  (List.append_nil _).symm

/-! ### Refinement -/

/-- What a command comes to in the chip, its result decoded, is what the operation
comes to. -/
inductive Refines {α : Type} (decode : Bytes → Except Error α) :
    Outcome → Except ResultCode (α × Vault) → Prop where
  | ok {data : Bytes} {after : Store} {response : α} {vault : Vault}
      (decodes : decode data = .ok response) (reads : after.read = vault) :
      Refines decode (.ok (data, after)) (.ok (response, vault))
  | error {code : ResultCode} (refused : code ≠ .ok) : Refines decode (.error code) (.error code)

namespace Refines

variable {α β : Type} {decode : Bytes → Except Error α} {store : Store} {data rest : Bytes}
  {response : α} {right : Except ResultCode (α × Vault)}

/-- A command that reads. -/
theorem keep (decodes : decode data = .ok response) :
    Refines decode (.ok (data, store)) (.ok (response, store.read)) := .ok decodes rfl

/-- A command that writes. -/
theorem put (entry : Entry) (content : entry.Content) (decodes : decode [] = .ok response) :
    Refines decode (.ok ([], store.write entry content))
      (.ok (response, Vault.put store.read entry content)) :=
  .ok decodes (read_write_eq store entry content)

theorem ite {p : Prop} [Decidable p] {left left' : Outcome}
    {right' : Except ResultCode (α × Vault)} (yes : p → Refines decode left right)
    (no : ¬p → Refines decode left' right') :
    Refines decode (if p then left else left') (if p then right else right') := by
  split
  · exact yes ‹_›
  · exact no ‹_›

/-! What stands in front of the data: a length, which is right, and the number of a
place. -/

theorem length {length : Nat} {next : Unit → Outcome} (size : data.length = length)
    (then' : Refines decode (next ()) right) :
    Refines decode (expectLength length data >>= next) right := by
  rw [expectLength_of_length size]
  exact then'

theorem slot {slot : PairingSlot} {next : Fin 4 → Outcome}
    (layout : data = Command.word (UInt16.ofNat slot.val) ++ rest)
    (then' : Refines decode (next slot) right) :
    Refines decode (index 4 data >>= next) right := by
  rw [layout, index_slot]
  exact then'

theorem place {count : Nat} {number : UInt16} {next : Fin count → Outcome}
    {next' : Fin count → Except ResultCode (α × Vault)}
    (layout : data = Command.word number ++ rest)
    (then' : ∀ i, Refines decode (next i) (next' i)) :
    Refines decode (index count data >>= next) (Vault.place count number >>= next') := by
  rw [layout, index_word]
  unfold Vault.place
  split
  · exact then' _
  · exact .error (by decide)

end Refines

/-! ### Commands -/

section

variable (store : Store)

theorem insertKey_refines {slot : UInt16} {curve : Curve} {data rest : Bytes} {secret : Key}
    {origin : KeyOrigin} (layout : data = Command.word slot ++ curve.byte :: rest) :
    Refines Command.decodeEmpty (store.insertKey data secret origin)
      (Vault.insertKey store.read slot curve secret origin) := by
  have third : data.getD 2 0 = curve.byte := by
    rw [layout, List.getD_eq_getElem?_getD, List.getElem?_append_right (by simp [Command.word]),
      Command.length_word]
    rfl
  refine .place layout fun i => ?_
  rw [third, Curve.ofByte_byte]
  cases curve with
  | p256 => exact .error (by decide)
  | ed25519 =>
    change Refines _ (if store.read (.ecc i) = none then _ else _) _
    by_cases empty : store.read (.ecc i) = none
    · rw [if_pos empty, if_pos ⟨rfl, empty⟩]
      exact .put (.ecc i) _ rfl
    · rw [if_neg empty, if_neg (empty ·.2)]
      exact .error (by decide)

theorem key_refines {α : Type} {decode : Bytes → Except Error α} {slot : UInt16}
    {data rest : Bytes} {next : EccEntry → Outcome}
    {next' : EccEntry → Except ResultCode (α × Vault)} (layout : data = Command.word slot ++ rest)
    (then' : ∀ entry, Refines decode (next entry) (next' entry)) :
    Refines decode (store.keyOf data >>= next) (Vault.key store.read slot >>= next') := by
  unfold keyOf Vault.key
  rw [layout, index_word]
  unfold Vault.place
  split
  · rename_i inside
    cases held : store.ecc[(⟨slot.toNat, inside⟩ : Fin 32)] with
    | none =>
      have read : store.read (.ecc ⟨slot.toNat, inside⟩) = none := held
      simp only [bind, Except.bind, held, read]
      exact .error (by decide)
    | some entry =>
      have read : store.read (.ecc ⟨slot.toNat, inside⟩) = some entry := held
      simp only [bind, Except.bind, held, read]
      exact then' entry
  · exact .error (by decide)

theorem pairingKeyRead_refines (slot : PairingSlot) :
    Refines (Command.decodeOctets 3 32) (store.pairingKeyRead (Command.pairingKeyRead slot).encode)
      (match store.read (.pairing slot) with
        | .written key => .ok (key, store.read)
        | .blank => .error .pairingKeyEmpty
        | .invalidated => .error .pairingKeyInvalid) := by
  refine .length (Command.length_encode _) (.slot (word_eq _) ?_)
  cases held : store.pairing[slot] with
  | written key =>
    have read : store.read (.pairing slot) = .written key := held
    rw [read]
    exact .keep (Command.decodeOctets_padded 3 key)
  | blank =>
    have read : store.read (.pairing slot) = .blank := held
    rw [read]
    exact .error (by decide)
  | invalidated =>
    have read : store.read (.pairing slot) = .invalidated := held
    rw [read]
    exact .error (by decide)

theorem rMemDataWrite_refines (slot : UInt16) {data : Bytes} (short : data.length ≤ Limit.memory) :
    Refines Command.decodeEmpty (store.rMemDataWrite (Command.rMemDataWrite slot data).encode)
      (if data = [] then .error .invalidCmd
        else do
          let slot ← place 512 slot
          if store.read (.memory slot) = none then
            return ((), Vault.put store.read (.memory slot) (some data))
          else throw .rMemWriteFail) := by
  have size : (Command.rMemDataWrite slot data).encode.length = 3 + data.length :=
    Command.length_encode _
  unfold rMemDataWrite
  by_cases empty : data = []
  · rw [if_pos empty, if_pos (.inl (Nat.le_of_eq (by rw [size, empty]; rfl)))]
    exact .error (by decide)
  · have positive := List.length_pos_iff.mpr empty
    rw [if_neg empty, if_neg (by omega)]
    exact .place rfl fun i => .ite (fun _ => .put (.memory i) _ rfl) fun _ => .error (by decide)

theorem mCounterUpdate_refines (index : UInt16) :
    Refines Command.decodeEmpty (store.mCounterUpdate (Command.mCounterUpdate index).encode)
      (do
        let i ← place 16 index
        match store.read (.counter i) with
        | none => throw .counterInvalid
        | some value =>
          if value = 0 then throw .mCounterUpdateErr
          else return ((), Vault.put store.read (.counter i) (some (value - 1)))) := by
  refine .length (Command.length_encode _) (.place (word_eq _) fun i => ?_)
  cases held : store.counters[i] with
  | none =>
    have read : store.read (.counter i) = none := held
    rw [read]
    exact .error (by decide)
  | some value =>
    have read : store.read (.counter i) = some value := held
    rw [read]
    exact .ite (fun _ => .error (by decide)) fun _ => .put (.counter i) _ rfl

theorem mCounterGet_refines (index : UInt16) :
    Refines (Command.mCounterGet index).decode
      (store.mCounterGet (Command.mCounterGet index).encode)
      (do
        let i ← place 16 index
        match store.read (.counter i) with
        | none => throw .counterInvalid
        | some value => return (value, store.read)) := by
  refine .length (Command.length_encode _) (.place (word_eq _) fun i => ?_)
  cases held : store.counters[i] with
  | none =>
    have read : store.read (.counter i) = none := held
    rw [read]
    exact .error (by decide)
  | some value =>
    have read : store.read (.counter i) = some value := held
    have octets := Command.decodeOctets_padded 3
      (⟨Bytes.littleEndian 4 value.toNat, Bytes.length_littleEndian 4 _⟩ : Octets 4)
    have counted := congrArg
      (Except.map fun bytes : Octets 4 => UInt32.ofNat (Bytes.ofLittleEndian bytes.val)) octets
    dsimp only [Except.map] at counted
    rw [Command.ofNat_littleEndian] at counted
    rw [read]
    exact .keep counted

variable [Primitives] (drawn : Bytes)

theorem eddsaSign_refines (slot : UInt16) {message : Bytes}
    (short : message.length ≤ Limit.message) :
    Refines (Command.decodeOctets 15 64)
      (store.eddsaSign (Command.eddsaSign slot message).encode)
      (do
        let entry ← Vault.key store.read slot
        return (Primitives.sign entry.secret message, store.read)) := by
  have size : (Command.eddsaSign slot message).encode.length = 15 + message.length :=
    Command.length_encode _
  have behind : (Command.eddsaSign slot message).encode.drop 15 = message := rfl
  unfold eddsaSign
  rw [if_neg (by omega), behind]
  refine store.key_refines (List.append_assoc ..) fun entry => .keep ?_
  exact Command.decodeOctets_padded 15 (Primitives.sign entry.secret message)

/-- A command that the host encodes does in the chip what its operation does. -/
theorem run_refines (command : Command) (fits : command.dataLength ≤ command.maxDataLength) :
    Refines command.decode (store.run drawn command.id command.encode)
      (Vault.operate store.read drawn command) := by
  have size := command.length_encode
  cases command with
  | ping data =>
    have short : data.length ≤ Limit.ping := fits
    change Refines _ (if data.length ≤ Limit.ping then _ else _) _
    rw [if_pos short]
    exact .keep rfl
  | pairingKeyWrite slot key =>
    have written : Octets.fit 32 ((Command.pairingKeyWrite slot key).encode.drop 3) = key :=
      Octets.fit_val key
    refine .length size (.slot rfl (.ite (fun _ => ?_) fun _ => .error (by decide)))
    rw [written]
    exact .put (.pairing slot) _ rfl
  | pairingKeyRead slot => exact store.pairingKeyRead_refines slot
  | pairingKeyInvalidate slot =>
    exact .length size (.slot (word_eq _) (.put (.pairing slot) _ rfl))
  | rMemDataWrite slot data =>
    exact store.rMemDataWrite_refines slot (Nat.le_of_add_le_add_left fits)
  | rMemDataRead slot =>
    exact .length size (.place (word_eq _) fun _ => .keep (Command.decodePadded_padded 3 _))
  | rMemDataErase slot => exact .length size (.place (word_eq _) fun i => .put (.memory i) _ rfl)
  | randomValueGet count => exact .length size (.keep (Command.decodePadded_padded 3 _))
  | eccKeyGenerate slot curve => exact .length size (store.insertKey_refines rfl)
  | eccKeyStore slot curve key =>
    have stored : Octets.fit 32 ((Command.eccKeyStore slot curve key).encode.drop 15) = key :=
      Octets.fit_val key
    refine .length size ?_
    rw [stored]
    exact store.insertKey_refines rfl
  | eccKeyRead slot =>
    exact .length size (store.key_refines (word_eq _) fun entry =>
      .keep (Command.decodeEccKey_padded entry.origin _))
  | eccKeyErase slot => exact .length size (.place (word_eq _) fun i => .put (.ecc i) _ rfl)
  | eddsaSign slot message =>
    exact store.eddsaSign_refines slot (Nat.le_of_add_le_add_left fits)
  | mCounterInit index value =>
    have written : UInt32.ofNat (Bytes.ofLittleEndian
        ((Command.mCounterInit index value).encode.drop 3)) = value :=
      Command.ofNat_littleEndian value
    refine .length size (.place rfl fun i => ?_)
    rw [written]
    exact .put (.counter i) _ rfl
  | mCounterUpdate index => exact store.mCounterUpdate_refines index
  | mCounterGet index => exact store.mCounterGet_refines index

end

/-! ### Packets -/

variable [Primitives]

/-- A command packet that the host makes is answered with a packet in which the host
reads what the operation returns or why it was refused, and the chip's places are
then as after the operation, or as before if it was refused. -/
theorem execute_refines (store : Store) (random : RandomSource) {command : Command}
    (fits : command.dataLength ≤ command.maxDataLength) :
    (∃ response vault,
      store.vault.operate (random.draw (demand command.packet)).1.val command =
        .ok (response, vault) ∧
      command.decodePacket (store.execute random command.packet).1 = .ok response ∧
      (store.execute random command.packet).1.head? = some ResultCode.ok.byte ∧
      (store.execute random command.packet).2.1.vault = vault) ∨
    ∃ code, store.vault.operate (random.draw (demand command.packet)).1.val command =
        .error code ∧
      command.decodePacket (store.execute random command.packet).1 =
        .error (.protocol (.result code)) ∧
      (store.execute random command.packet).1.head? ≠ some ResultCode.ok.byte ∧
      (store.execute random command.packet).2.1 = store := by
  have refines := store.run_refines (random.draw (demand command.packet)).1.val command fits
  have untouched : _ → (store.execute random command.packet).2.1 = store := execute_of_refused
  rw [Command.packet, execute_cons, ← Command.packet] at untouched ⊢
  dsimp only at untouched ⊢
  generalize store.run _ command.id command.encode = outcome at refines untouched
  generalize Vault.operate store.vault _ command = operated at refines
  cases refines with
  | ok decodes reads => exact .inl ⟨_, _, rfl, decodes, rfl, reads⟩
  | @error code refused =>
    have failed : [code.byte].head? ≠ some ResultCode.ok.byte :=
      fun same => refused (ResultCode.eq_ok_of_byte (Option.some.inj same))
    refine .inr ⟨code, rfl, ?_, failed, untouched failed⟩
    exact Command.decodePacket_of_refused command refused

end Store

end SecureElement
