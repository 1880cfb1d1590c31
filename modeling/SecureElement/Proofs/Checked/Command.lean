import SecureElement.Proofs.Checked.Frames
import SecureElement.Command

/-!
Accesses while commands are written and results read.

A command is written into a part of the buffer that is as long as its data, and
fills all of it. Of the data of a result nothing is read before its length is known
to reach that far.
-/

namespace SecureElement.Command

open Checked

/-! ### Lengths -/

/-- The length of the data. -/
def checkedDataLength : Command → Checked Nat
  | rMemDataWrite _ data => add 64 3 data.length
  | eddsaSign _ message => add 64 15 message.length
  | command => return command.dataLength

/-- The most data that the result can have. -/
def checkedResponseLength : Command → Checked Nat
  | randomValueGet count => add 64 3 count.toNat
  | command => return command.responseLength

/-- The bytes that a command is given. -/
def payload : Command → Bytes
  | ping data => data
  | rMemDataWrite _ data => data
  | eddsaSign _ message => message
  | _ => []

theorem checkedDataLength_eq {command : Command} (short : command.payload.length < 2 ^ 63) :
    command.checkedDataLength = .ok command.dataLength := by
  cases command with
  | rMemDataWrite slot data => exact add_eq (by simp only [payload] at short; omega)
  | eddsaSign slot message => exact add_eq (by simp only [payload] at short; omega)
  | _ => rfl

theorem checkedResponseLength_eq (command : Command) :
    command.checkedResponseLength = .ok command.responseLength := by
  cases command with
  | randomValueGet count =>
    have small := count.toNat_lt
    exact add_eq (by omega)
  | _ => rfl

/-! ### Writing -/

/-- Writes a slot or an index to the start of a buffer. -/
def putWord (buffer : Bytes) (value : UInt16) : Checked Bytes :=
  copy buffer 0 2 (word value)

/-- Writes the data of a command into a buffer. -/
def checkedEncode : Command → Bytes → Checked Bytes
  | ping data, buffer => copy buffer 0 buffer.length data
  | pairingKeyWrite slot key, buffer => do
    let buffer ← putWord buffer (UInt16.ofNat slot.val)
    let buffer ← put buffer 2 0
    copy buffer 3 buffer.length key.val
  | pairingKeyRead slot, buffer => putWord buffer (UInt16.ofNat slot.val)
  | pairingKeyInvalidate slot, buffer => putWord buffer (UInt16.ofNat slot.val)
  | rMemDataWrite slot data, buffer => do
    let buffer ← putWord buffer slot
    let buffer ← put buffer 2 0
    copy buffer 3 buffer.length data
  | rMemDataRead slot, buffer => putWord buffer slot
  | rMemDataErase slot, buffer => putWord buffer slot
  | randomValueGet count, buffer => put buffer 0 count
  | eccKeyGenerate slot curve, buffer => do
    let buffer ← putWord buffer slot
    put buffer 2 curve.byte
  | eccKeyStore slot curve key, buffer => do
    let buffer ← putWord buffer slot
    let buffer ← put buffer 2 curve.byte
    let buffer ← fill buffer 3 15 0
    copy buffer 15 buffer.length key.val
  | eccKeyRead slot, buffer => putWord buffer slot
  | eccKeyErase slot, buffer => putWord buffer slot
  | eddsaSign slot message, buffer => do
    let buffer ← putWord buffer slot
    let buffer ← fill buffer 2 15 0
    copy buffer 15 buffer.length message
  | mCounterInit index value, buffer => do
    let buffer ← putWord buffer index
    let buffer ← put buffer 2 0
    copy buffer 3 7 (Bytes.littleEndian 4 value.toNat)
  | mCounterUpdate index, buffer => putWord buffer index
  | mCounterGet index, buffer => putWord buffer index

section

variable {buffer front piece : Bytes} {start stop : Nat} {value : UInt8}

/-- A piece is written behind what has been written. -/
theorem copy_behind (at_ : start = front.length) (ends : stop = start + piece.length)
    (room : stop ≤ buffer.length) :
    copy (buffer.overlay 0 front) start stop piece = .ok (buffer.overlay 0 (front ++ piece)) := by
  have kept : (buffer.overlay 0 front).length = buffer.length := Bytes.length_overlay (by omega)
  have joined : (buffer.overlay 0 front).overlay (0 + front.length) piece =
      buffer.overlay 0 (front ++ piece) := Bytes.overlay_overlay (by omega)
  rw [Nat.zero_add, ← at_] at joined
  rw [copy_eq (by omega) (by omega) (by omega), joined]

theorem put_behind (at_ : start = front.length) (room : start < buffer.length) :
    put (buffer.overlay 0 front) start value = .ok (buffer.overlay 0 (front ++ [value])) := by
  have kept : (buffer.overlay 0 front).length = buffer.length := Bytes.length_overlay (by omega)
  have joined : (buffer.overlay 0 front).overlay (0 + front.length) [value] =
      buffer.overlay 0 (front ++ [value]) := Bytes.overlay_overlay (by omega)
  rw [Nat.zero_add, ← at_] at joined
  rw [put_eq (by omega), joined]

theorem fill_behind (at_ : start = front.length) (order : start ≤ stop)
    (room : stop ≤ buffer.length) :
    fill (buffer.overlay 0 front) start stop value =
      .ok (buffer.overlay 0 (front ++ List.replicate (stop - start) value)) :=
  copy_behind at_ (by rw [List.length_replicate]; omega) room

/-- The last piece fills the buffer. -/
theorem copy_rest (at_ : start = front.length) (whole : start + piece.length = buffer.length) :
    copy (buffer.overlay 0 front) start (buffer.overlay 0 front).length piece =
      .ok (front ++ piece) := by
  have kept : (buffer.overlay 0 front).length = buffer.length := Bytes.length_overlay (by omega)
  have filled : buffer.overlay 0 (front ++ piece) = front ++ piece :=
    Bytes.overlay_whole (by rw [List.length_append]; omega)
  rw [kept, copy_behind at_ whole.symm (Nat.le_refl _), filled]

theorem putWord_eq (room : 2 ≤ buffer.length) (number : UInt16) :
    putWord buffer number = .ok (buffer.overlay 0 (word number)) :=
  copy_eq rfl (Nat.zero_le _) room

/-- A word fills a buffer of two bytes. -/
theorem putWord_whole (two : buffer.length = 2) (number : UInt16) :
    putWord buffer number = .ok (word number) := by
  rw [putWord_eq (by omega), Bytes.overlay_whole (by rw [two]; rfl)]

/-- In a buffer as long as its data, a command is written without a fault. -/
theorem checkedEncode_eq {command : Command} (room : buffer.length = command.dataLength) :
    command.checkedEncode buffer = .ok command.encode := by
  cases command with
  | ping data =>
    have length : data.length = buffer.length := room.symm
    rw [checkedEncode, copy_eq (by omega) (Nat.zero_le _) (Nat.le_refl _),
      Bytes.overlay_whole length]
    rfl
  | pairingKeyWrite slot key =>
    have length : buffer.length = 35 := room
    rw [checkedEncode, putWord_eq (by omega), ok_bind, put_behind (by rfl) (by omega), ok_bind,
      copy_rest (by rfl) (by rw [key.property]; omega), List.append_assoc]
    rfl
  | rMemDataWrite slot data =>
    have length : buffer.length = 3 + data.length := room
    rw [checkedEncode, putWord_eq (by omega), ok_bind, put_behind (by rfl) (by omega), ok_bind,
      copy_rest (by rfl) (by omega), List.append_assoc]
    rfl
  | randomValueGet count =>
    have length : buffer.length = 1 := room
    rw [checkedEncode, put_eq (by omega), Bytes.overlay_whole (by rw [length]; rfl)]
    rfl
  | eccKeyGenerate slot curve =>
    have length : buffer.length = 3 := room
    rw [checkedEncode, putWord_eq (by omega), ok_bind, put_behind (by rfl) (by omega),
      Bytes.overlay_whole (by rw [length]; rfl)]
    rfl
  | eccKeyStore slot curve key =>
    have length : buffer.length = 47 := room
    rw [checkedEncode, putWord_eq (by omega), ok_bind, put_behind (by rfl) (by omega), ok_bind,
      fill_behind (by rfl) (by omega) (by omega), ok_bind,
      copy_rest (by rfl) (by rw [key.property]; omega), List.append_assoc, List.append_assoc]
    rfl
  | eddsaSign slot message =>
    have length : buffer.length = 15 + message.length := room
    rw [checkedEncode, putWord_eq (by omega), ok_bind, fill_behind (by rfl) (by omega) (by omega),
      ok_bind, copy_rest (by rfl) (by omega)]
    rfl
  | mCounterInit index value =>
    have length : buffer.length = 7 := room
    rw [checkedEncode, putWord_eq (by omega), ok_bind, put_behind (by rfl) (by omega), ok_bind,
      copy_behind (by rfl) (by rfl) (by omega), Bytes.overlay_whole (by rw [length]; rfl),
      List.append_assoc]
    rfl
  | _ => exact putWord_whole room _

end

/-! ### Reading -/

/-- Skips padding in front of exactly `length` bytes. -/
def expectLength (data : Bytes) (skip length : Nat) : Checked (Except Error Bytes) := do
  let whole ← add 64 skip length
  if data.length ≠ whole then return .error malformed
  else return .ok (← part data skip data.length)

/-- Accepts no data. -/
def checkedDecodeEmpty (data : Bytes) : Checked (Except Error Unit) := do
  match ← expectLength data 0 0 with
  | .error e => return .error e
  | .ok _ => return .ok ()

/-- Skips padding in front of a string of `length` bytes. -/
def checkedDecodeOctets (padding length : Nat) (data : Bytes) :
    Checked (Except Error (Octets length)) := do
  match ← expectLength data padding length with
  | .error e => return .error e
  | .ok bytes => return .ok (← fixed length bytes)

/-- Reads what is known of a key slot. -/
def checkedDecodeEccKey (data : Bytes) : Checked (Except Error EccKey) := do
  match decodePadded 15 data with
  | .error e => return .error e
  | .ok publicKey =>
    match Curve.ofByte (← byte data 0) with
    | .error cause => return .error (.protocol cause)
    | .ok curve =>
      match KeyOrigin.ofByte (← byte data 1) with
      | .error cause => return .error (.protocol cause)
      | .ok origin =>
        if publicKey.length = curve.publicLength then return .ok { curve, origin, publicKey }
        else return .error malformed

/-- Reads a counter. -/
def checkedDecodeCounter (data : Bytes) : Checked (Except Error UInt32) := do
  match ← expectLength data 3 4 with
  | .error e => return .error e
  | .ok bytes =>
    let value := [← byte bytes 0, ← byte bytes 1, ← byte bytes 2, ← byte bytes 3]
    return .ok (UInt32.ofNat (Bytes.ofLittleEndian value))

/-- Reads the data of a command's result. -/
def checkedDecode : (c : Command) → Bytes → Checked (Except Error c.Response)
  | ping .., data => return .ok data
  | pairingKeyRead .., data => checkedDecodeOctets 3 32 data
  | rMemDataRead .., data => return decodePadded 3 data
  | randomValueGet .., data => return decodePadded 3 data
  | eccKeyRead .., data => checkedDecodeEccKey data
  | eddsaSign .., data => checkedDecodeOctets 15 64 data
  | mCounterGet .., data => checkedDecodeCounter data
  | pairingKeyWrite .., data => checkedDecodeEmpty data
  | pairingKeyInvalidate .., data => checkedDecodeEmpty data
  | rMemDataWrite .., data => checkedDecodeEmpty data
  | rMemDataErase .., data => checkedDecodeEmpty data
  | eccKeyGenerate .., data => checkedDecodeEmpty data
  | eccKeyStore .., data => checkedDecodeEmpty data
  | eccKeyErase .., data => checkedDecodeEmpty data
  | mCounterInit .., data => checkedDecodeEmpty data
  | mCounterUpdate .., data => checkedDecodeEmpty data

/-- Reads a result packet. -/
def checkedDecodePacket (c : Command) : Bytes → Checked (Except Error c.Response)
  | [] => return .error malformed
  | result :: data =>
    match checkResult result with
    | .error e => return .error e
    | .ok () => c.checkedDecode data

theorem expectLength_eq {skip length : Nat} (small : skip + length < 2 ^ 64) (data : Bytes) :
    expectLength data skip length =
      .ok (if data.length = skip + length then .ok (data.drop skip) else .error malformed) := by
  rw [expectLength, add_eq small, ok_bind]
  by_cases whole : data.length = skip + length
  · rw [if_neg (not_not.mpr whole), if_pos whole, part_eq (by omega) (Nat.le_refl _),
      Bytes.slice_eq_drop]
    rfl
  · rw [if_pos whole, if_neg whole]
    rfl

theorem checkedDecodeEmpty_eq (data : Bytes) :
    checkedDecodeEmpty data = .ok (decodeEmpty data) := by
  rw [checkedDecodeEmpty, expectLength_eq (by omega), ok_bind, decodeEmpty]
  cases data <;> rfl

theorem checkedDecodeOctets_eq {padding length : Nat} (small : padding + length < 2 ^ 64)
    (data : Bytes) :
    checkedDecodeOctets padding length data = .ok (decodeOctets padding length data) := by
  rw [checkedDecodeOctets, expectLength_eq small, ok_bind, decodeOctets]
  by_cases whole : data.length = padding + length
  case neg =>
    rw [if_neg whole, if_neg whole]
    rfl
  have rest : (data.drop padding).length = length := by
    rw [List.length_drop]
    omega
  obtain ⟨octets, same⟩ : ∃ octets : Octets length, octets.val = data.drop padding :=
    ⟨⟨_, rest⟩, rfl⟩
  rw [if_pos whole, if_pos whole, ← same, Octets.ofBytes?_val]
  dsimp only
  rw [fixed_val]
  rfl

theorem checkedDecodeEccKey_eq (data : Bytes) :
    checkedDecodeEccKey data = .ok (decodeEccKey data) := by
  unfold checkedDecodeEccKey decodeEccKey decodePadded
  by_cases short : data.length < 15
  · rw [if_pos short]
    rfl
  rw [if_neg short, byte_eq (by omega), byte_eq (by omega)]
  dsimp only [bind, Except.bind]
  cases Curve.ofByte (data.getD 0 0) with
  | error cause => rfl
  | ok curve =>
    dsimp only [mapError_ok]
    cases KeyOrigin.ofByte (data.getD 1 0) with
    | error cause => rfl
    | ok origin =>
      dsimp only [mapError_ok]
      split <;> rfl

theorem checkedDecodeCounter_eq (data : Bytes) :
    checkedDecodeCounter data = .ok ((decodeOctets 3 4 data).map
      fun value => UInt32.ofNat (Bytes.ofLittleEndian value.val)) := by
  rw [checkedDecodeCounter, expectLength_eq (by omega), ok_bind, decodeOctets]
  by_cases whole : data.length = 3 + 4
  case neg =>
    rw [if_neg whole, if_neg whole]
    rfl
  have rest : (data.drop 3).length = 4 := by
    rw [List.length_drop]
    omega
  obtain ⟨octets, same⟩ : ∃ octets : Octets 4, octets.val = data.drop 3 := ⟨⟨_, rest⟩, rfl⟩
  rw [if_pos whole, if_pos whole, ← same, Octets.ofBytes?_val]
  match octets with
  | ⟨[_, _, _, _], _⟩ => rfl

theorem checkedDecode_eq (c : Command) (data : Bytes) :
    c.checkedDecode data = .ok (c.decode data) := by
  cases c with
  | ping => rfl
  | pairingKeyRead => exact checkedDecodeOctets_eq (by omega) data
  | rMemDataRead => rfl
  | randomValueGet => rfl
  | eccKeyRead => exact checkedDecodeEccKey_eq data
  | eddsaSign => exact checkedDecodeOctets_eq (by omega) data
  | mCounterGet => exact checkedDecodeCounter_eq data
  | _ => exact checkedDecodeEmpty_eq data

/-- A result packet is read without a fault, whatever is in it. -/
theorem checkedDecodePacket_eq (c : Command) (packet : Bytes) :
    c.checkedDecodePacket packet = .ok (c.decodePacket packet) := by
  cases packet with
  | nil => rfl
  | cons result data =>
    rw [checkedDecodePacket, decodePacket]
    cases checkResult result with
    | error e => rfl
    | ok => exact c.checkedDecode_eq data

end SecureElement.Command
