import Mathlib.Data.List.GetD
import SecureElement.Proofs.Checked.Access

/-!
Accesses to frames.

A request is only written into a buffer that can hold it, and of a response nothing
is read before its length byte is known to be its length.
-/

namespace SecureElement

open Checked

namespace Bytes

variable {buffer : Bytes} {index : Nat}

theorem slice_eq_drop (buffer : Bytes) (index : Nat) :
    buffer.slice index (buffer.length - index) = buffer.drop index := by
  rw [slice, ← List.length_drop, List.take_length]

/-- A part is its first byte and the part behind it. -/
theorem slice_succ (inside : index < buffer.length) (count : Nat) :
    buffer.slice index (count + 1) = buffer.getD index 0 :: buffer.slice (index + 1) count := by
  rw [slice, List.drop_eq_getElem_cons inside, List.take_succ_cons, slice,
    List.getD_eq_getElem _ _ inside]

/-- Two bytes that follow one another. -/
theorem slice_two (inside : index + 1 < buffer.length) :
    buffer.slice index 2 = [buffer.getD index 0, buffer.getD (index + 1) 0] := by
  rw [slice_succ (by omega), slice_succ inside, slice, List.take_zero]

end Bytes

/-! ### Checksums -/

namespace Crc

/-- Writes the checksum of the first `length` bytes behind them. -/
def checkedAppend (buffer : Bytes) (length : Nat) : Checked Bytes := do
  let content ← part buffer 0 length
  let stop ← add 64 length 2
  copy buffer length stop (encode (checksum content))

/-- Checks that the first `length` bytes are followed by their checksum. -/
def checkedCheck (buffer : Bytes) (length : Nat) : Checked (Except (UInt16 × UInt16) Unit) := do
  let content ← part buffer 0 length
  let high ← byte buffer length
  let next ← add 64 length 1
  let low ← byte buffer next
  let expected := checksum content
  let received := decode [high, low]
  return if expected = received then .ok () else .error (expected, received)

variable {buffer : Bytes} {length : Nat}

theorem checkedAppend_eq (inside : length + 2 ≤ buffer.length) (small : length + 2 < 2 ^ 64) :
    checkedAppend buffer length = .ok (append buffer length) := by
  unfold checkedAppend
  rw [part_eq (Nat.zero_le _) (by omega), ok_bind, add_eq small, ok_bind,
    copy_eq (by rw [length_encode]; omega) (by omega) inside]
  rfl

theorem checkedCheck_eq (inside : length + 2 ≤ buffer.length) (small : length + 2 < 2 ^ 64) :
    checkedCheck buffer length = .ok (check buffer length) := by
  unfold checkedCheck
  rw [part_eq (Nat.zero_le _) (by omega), ok_bind, byte_eq (by omega), ok_bind,
    add_eq (by omega), ok_bind, byte_eq (by omega), ok_bind, ← Bytes.slice_two (by omega)]
  rfl

end Crc

namespace Frame

/-! ### Requests -/

/-- Writes a request to the start of a buffer. -/
def checkedBuildRequest (buffer : Bytes) (id : UInt8) (data : Bytes) :
    Checked (Except FrameError (Nat × Bytes)) :=
  if maxData < data.length then return .error (.length data.length)
  else do
    let length ← add 64 data.length overhead
    if buffer.length < length then return .error (.length data.length)
    else do
      let buffer ← put buffer 0 (UInt8.ofNat data.length)
      let buffer ← put buffer 1 id
      let stop ← add 64 2 data.length
      let buffer ← copy buffer 2 stop data
      let buffer ← Crc.checkedAppend buffer stop
      return .ok (length, buffer)

/-- Length, code and data, written one after the other. -/
theorem overlay_content {buffer data : Bytes} (id : UInt8)
    (room : data.length + 2 ≤ buffer.length) :
    ((buffer.overlay 0 [UInt8.ofNat data.length]).overlay 1 [id]).overlay 2 data =
      buffer.overlay 0 (content id data) := by
  have first : (buffer.overlay 0 [UInt8.ofNat data.length]).overlay 1 [id] =
      buffer.overlay 0 [UInt8.ofNat data.length, id] := Bytes.overlay_overlay (by simp; omega)
  have second : (buffer.overlay 0 [UInt8.ofNat data.length, id]).overlay 2 data =
      buffer.overlay 0 (content id data) := Bytes.overlay_overlay (by simp; omega)
  rw [first, second]

theorem checkedBuildRequest_eq (buffer : Bytes) (id : UInt8) (data : Bytes) :
    checkedBuildRequest buffer id data = .ok (buildRequest buffer id data) := by
  unfold checkedBuildRequest buildRequest build
  by_cases long : maxData < data.length
  · rw [if_pos long, if_pos (.inl long)]
    rfl
  have short : data.length ≤ 252 := Nat.le_of_not_lt long
  have four : overhead = 4 := rfl
  rw [if_neg long, add_eq (by omega), ok_bind]
  by_cases small : buffer.length < data.length + overhead
  · rw [if_pos small, if_pos (.inr small)]
    rfl
  have first : (buffer.overlay 0 [UInt8.ofNat data.length]).length = buffer.length :=
    Bytes.length_overlay (by simp; omega)
  have second : ((buffer.overlay 0 [UInt8.ofNat data.length]).overlay 1 [id]).length =
      buffer.length := (Bytes.length_overlay (by rw [first]; simp; omega)).trans first
  have inside : 0 + (content id data).length ≤ buffer.length := by
    rw [length_content]
    omega
  have third : (buffer.overlay 0 (content id data)).length = buffer.length :=
    Bytes.length_overlay inside
  rw [if_neg small, if_neg (by omega), put_eq (by omega), ok_bind, put_eq (by omega), ok_bind,
    add_eq (by omega), ok_bind, copy_eq (by omega) (by omega) (by omega), ok_bind,
    overlay_content id (by omega), Crc.checkedAppend_eq (by omega) (by omega), ok_bind]
  have covered : 2 + data.length = 0 + (content id data).length := by
    rw [length_content]
    omega
  rw [Crc.append, covered, Bytes.take_overlay (Nat.zero_le _), Bytes.overlay_overlay inside]
  rfl

/-! ### Responses -/

/-- Reads a response from the bytes of a window. -/
def checkedParseResponse (buffer : Bytes) : Checked (Except FrameError Reply) :=
  if buffer.length < 5 then return .error (.length buffer.length)
  else do
    let length := (← byte buffer 1).toNat
    if maxData < length then return .error (.length length)
    else do
      let stop ← add 64 3 length
      let whole ← add 64 stop 2
      if buffer.length ≠ whole then return .error (.length length)
      else do
        let frame ← part buffer 1 buffer.length
        let content ← add 64 2 length
        match ← Crc.checkedCheck frame content with
        | .error (expected, received) => return .error (.crc expected received)
        | .ok () =>
          match readStatus (← byte buffer 2) with
          | .error cause => return .error cause
          | .ok status => return .ok ⟨status, ← part buffer 3 stop⟩

theorem checkedParseResponse_eq (buffer : Bytes) :
    checkedParseResponse buffer = .ok (parseResponse buffer) := by
  unfold checkedParseResponse parseResponse
  by_cases short : buffer.length < 5
  · rw [if_pos short, dif_pos short]
    rfl
  rw [if_neg short, dif_neg short, byte_eq (by omega), ok_bind,
    List.getD_eq_getElem _ _ (by omega)]
  dsimp only
  by_cases long : maxData < buffer[1].toNat
  · rw [if_pos long, if_pos (.inl long)]
    rfl
  have small : buffer[1].toNat ≤ 252 := Nat.le_of_not_lt long
  rw [if_neg long, add_eq (by omega), ok_bind, add_eq (by omega), ok_bind]
  by_cases whole : buffer.length = buffer[1].toNat + 5
  case neg =>
    rw [if_pos (by omega), if_pos (.inr whole)]
    rfl
  rw [if_neg (by omega), if_neg (by omega), part_eq (by omega) (Nat.le_refl _), ok_bind,
    Bytes.slice_eq_drop, add_eq (by omega), ok_bind,
    Crc.checkedCheck_eq (by rw [List.length_drop]; omega) (by omega), ok_bind, checkCrc,
    Nat.add_comm 2]
  cases Crc.check (buffer.drop 1) (buffer[1].toNat + 2) with
  | error sums => rfl
  | ok =>
    dsimp only
    rw [byte_eq (by omega), ok_bind, List.getD_eq_getElem _ _ (by omega), mapError_ok]
    cases read : readStatus buffer[2] with
    | error cause => rfl
    | ok status =>
      dsimp only
      rw [part_eq (by omega) (by omega), ok_bind, Nat.add_sub_cancel_left]
      rfl

end Frame

end SecureElement
