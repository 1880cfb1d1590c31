import Mathlib.Algebra.Group.Nat.Defs
import SecureElement.Bytes

/-!
Laws of byte strings that the proofs share: numbers read from bytes and written
back, and the parts of a buffer after a piece was written into it.
-/

namespace SecureElement

namespace Octets

/-- A string of the right length fits as it is. -/
theorem fit_val {n : Nat} (octets : Octets n) : fit n octets.val = octets :=
  Subtype.ext (fit_val_of_length octets.property)

/-- Of a longer string the front is taken. -/
theorem fit_append {n : Nat} (front : Octets n) (rest : Bytes) :
    fit n (front.val ++ rest) = front := by
  apply Subtype.ext
  simp [fit, List.take_left' front.property, front.property]

end Octets

namespace Bytes

theorem ofLittleEndian_lt (bytes : Bytes) : ofLittleEndian bytes < 256 ^ bytes.length := by
  induction bytes with
  | nil => simp [ofLittleEndian]
  | cons byte rest ih =>
    have small := byte.toNat_lt
    simp only [ofLittleEndian, List.length_cons, Nat.pow_succ]
    omega

/-- Reading back what was written gives the number, as far as it fits. -/
theorem ofLittleEndian_littleEndian {width value : Nat} (h : value < 256 ^ width) :
    ofLittleEndian (littleEndian width value) = value := by
  induction width generalizing value with
  | zero => simp at h; simp [littleEndian, ofLittleEndian, h]
  | succ width ih =>
    have small : value / 256 < 256 ^ width := by
      rw [Nat.div_lt_iff_lt_mul (by decide)]
      simpa [Nat.pow_succ] using h
    simp only [littleEndian, ofLittleEndian, ih small, UInt8.toNat_ofNat']
    omega

/-- Writing back the number that was read gives the bytes. -/
theorem littleEndian_ofLittleEndian (bytes : Bytes) :
    littleEndian bytes.length (ofLittleEndian bytes) = bytes := by
  induction bytes with
  | nil => rfl
  | cons byte rest ih =>
    have small := byte.toNat_lt
    have low : UInt8.ofNat (byte.toNat + 256 * ofLittleEndian rest) = byte := by
      apply UInt8.toNat_inj.mp
      rw [UInt8.toNat_ofNat']
      omega
    have high : (byte.toNat + 256 * ofLittleEndian rest) / 256 = ofLittleEndian rest := by omega
    simp only [ofLittleEndian, List.length_cons, littleEndian, low, high, ih]

theorem littleEndian_inj {width m n : Nat} (hm : m < 256 ^ width) (hn : n < 256 ^ width)
    (same : littleEndian width m = littleEndian width n) : m = n := by
  rw [← ofLittleEndian_littleEndian hm, same, ofLittleEndian_littleEndian hn]

/-- The number of two strings, one behind the other. -/
theorem ofLittleEndian_append (front back : Bytes) :
    ofLittleEndian (front ++ back) =
      ofLittleEndian front + 256 ^ front.length * ofLittleEndian back := by
  induction front with
  | nil => simp [ofLittleEndian]
  | cons byte front ih =>
    simp only [List.cons_append, ofLittleEndian, ih, List.length_cons, Nat.pow_succ, Nat.mul_add]
    rw [Nat.mul_comm (256 ^ front.length) 256, Nat.mul_assoc, Nat.add_assoc]

/-- A piece written to the start of a buffer stands there. -/
theorem take_overlay_zero (buffer piece : Bytes) :
    (overlay buffer 0 piece).take piece.length = piece := by
  simp [overlay]

/-- What precedes a piece written into a buffer stays. -/
theorem take_overlay {buffer piece : Bytes} {offset : Nat} (h : offset ≤ buffer.length) :
    (overlay buffer offset piece).take (offset + piece.length) = buffer.take offset ++ piece := by
  have front : (buffer.take offset ++ piece).length = offset + piece.length := by
    simp [h]
  rw [overlay, ← front, List.take_left]

/-- What precedes a piece written into a buffer stays, up to any point before it. -/
theorem take_overlay_of_le {buffer piece : Bytes} {count offset : Nat} (h : offset ≤ buffer.length)
    (before : count ≤ offset) : (overlay buffer offset piece).take count = buffer.take count := by
  rw [overlay, List.append_assoc, List.take_append_of_le_length (by simp; omega), List.take_take,
    Nat.min_eq_left before]

/-- Pieces written one behind the other stand as one. -/
theorem take_overlay_append {buffer front piece : Bytes}
    (h : front.length + piece.length ≤ buffer.length) (written : buffer.take front.length = front) :
    (overlay buffer front.length piece).take (front.length + piece.length) = front ++ piece := by
  rw [take_overlay (by omega), written]

theorem slice_overlay_of_length {buffer piece : Bytes} {offset count : Nat}
    (h : offset ≤ buffer.length) (same : piece.length = count) :
    slice (overlay buffer offset piece) offset count = piece := by
  rw [← same, slice_overlay h]

/-- Pieces written one behind the other are written as one. -/
theorem overlay_overlay {buffer front piece : Bytes} {offset : Nat}
    (h : offset + front.length ≤ buffer.length) :
    overlay (overlay buffer offset front) (offset + front.length) piece =
      overlay buffer offset (front ++ piece) := by
  have before : (buffer.take offset ++ front).length = offset + front.length := by
    simp only [List.length_append, List.length_take]
    omega
  have behind : (overlay buffer offset front).drop (offset + front.length + piece.length) =
      buffer.drop (offset + front.length + piece.length) := by
    rw [overlay, ← List.drop_drop, ← before, List.drop_left, List.drop_drop, before]
  rw [overlay, take_overlay (by omega), behind, overlay, List.length_append, List.append_assoc,
    List.append_assoc, List.append_assoc, List.append_assoc, Nat.add_assoc]

/-- Writing what is written already changes nothing. -/
theorem overlay_zero_again (buffer piece : Bytes) :
    overlay (overlay buffer 0 piece) 0 piece = overlay buffer 0 piece := by
  simp [overlay]

/-- What is behind a piece that is written into a buffer stays. -/
theorem drop_overlay {buffer piece : Bytes} {offset count : Nat} (inside : offset ≤ buffer.length)
    (behind : offset + piece.length ≤ count) :
    (overlay buffer offset piece).drop count = buffer.drop count := by
  have front : (buffer.take offset ++ piece).length = offset + piece.length := by
    rw [List.length_append, List.length_take_of_le inside]
  rw [overlay, List.drop_append, List.drop_eq_nil_of_le (by omega), List.nil_append, front,
    List.drop_drop, Nat.add_sub_cancel' behind]

/-- Buffers of the same length have the same length after a piece was written. -/
theorem length_overlay_alike {buffer other : Bytes} (same : other.length = buffer.length)
    (offset : Nat) (piece : Bytes) :
    (overlay other offset piece).length = (overlay buffer offset piece).length := by
  simp only [overlay, List.length_append, List.length_take, List.length_drop, same]

/-- A piece written to the start of a buffer stands in front of what it leaves. -/
theorem overlay_zero (buffer piece : Bytes) :
    overlay buffer 0 piece = piece ++ buffer.drop piece.length := by
  rw [overlay, Nat.zero_add, List.take_zero, List.nil_append]

/-- A piece as long as the buffer replaces all of it. -/
theorem overlay_whole {buffer piece : Bytes} (same : piece.length = buffer.length) :
    overlay buffer 0 piece = piece := by
  rw [overlay, same, Nat.zero_add, List.drop_length, List.take_zero, List.nil_append,
    List.append_nil]

/-- What is behind a buffer does not matter to a piece that is written into it. -/
theorem overlay_append {buffer piece : Bytes} {offset : Nat}
    (inside : offset + piece.length ≤ buffer.length) (extra : Bytes) :
    overlay (buffer ++ extra) offset piece = overlay buffer offset piece ++ extra := by
  rw [overlay, overlay, List.take_append_of_le_length (by omega),
    List.drop_append_of_le_length inside, ← List.append_assoc]

/-- A part of a buffer is the same part whatever is behind the buffer. -/
theorem slice_append_of_le {buffer : Bytes} {offset count : Nat}
    (inside : offset + count ≤ buffer.length) (extra : Bytes) :
    slice (buffer ++ extra) offset count = slice buffer offset count := by
  rw [slice, slice, List.drop_append_of_le_length (by omega), List.take_append_of_le_length]
  rw [List.length_drop]
  omega

/-- A part and the part behind it are one part. -/
theorem slice_append (buffer : Bytes) (offset front back : Nat) :
    slice buffer offset front ++ slice buffer (offset + front) back =
      slice buffer offset (front + back) := by
  simp only [slice]
  rw [List.take_add, List.drop_drop]

/-- A mask with some bit changes every byte. -/
theorem xor_ne_self {mask : UInt8} (some : mask ≠ 0) (byte : UInt8) : byte ^^^ mask ≠ byte := by
  intro same
  apply some
  rw [← UInt8.xor_right_inj byte, same, UInt8.xor_zero]

@[simp] theorem length_alter (bytes : Bytes) (index : Nat) (change : UInt8 → UInt8) :
    (alter bytes index change).length = bytes.length := by
  simp [alter]

/-- An index past the end names no byte. -/
theorem alter_of_length_le {bytes : Bytes} {index : Nat} (h : bytes.length ≤ index)
    (change : UInt8 → UInt8) : alter bytes index change = bytes :=
  List.modify_eq_self h

end Bytes

end SecureElement
