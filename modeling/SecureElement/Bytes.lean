/-!
Byte strings, byte strings of a known length, and writing into the middle of a
buffer.

A buffer never changes its length: `overlay` replaces the bytes from an offset
on and keeps the rest (`length_overlay`). Numbers are written least significant
byte first unless a definition says otherwise.
-/

namespace SecureElement

/-- A string of bytes. -/
abbrev Bytes := List UInt8

/-- A string of exactly `n` bytes. -/
abbrev Octets (n : Nat) := { bytes : Bytes // bytes.length = n }

namespace Octets

/-- Reads `bytes` as a string of `n` bytes, if it is one. -/
def ofBytes? (n : Nat) (bytes : Bytes) : Option (Octets n) :=
  if h : bytes.length = n then some ⟨bytes, h⟩ else none

/-- The byte `value`, `n` times. -/
def replicate (n : Nat) (value : UInt8) : Octets n :=
  ⟨List.replicate n value, List.length_replicate⟩

/-- The first `n` bytes, zeros standing in for missing ones. -/
def fit (n : Nat) (bytes : Bytes) : Octets n :=
  let front := bytes.take n
  ⟨front ++ List.replicate (n - front.length) 0, by
    simp only [front, List.length_append, List.length_take, List.length_replicate]
    omega⟩

/-- One string after the other. -/
def append {m n : Nat} (left : Octets m) (right : Octets n) : Octets (m + n) :=
  ⟨left.val ++ right.val, by simp [left.property, right.property]⟩

theorem ofBytes?_val {n : Nat} (octets : Octets n) :
    ofBytes? n octets.val = some octets := by
  simp [ofBytes?, octets.property]

theorem ofBytes?_eq_some_iff {n : Nat} {bytes : Bytes} {octets : Octets n} :
    ofBytes? n bytes = some octets ↔ octets.val = bytes := by
  constructor
  · intro h
    unfold ofBytes? at h
    split at h
    · simp only [Option.some.injEq] at h
      exact h ▸ rfl
    · simp at h
  · rintro rfl
    exact ofBytes?_val octets

theorem fit_val_of_length {n : Nat} {bytes : Bytes} (h : bytes.length = n) :
    (fit n bytes).val = bytes := by
  subst h
  simp [fit]

end Octets

namespace Bytes

/-- `buffer` with the bytes from `offset` on replaced by `piece`. -/
def overlay (buffer : Bytes) (offset : Nat) (piece : Bytes) : Bytes :=
  buffer.take offset ++ piece ++ buffer.drop (offset + piece.length)

/-- The `count` bytes from `offset` on. -/
def slice (buffer : Bytes) (offset count : Nat) : Bytes :=
  (buffer.drop offset).take count

/-- Exclusive or, byte by byte; the shorter string decides the length. -/
def xor (left right : Bytes) : Bytes :=
  List.zipWith (· ^^^ ·) left right

/-- The bytes with one of them exchanged by `change`; an index past the end
changes nothing. -/
def alter (bytes : Bytes) (index : Nat) (change : UInt8 → UInt8) : Bytes :=
  bytes.modify index change

theorem length_overlay {buffer piece : Bytes} {offset : Nat}
    (h : offset + piece.length ≤ buffer.length) :
    (overlay buffer offset piece).length = buffer.length := by
  simp only [overlay, List.length_append, List.length_take, List.length_drop]
  omega

theorem length_slice {buffer : Bytes} {offset count : Nat}
    (h : offset + count ≤ buffer.length) : (slice buffer offset count).length = count := by
  simp only [slice, List.length_take, List.length_drop]
  omega

theorem slice_overlay {buffer piece : Bytes} {offset : Nat}
    (h : offset ≤ buffer.length) :
    slice (overlay buffer offset piece) offset piece.length = piece := by
  have taken : (buffer.take offset).length = offset := by simp [h]
  simp only [slice, overlay, List.append_assoc]
  rw [List.drop_append_of_le_length (Nat.le_of_eq taken.symm), List.drop_of_length_le (by omega)]
  simp

@[simp] theorem length_xor (left right : Bytes) :
    (xor left right).length = min left.length right.length := by
  simp [xor]

/-- A mask in two parts covers a text in two parts. -/
theorem xor_append {text front back : Bytes} {count : Nat} (h : front.length = count) :
    xor text (front ++ back) = xor (text.take count) front ++ xor (text.drop count) back := by
  subst h
  induction front generalizing text with
  | nil => simp [xor]
  | cons byte front ih =>
    cases text with
    | nil => simp [xor]
    | cons first text => simpa [xor] using ih

/-- Masking twice with the same string restores what the string covers. -/
theorem xor_xor {text mask : Bytes} (h : text.length ≤ mask.length) :
    xor (xor text mask) mask = text := by
  induction text generalizing mask with
  | nil => rfl
  | cons byte text ih =>
    cases mask with
    | nil => simp at h
    | cons m mask =>
      have shorter : text.length ≤ mask.length := by simpa using h
      have step := ih shorter
      simp only [xor, List.zipWith_cons_cons, List.cons.injEq] at step ⊢
      exact ⟨by rw [UInt8.xor_assoc, UInt8.xor_self, UInt8.xor_zero], step⟩

/-- The code points of a text of 8-bit characters. -/
def ofText (text : String) : Bytes :=
  text.toList.map fun c => UInt8.ofNat c.toNat

/-- The `width` low bytes of a number, least significant first. -/
def littleEndian : (width : Nat) → Nat → Bytes
  | 0, _ => []
  | width + 1, value => UInt8.ofNat value :: littleEndian width (value / 256)

/-- The `width` low bytes of a number, most significant first. -/
def bigEndian (width value : Nat) : Bytes :=
  (littleEndian width value).reverse

/-- The number written least significant byte first. -/
def ofLittleEndian : Bytes → Nat
  | [] => 0
  | byte :: rest => byte.toNat + 256 * ofLittleEndian rest

/-- The number written most significant byte first. -/
def ofBigEndian (bytes : Bytes) : Nat :=
  bytes.foldl (fun value byte => 256 * value + byte.toNat) 0

@[simp] theorem length_littleEndian (width value : Nat) :
    (littleEndian width value).length = width := by
  induction width generalizing value with
  | zero => rfl
  | succ width ih => simp [littleEndian, ih]

@[simp] theorem length_bigEndian (width value : Nat) :
    (bigEndian width value).length = width := by
  simp [bigEndian]

end Bytes

end SecureElement
