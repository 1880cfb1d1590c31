import Mathlib.Algebra.Ring.Parity
import SecureElement.Proofs.Checksum

/-!
Error patterns and the checksum.

An error on the way is a string of bytes that is added to what was sent: its bits, in
the order in which they are sent (`Bytes.bits`), say which bits are flipped. The register
takes in one bit after the other (`checksum_eq_foldl_enter`), and the checksum is linear
(`checksum_xor`), so a frame that carries its checksum is altered to one that does not
if and only if the error pattern by itself leaves something in the register
(`check_xor_iff`). It does if the number of flipped bits is odd, if two bits are flipped
less than 2048 apart, and if the flipped bits lie within 16 places
(`Recognized.checksum_ne_zero`).
-/

namespace SecureElement

/-! ### Bits of byte strings -/

/-- The bits of a byte, the most significant first. -/
def byteBits (byte : UInt8) : List Bool :=
  (List.range 8).map fun i => byte.toBitVec.getLsbD (7 - i)

/-- The bits of a byte string, in the order in which they are sent. -/
def Bytes.bits (bytes : Bytes) : List Bool := bytes.flatMap byteBits

theorem length_byteBits (byte : UInt8) : (byteBits byte).length = 8 := by
  simp [byteBits]

theorem getElem?_byteBits (byte : UInt8) {i : Nat} (inside : i < 8) :
    (byteBits byte)[i]? = some (byte.toBitVec.getLsbD (7 - i)) := by
  rw [byteBits, List.getElem?_map, List.getElem?_range inside, Option.map_some]

theorem Bytes.length_bits (bytes : Bytes) : bytes.bits.length = 8 * bytes.length := by
  induction bytes with
  | nil => rfl
  | cons byte rest ih =>
    simp only [bits, List.flatMap_cons, List.length_append, length_byteBits] at ih ⊢
    rw [List.length_cons]
    omega

/-- A byte none of whose bits is set is zero. -/
theorem eq_zero_of_byteBits {byte : UInt8} (clear : true ∉ byteBits byte) : byte = 0 := by
  apply UInt8.toBitVec_inj.mp
  apply BitVec.eq_of_getLsbD_eq
  intro i inside
  have absent : byte.toBitVec.getLsbD i ≠ true := by
    intro set
    apply clear
    simp only [byteBits, List.mem_map, List.mem_range]
    exact ⟨7 - i, by omega, by rw [show 7 - (7 - i) = i by omega]; exact set⟩
  simpa using absent

/-- Before the first bit that is set there are clear bits only. -/
theorem exists_first_true {bits : List Bool} {count : Nat} (counted : bits.count true = count + 1) :
    ∃ clear rest, bits = List.replicate clear false ++ true :: rest ∧ rest.count true = count := by
  induction bits with
  | nil => simp at counted
  | cons bit bits ih =>
    cases bit with
    | true => exact ⟨0, bits, rfl, by simpa using counted⟩
    | false =>
      obtain ⟨clear, rest, split, left⟩ := ih (by simpa using counted)
      exact ⟨clear + 1, rest, by rw [split]; rfl, left⟩

/-- Bits none of which is set are clear. -/
theorem eq_replicate_false {bits : List Bool} (clear : true ∉ bits) :
    bits = List.replicate bits.length false := by
  apply List.eq_replicate_iff.mpr
  refine ⟨rfl, fun bit member => ?_⟩
  cases bit with
  | true => exact absurd member clear
  | false => rfl

namespace Crc

/-! ### The register, bit by bit -/

/-- A bit in front of the register. -/
def lead (bit : Bool) : UInt16 := if bit then 0x8000 else 0

/-- Takes a bit into the register. -/
def enter (register : UInt16) (bit : Bool) : UInt16 := shift (register ^^^ lead bit)

/-- Up to 16 bits at the front of the register. -/
def front : List Bool → UInt16
  | [] => 0
  | bit :: rest => lead bit ^^^ front rest >>> 1

theorem getLsbD_lead (bit : Bool) (i : Nat) :
    (lead bit).toBitVec.getLsbD i = (bit && decide (i = 15)) := by
  cases bit with
  | false => simp [lead]
  | true =>
    have top : (lead true).toBitVec = BitVec.twoPow 16 15 := rfl
    rw [top, BitVec.getLsbD_twoPow]
    simp [eq_comm]

theorem getLsbD_half (r : UInt16) (i : Nat) :
    (r >>> 1).toBitVec.getLsbD i = r.toBitVec.getLsbD (1 + i) := by
  rw [UInt16.toBitVec_shiftRight, BitVec.ushiftRight_eq', BitVec.getLsbD_ushiftRight]
  rfl

theorem getLsbD_front (bits : List Bool) {i : Nat} (inside : i < 16) :
    (front bits).toBitVec.getLsbD i = bits.getD (15 - i) false := by
  induction bits generalizing i with
  | nil => simp [front]
  | cons bit rest ih =>
    rw [front, UInt16.toBitVec_xor, BitVec.getLsbD_xor, getLsbD_lead, getLsbD_half]
    rcases Nat.lt_or_ge i 15 with lower | upper
    · rw [ih (by omega), show 15 - i = 15 - (1 + i) + 1 by omega, List.getD_cons_succ]
      simp [Nat.ne_of_lt lower]
    · obtain rfl : i = 15 := by omega
      simp

/-- Shifting by one bit undoes what moved the register down. -/
theorem shift_half {r : UInt16} (even : r.toBitVec.getLsbD 0 = false) : shift (r >>> 1) = r := by
  apply UInt16.toBitVec_inj.mp
  rw [toBitVec_shift, getLsbD_half, BitVec.getLsbD_of_ge _ _ (by omega), if_neg (by simp)]
  apply BitVec.eq_of_getLsbD_eq
  intro i inside
  rw [BitVec.getLsbD_shiftLeft, getLsbD_half]
  cases i with
  | zero => rw [even]; rfl
  | succ i => rw [show 1 + (i + 1 - 1) = i + 1 by omega]; simp [inside]

/-- Up to 16 bits can be taken in at once. -/
theorem foldl_enter (register : UInt16) {bits : List Bool} (short : bits.length ≤ 16) :
    bits.foldl enter register = shifts bits.length (register ^^^ front bits) := by
  induction bits generalizing register with
  | nil => simp [shifts, front]
  | cons bit rest ih =>
    have shorter : rest.length ≤ 15 := Nat.le_of_succ_le_succ short
    have even : (front rest).toBitVec.getLsbD 0 = false := by
      rw [getLsbD_front rest (by omega), List.getD_eq_getElem?_getD, List.getElem?_eq_none shorter]
      rfl
    calc
      (bit :: rest).foldl enter register
          = shifts rest.length (shift (register ^^^ lead bit) ^^^ front rest) :=
        ih _ (by omega)
      _ = shifts rest.length (shift (register ^^^ lead bit) ^^^ shift (front rest >>> 1)) := by
        rw [shift_half even]
      _ = shifts rest.length (shift (register ^^^ lead bit ^^^ front rest >>> 1)) := by
        rw [← shift_xor]
      _ = shifts (bit :: rest).length (register ^^^ front (bit :: rest)) := by
        rw [UInt16.xor_assoc]
        rfl

theorem front_byteBits (byte : UInt8) : front (byteBits byte) = byte.toUInt16 <<< 8 := by
  apply UInt16.toBitVec_inj.mp
  apply BitVec.eq_of_getLsbD_eq
  intro i inside
  rw [getLsbD_front _ inside, UInt16.toBitVec_shiftLeft, BitVec.shiftLeft_eq',
    BitVec.getLsbD_shiftLeft]
  rw [List.getD_eq_getElem?_getD]
  rcases Nat.lt_or_ge i 8 with lower | upper
  · rw [List.getElem?_eq_none (by rw [length_byteBits]; omega)]
    simp [lower]
  · rw [getElem?_byteBits byte (by omega), show 7 - (15 - i) = i - 8 by omega]
    simp [inside, show ¬i < 8 by omega, show i - 8 < 16 by omega]

theorem absorb_eq_foldl_enter (register : UInt16) (byte : UInt8) :
    absorb register byte = (byteBits byte).foldl enter register := by
  rw [foldl_enter _ (by rw [length_byteBits]; decide), length_byteBits, front_byteBits]
  rfl

theorem foldl_absorb_eq_foldl_enter (register : UInt16) (bytes : Bytes) :
    bytes.foldl absorb register = bytes.bits.foldl enter register := by
  induction bytes generalizing register with
  | nil => rfl
  | cons byte rest ih =>
    rw [List.foldl_cons, ih, absorb_eq_foldl_enter, ← List.foldl_append]
    rfl

/-- The checksum takes in the bits one after the other. -/
theorem checksum_eq_foldl_enter (bytes : Bytes) : checksum bytes = bytes.bits.foldl enter 0 :=
  foldl_absorb_eq_foldl_enter 0 bytes

/-! ### Linearity -/

theorem shifts_xor (count : Nat) (a b : UInt16) :
    shifts count (a ^^^ b) = shifts count a ^^^ shifts count b := by
  induction count generalizing a b with
  | zero => rfl
  | succ count ih => rw [shifts, shift_xor, ih, shifts, shifts]

theorem shifts_zero (count : Nat) : shifts count 0 = 0 := by
  induction count with
  | zero => rfl
  | succ count ih => exact ih

theorem shifts_eq_zero_iff {count : Nat} {r : UInt16} : shifts count r = 0 ↔ r = 0 := by
  constructor
  · intro zero
    apply shifts_injective count
    rw [zero, shifts_zero]
  · intro zero
    rw [zero, shifts_zero]

theorem absorb_xor (r s : UInt16) (x y : UInt8) :
    absorb (r ^^^ s) (x ^^^ y) = absorb r x ^^^ absorb s y := by
  have bytes : (x ^^^ y).toUInt16 <<< 8 = x.toUInt16 <<< 8 ^^^ y.toUInt16 <<< 8 := by
    rw [UInt8.toUInt16_xor, UInt16.shiftLeft_xor]
  have sums : r ^^^ s ^^^ (x.toUInt16 <<< 8 ^^^ y.toUInt16 <<< 8) =
      r ^^^ x.toUInt16 <<< 8 ^^^ (s ^^^ y.toUInt16 <<< 8) := by ac_rfl
  rw [absorb, bytes, sums, shifts_xor]
  rfl

theorem foldl_absorb_xor {a b : Bytes} (same : a.length = b.length) (r s : UInt16) :
    (a.xor b).foldl absorb (r ^^^ s) = a.foldl absorb r ^^^ b.foldl absorb s := by
  induction a generalizing b r s with
  | nil =>
    rw [List.length_eq_zero_iff.mp same.symm]
    rfl
  | cons x a ih =>
    cases b with
    | nil => simp at same
    | cons y b =>
      have step := ih (by simpa using same) (absorb r x) (absorb s y)
      rw [← absorb_xor] at step
      exact step

/-- The checksum of a sum is the sum of the checksums. -/
theorem checksum_xor {a b : Bytes} (same : a.length = b.length) :
    checksum (a.xor b) = checksum a ^^^ checksum b :=
  foldl_absorb_xor same 0 0

/-! ### Frames and error patterns -/

theorem front_bits_of_length {bytes : Bytes} (two : bytes.length = 2) :
    front bytes.bits = decode bytes := by
  match bytes, two with
  | [high, low], _ =>
    apply UInt16.toBitVec_inj.mp
    apply BitVec.eq_of_getLsbD_eq
    intro i inside
    have sum : (decode [high, low]).toBitVec.getLsbD i =
        (2 ^ 8 * high.toNat + low.toNat).testBit i := by
      have number : (decode [high, low]).toBitVec =
          BitVec.ofNat 16 (2 ^ 8 * high.toNat + low.toNat) := by
        simp only [decode, Bytes.ofBigEndian, List.foldl_cons, List.foldl_nil, Nat.mul_zero,
          Nat.zero_add]
        rfl
      rw [number, BitVec.getLsbD_ofNat]
      simp [inside]
    have spread : Bytes.bits [high, low] = byteBits high ++ byteBits low := by
      simp [Bytes.bits]
    rw [getLsbD_front _ inside, sum, Nat.testBit_two_pow_mul_add _ low.toNat_lt, spread,
      List.getD_eq_getElem?_getD]
    rcases Nat.lt_or_ge i 8 with lower | upper
    · rw [if_pos lower, List.getElem?_append_right (by rw [length_byteBits]; omega),
        length_byteBits, getElem?_byteBits low (by omega), show 7 - (15 - i - 8) = i by omega]
      rfl
    · rw [if_neg (by omega), List.getElem?_append_left (by rw [length_byteBits]; omega),
        getElem?_byteBits high (by omega), show 7 - (15 - i) = i - 8 by omega]
      rfl

/-- Taking in a checksum leaves nothing in the register if it is the right one. -/
theorem foldl_absorb_sum {sum : Bytes} (two : sum.length = 2) (register : UInt16) :
    sum.foldl absorb register = shifts 16 (register ^^^ decode sum) := by
  have count : sum.bits.length = 16 := by rw [Bytes.length_bits, two]
  rw [foldl_absorb_eq_foldl_enter, foldl_enter _ (Nat.le_of_eq count), count,
    front_bits_of_length two]

/-- A content and its checksum together have the checksum zero. -/
theorem check_eq_ok_iff_checksum {buffer : Bytes} {length : Nat}
    (exactly : buffer.length = length + 2) :
    check buffer length = .ok () ↔ checksum buffer = 0 := by
  have two : (buffer.drop length).length = 2 := by
    rw [List.length_drop]
    omega
  have parts : checksum buffer =
      shifts 16 (checksum (buffer.take length) ^^^ decode (buffer.drop length)) := by
    conv => lhs; rw [← List.take_append_drop length buffer]
    rw [checksum, List.foldl_append, foldl_absorb_sum two]
    rfl
  rw [check_eq_ok_iff, parts, shifts_eq_zero_iff, UInt16.xor_eq_zero_iff, Bytes.slice,
    List.take_of_length_le (Nat.le_of_eq two)]

/-- An altered frame checks if and only if the error pattern has the checksum zero. -/
theorem check_xor_iff {buffer error : Bytes} {length : Nat} (exactly : buffer.length = length + 2)
    (covers : error.length = buffer.length) (passed : check buffer length = .ok ()) :
    check (buffer.xor error) length = .ok () ↔ checksum error = 0 := by
  rw [check_eq_ok_iff_checksum exactly] at passed
  have exactly' : (buffer.xor error).length = length + 2 := by
    rw [Bytes.length_xor]
    omega
  rw [check_eq_ok_iff_checksum exactly', checksum_xor covers.symm, passed, UInt16.zero_xor]

/-! ### Patterns with an odd number of flipped bits -/

/-- Whether an odd number of the `count` low bits is set. -/
def parity : (count : Nat) → BitVec 16 → Bool
  | 0, _ => false
  | count + 1, v => parity count v ^^ v.getLsbD count

/-- Whether an odd number of bits of the register is set. -/
def odd (r : UInt16) : Bool := parity 16 r.toBitVec

theorem parity_xor (count : Nat) (v w : BitVec 16) :
    parity count (v ^^^ w) = (parity count v ^^ parity count w) := by
  induction count with
  | zero => rfl
  | succ count ih =>
    simp only [parity, ih, BitVec.getLsbD_xor]
    rw [Bool.xor_assoc, Bool.xor_assoc, Bool.xor_left_comm (parity count w)]

theorem parity_shiftLeft (v : BitVec 16) {count : Nat} (inside : count < 16) :
    parity (count + 1) (v <<< 1) = parity count v := by
  induction count with
  | zero => simp [parity]
  | succ count ih =>
    rw [parity, ih (by omega), parity, BitVec.getLsbD_shiftLeft]
    simp [inside]

/-- The polynomial has an even number of terms, so shifting keeps the parity. -/
theorem odd_shift (r : UInt16) : odd (shift r) = odd r := by
  have low := parity_shiftLeft r.toBitVec (show 15 < 16 by decide)
  rw [odd, odd, toBitVec_shift]
  cases top : r.toBitVec.getLsbD 15 with
  | false =>
    have whole : parity 16 r.toBitVec = (parity 15 r.toBitVec ^^ false) := by rw [← top]; rfl
    rw [if_neg (by simp), low, whole, Bool.xor_false]
  | true =>
    have terms : parity 16 0x8005#16 = true := by decide
    have whole : parity 16 r.toBitVec = (parity 15 r.toBitVec ^^ true) := by rw [← top]; rfl
    rw [if_pos rfl, parity_xor, low, terms, whole]

theorem odd_xor (a b : UInt16) : odd (a ^^^ b) = (odd a ^^ odd b) := by
  rw [odd, UInt16.toBitVec_xor, parity_xor]
  rfl

theorem odd_enter (r : UInt16) (bit : Bool) : odd (enter r bit) = (odd r ^^ bit) := by
  rw [enter, odd_shift, odd_xor]
  cases bit <;> rfl

theorem odd_foldl_enter (r : UInt16) (bits : List Bool) :
    odd (bits.foldl enter r) = (odd r ^^ decide (Odd (bits.count true))) := by
  induction bits generalizing r with
  | nil => simp
  | cons bit bits ih =>
    rw [List.foldl_cons, ih, odd_enter, Bool.xor_assoc]
    congr 1
    cases bit with
    | false => simp
    | true =>
      rw [List.count_cons_self]
      by_cases before : Odd (bits.count true)
      · simp [before, Nat.odd_add_one]
      · simp [before, Nat.odd_add_one]

/-! ### Patterns with two flipped bits -/

theorem foldl_enter_clear (r : UInt16) (count : Nat) :
    (List.replicate count false).foldl enter r = shifts count r := by
  induction count generalizing r with
  | zero => rfl
  | succ count ih =>
    have plain : enter r false = shift r := by simp [enter, lead]
    rw [List.replicate_succ, List.foldl_cons, ih, plain, shifts]

/-- Whether one of the next `count` shifts of the register leads back to `start`. -/
def returns (start : UInt16) : (count : Nat) → UInt16 → Bool
  | 0, _ => false
  | count + 1, r => shift r == start || returns start count (shift r)

theorem returns_of_shifts {start r : UInt16} {count gap : Nat} (near : gap < count)
    (back : shifts (gap + 1) r = start) : returns start count r = true := by
  induction count generalizing gap r with
  | zero => exact absurd near (Nat.not_lt_zero gap)
  | succ count ih =>
    rw [returns, Bool.or_eq_true]
    cases gap with
    | zero => exact .inl (beq_iff_eq.mpr back)
    | succ gap => exact .inr (ih (by omega) back)

/-- A single bit does not come back to its place within 2047 shifts. -/
theorem returns_lead : returns 0x8000 2047 0x8000 = false := by decide +kernel

/-- What is left in the register of two bits that are set and less than 2048 apart. -/
theorem foldl_enter_double {bits : List Bool} (two : bits.count true = 2)
    (short : bits.length ≤ 2048) : bits.foldl enter 0 ≠ 0 := by
  obtain ⟨before, later, rfl, one⟩ := exists_first_true two
  obtain ⟨between, after, rfl, none⟩ := exists_first_true one
  have clear := eq_replicate_false (List.count_eq_zero.mp none)
  simp only [List.length_append, List.length_replicate, List.length_cons] at short
  intro zero
  -- All that follows the second bit loses nothing, so the first one has come back to its place.
  have first : enter 0 true = shift 0x8000 := rfl
  rw [List.foldl_append, foldl_enter_clear, shifts_zero, List.foldl_cons, first, List.foldl_append,
    foldl_enter_clear, List.foldl_cons, clear, foldl_enter_clear, shifts_eq_zero_iff] at zero
  have back : shifts (between + 1) 0x8000 = 0x8000 :=
    UInt16.xor_eq_zero_iff.mp (eq_zero_of_shift zero)
  have found := returns_of_shifts (show between < 2047 by omega) back
  rw [returns_lead] at found
  cases found

/-! ### Patterns within 16 places -/

theorem front_ne_zero {bits : List Bool} (short : bits.length ≤ 16) (set : true ∈ bits) :
    front bits ≠ 0 := by
  intro zero
  obtain ⟨i, inside, found⟩ := List.getElem_of_mem set
  have bit := getLsbD_front bits (show 15 - i < 16 by omega)
  rw [zero, show 15 - (15 - i) = i by omega, List.getD_eq_getElem?_getD,
    List.getElem?_eq_getElem inside, found] at bit
  simp at bit

theorem foldl_enter_burst {bits : List Bool} (set : true ∈ bits) {start : Nat}
    (close : ∀ i, bits[i]? = some true → start ≤ i ∧ i < start + 16) :
    bits.foldl enter 0 ≠ 0 := by
  have before : true ∉ bits.take start := by
    intro member
    obtain ⟨i, inside, found⟩ := List.getElem_of_mem member
    rw [List.getElem_take] at found
    rw [List.length_take] at inside
    have place := close i (by rw [List.getElem?_eq_getElem (by omega), found])
    omega
  have after : true ∉ bits.drop (start + 16) := by
    intro member
    obtain ⟨i, inside, found⟩ := List.getElem_of_mem member
    rw [List.getElem_drop] at found
    rw [List.length_drop] at inside
    have place := close (start + 16 + i) (by rw [List.getElem?_eq_getElem (by omega), found])
    omega
  have parts : bits = bits.take start ++ ((bits.drop start).take 16 ++ bits.drop (start + 16)) := by
    rw [← List.drop_drop, List.take_append_drop, List.take_append_drop]
  have within : true ∈ (bits.drop start).take 16 := by
    rw [parts, List.mem_append, List.mem_append] at set
    tauto
  have short : ((bits.drop start).take 16).length ≤ 16 := List.length_take_le ..
  rw [parts, List.foldl_append, List.foldl_append, eq_replicate_false before, foldl_enter_clear,
    shifts_zero, eq_replicate_false after, foldl_enter_clear, foldl_enter _ short, UInt16.zero_xor]
  intro zero
  rw [shifts_eq_zero_iff, shifts_eq_zero_iff] at zero
  exact front_ne_zero short within zero

/-! ### What is noticed for certain -/

/-- The patterns of flipped bits that a checksum notices, whatever was sent: an odd number
of bits, two bits, or any bits within 16 places. -/
inductive Recognized (bits : List Bool) : Prop
  | odd (flipped : Odd (bits.count true))
  | double (flipped : bits.count true = 2)
  | burst (start : Nat) (flipped : ∀ i, bits[i]? = some true → start ≤ i ∧ i < start + 16)

/-- Of a pattern that is recognized, something is left in the register. -/
theorem Recognized.checksum_ne_zero {error : Bytes} (recognized : Recognized error.bits)
    (some : true ∈ error.bits) (short : error.length ≤ 256) : checksum error ≠ 0 := by
  rw [checksum_eq_foldl_enter]
  cases recognized with
  | odd flipped =>
    intro zero
    have parity := odd_foldl_enter 0 error.bits
    rw [zero, decide_eq_true flipped] at parity
    exact absurd parity (by decide)
  | double flipped =>
    apply foldl_enter_double flipped
    rw [Bytes.length_bits]
    omega
  | burst start flipped => exact foldl_enter_burst some flipped

end Crc

end SecureElement
