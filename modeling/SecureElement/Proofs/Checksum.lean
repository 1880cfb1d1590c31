import SecureElement.Crc
import SecureElement.Proofs.ByteStrings

/-!
The checksum notices a changed byte.

Shifting the register is linear (`shift_xor`) and loses nothing
(`shift_injective`), so registers that differ once stay different whatever is
taken in after that. Two strings that differ in one byte therefore have
different checksums, and a string that carries its checksum no longer does once
a byte of it or of the checksum is changed (`check_alter`).
-/

namespace SecureElement.Crc

/-! ### The register -/

theorem toBitVec_shift (r : UInt16) :
    (shift r).toBitVec =
      if r.toBitVec.getLsbD 15 then r.toBitVec <<< 1 ^^^ 0x8005#16 else r.toBitVec <<< 1 := by
  have top : (r &&& 0x8000).toBitVec = if r.toBitVec.getLsbD 15 then 0x8000#16 else 0#16 :=
    BitVec.and_twoPow r.toBitVec 15
  have zero : r &&& 0x8000 = 0 ↔ r.toBitVec.getLsbD 15 = false := by
    rw [← UInt16.toBitVec_inj, top]
    cases r.toBitVec.getLsbD 15 <;> simp
  unfold shift
  cases h : r.toBitVec.getLsbD 15 with
  | false => rw [if_pos (zero.mpr h)]; rfl
  | true => rw [if_neg (by rw [zero, h]; decide)]; rfl

/-- Shifting is linear. -/
theorem shift_xor (a b : UInt16) : shift (a ^^^ b) = shift a ^^^ shift b := by
  apply UInt16.toBitVec_inj.mp
  simp only [toBitVec_shift, UInt16.toBitVec_xor, BitVec.getLsbD_xor, BitVec.shiftLeft_xor_distrib]
  generalize a.toBitVec <<< 1 = x
  generalize b.toBitVec <<< 1 = y
  have cancel : x ^^^ 0x8005#16 ^^^ (y ^^^ 0x8005#16) = x ^^^ y := by
    rw [BitVec.xor_comm y, ← BitVec.xor_assoc, BitVec.xor_assoc x, BitVec.xor_self, BitVec.xor_zero]
  have middle : x ^^^ y ^^^ 0x8005#16 = x ^^^ 0x8005#16 ^^^ y := by
    rw [BitVec.xor_assoc, BitVec.xor_comm y, ← BitVec.xor_assoc]
  cases a.toBitVec.getLsbD 15 <;> cases b.toBitVec.getLsbD 15
  · rfl
  · exact BitVec.xor_assoc x y _
  · exact middle
  · exact cancel.symm

/-- The constant term of the polynomial keeps the top bit from being lost. -/
theorem eq_zero_of_shift {r : UInt16} (h : shift r = 0) : r = 0 := by
  have bits := congrArg UInt16.toBitVec h
  rw [toBitVec_shift] at bits
  cases top : r.toBitVec.getLsbD 15 with
  | true =>
    have low := congrArg (fun v => v.getLsbD 0) bits
    simp [top] at low
  | false =>
    simp only [top, Bool.false_eq_true, if_false] at bits
    apply UInt16.toBitVec_inj.mp
    apply BitVec.eq_of_getLsbD_eq
    intro i hi
    rcases Nat.lt_or_ge i 15 with lower | upper
    · have moved := congrArg (fun v => v.getLsbD (i + 1)) bits
      simp only [BitVec.getLsbD_shiftLeft] at moved
      simpa [show i + 1 < 16 by omega] using moved
    · obtain rfl : i = 15 := by omega
      simpa using top

theorem shift_injective : Function.Injective shift := by
  intro a b same
  have zero : shift (a ^^^ b) = 0 := by rw [shift_xor, same, UInt16.xor_self]
  exact UInt16.xor_eq_zero_iff.mp (eq_zero_of_shift zero)

theorem shifts_injective (count : Nat) : Function.Injective (shifts count) := by
  induction count with
  | zero => exact fun _ _ same => same
  | succ count ih => exact fun _ _ same => shift_injective (ih same)

/-- Registers that differ still differ after a byte. -/
theorem absorb_injective (byte : UInt8) :
    Function.Injective fun register => absorb register byte := by
  intro a b same
  exact (UInt16.xor_left_inj _).mp (shifts_injective 8 same)

/-- Different bytes lead to different registers. -/
theorem absorb_byte_injective (register : UInt16) : Function.Injective (absorb register) := by
  intro x y same
  have shifted : x.toUInt16 <<< 8 = y.toUInt16 <<< 8 :=
    (UInt16.xor_right_inj _).mp (shifts_injective 8 same)
  have numbers := congrArg UInt16.toNat shifted
  have hx := x.toNat_lt
  have hy := y.toNat_lt
  simp only [UInt16.toNat_shiftLeft, UInt8.toNat_toUInt16, Nat.shiftLeft_eq] at numbers
  rw [show UInt16.toNat 8 % 16 = 8 from rfl] at numbers
  apply UInt8.toNat_inj.mp
  omega

theorem foldl_absorb_injective (bytes : Bytes) :
    Function.Injective fun register => bytes.foldl absorb register := by
  induction bytes with
  | nil => exact fun _ _ same => same
  | cons byte rest ih => exact fun _ _ same => absorb_injective byte (ih same)

/-- Strings that differ in one byte have different checksums. -/
theorem checksum_replace_ne {x y : UInt8} (differ : x ≠ y) (front back : Bytes) :
    checksum (front ++ x :: back) ≠ checksum (front ++ y :: back) := by
  intro same
  simp only [checksum, List.foldl_append, List.foldl_cons] at same
  exact differ (absorb_byte_injective _ (foldl_absorb_injective back same))

/-! ### Checking -/

theorem decode_encode (sum : UInt16) : decode (encode sum) = sum := by
  have size := sum.toNat_lt
  apply UInt16.toNat_inj.mp
  simp only [decode, encode, Bytes.bigEndian, Bytes.littleEndian, Bytes.ofBigEndian]
  simp only [List.reverse_cons, List.reverse_nil, List.nil_append, List.cons_append,
    List.foldl_cons, List.foldl_nil, UInt8.toNat_ofNat', UInt16.toNat_ofNat']
  omega

theorem decode_injective {a b : Bytes} (ha : a.length = 2) (hb : b.length = 2)
    (same : decode a = decode b) : a = b := by
  match a, b, ha, hb with
  | [a₀, a₁], [b₀, b₁], _, _ =>
    have numbers := congrArg UInt16.toNat same
    have h₀ := a₀.toNat_lt
    have h₁ := a₁.toNat_lt
    have h₂ := b₀.toNat_lt
    have h₃ := b₁.toNat_lt
    simp only [decode, Bytes.ofBigEndian, List.foldl_cons, List.foldl_nil,
      UInt16.toNat_ofNat'] at numbers
    have first : a₀ = b₀ := UInt8.toNat_inj.mp (by omega)
    have second : a₁ = b₁ := UInt8.toNat_inj.mp (by omega)
    rw [first, second]

theorem check_eq_ok_iff {buffer : Bytes} {length : Nat} :
    check buffer length = .ok () ↔
      checksum (buffer.take length) = decode (buffer.slice length 2) := by
  simp only [check]
  split
  · rename_i same
    simp [same]
  · rename_i differ
    simp [differ]

/-- A content with its checksum behind it passes, whatever follows. -/
theorem check_append (content rest : Bytes) :
    check (content ++ encode (checksum content) ++ rest) content.length = .ok () := by
  rw [check_eq_ok_iff, List.append_assoc, List.take_left, Bytes.slice, List.drop_left]
  rw [List.take_append_of_le_length (by simp), List.take_of_length_le (by simp), decode_encode]

/-- Once a byte of a checked content or of its checksum is changed, the check
fails. -/
theorem check_alter {buffer : Bytes} {length index : Nat} {change : UInt8 → UInt8}
    (exactly : buffer.length = length + 2) (inside : index < buffer.length)
    (changes : ∀ byte, change byte ≠ byte) (passed : check buffer length = .ok ()) :
    check (buffer.alter index change) length ≠ .ok () := by
  rw [check_eq_ok_iff] at passed
  rw [Ne, check_eq_ok_iff]
  simp only [Bytes.alter, Bytes.slice] at passed ⊢
  rcases Nat.lt_or_ge index length with content | sum
  · -- The received checksum is the old one and the content has a new one.
    have within : index < (buffer.take length).length := by simp; omega
    rw [List.drop_modify_of_lt _ _ _ _ content, ← passed, List.take_modify,
      List.modify_eq_take_cons_drop within]
    conv => rhs; rhs; rw [← List.take_append_drop index (buffer.take length)]
    rw [List.drop_eq_getElem_cons within]
    exact checksum_replace_ne (changes _) _ _
  · -- The content is as it was and the received checksum is not.
    intro same
    have kept : List.take length (List.modify buffer index change) = buffer.take length := by
      rw [List.take_modify, List.modify_eq_self (by simp; omega)]
    rw [kept, passed] at same
    have tails := decode_injective (by simp; omega) (by simp; omega) same
    rw [List.drop_modify_of_ge _ _ _ _ sum] at tails
    rw [List.take_of_length_le (by simp; omega), List.take_of_length_le (by simp; omega)] at tails
    have bytes := congrArg (fun l => l[index - length]?) tails
    simp only [List.getElem?_modify_eq, List.getElem?_drop] at bytes
    rw [show length + (index - length) = index by omega, List.getElem?_eq_getElem inside] at bytes
    exact changes _ (Option.some.inj bytes).symm

end SecureElement.Crc
