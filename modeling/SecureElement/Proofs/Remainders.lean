import Mathlib
import SecureElement.Proofs.Patterns

/-!
The checksum as a remainder.

Bits are the coefficients of a polynomial over the field of two elements, the first one
leading (`ofBits`), and the register holds a polynomial of degree less than 16
(`ofRegister`). Taking in a bit multiplies the register by X, adds the bit in front and
subtracts a multiple of the generator (`dvd_enter`), so what is left of a byte string is
the remainder of its polynomial, moved up by 16 places (`ofRegister_checksum`). A buffer
therefore checks if and only if the checksum of content and sum together is zero, and
only the sum that `append` writes does (`checksum_is_remainder`).
-/

namespace SecureElement

open Polynomial

namespace Crc

/-! ### Polynomials -/

/-- A bit as a coefficient. -/
def coefficient (bit : Bool) : ZMod 2 := if bit then 1 else 0

/-- The polynomial of some bits, the leading coefficient first. -/
noncomputable def ofBits : List Bool → (ZMod 2)[X]
  | [] => 0
  | bit :: rest => C (coefficient bit) * X ^ rest.length + ofBits rest

/-- The polynomial in a register, the constant term in the lowest bit. -/
noncomputable def ofRegister (register : UInt16) : (ZMod 2)[X] :=
  ∑ i ∈ Finset.range 16, C (coefficient (register.toBitVec.getLsbD i)) * X ^ i

/-- The polynomial by which is divided. -/
noncomputable def generator : (ZMod 2)[X] := X ^ 16 + X ^ 15 + X ^ 2 + 1

end Crc

/-- The polynomial of a byte string, whose first bit is the leading coefficient. -/
noncomputable def Bytes.polynomial (bytes : Bytes) : (ZMod 2)[X] := Crc.ofBits bytes.bits

namespace Crc

theorem coefficient_xor (a b : Bool) : coefficient (a ^^ b) = coefficient a + coefficient b := by
  cases a <;> cases b <;> decide

theorem coefficient_injective : Function.Injective coefficient := by
  unfold Function.Injective
  decide

theorem coeff_ofRegister (register : UInt16) (i : Nat) :
    (ofRegister register).coeff i = coefficient (register.toBitVec.getLsbD i) := by
  simp only [ofRegister, finsetSum_coeff, coeff_C_mul_X_pow, Finset.sum_ite_eq, Finset.mem_range]
  split
  · rfl
  · rw [BitVec.getLsbD_of_ge _ _ (by omega)]
    rfl

theorem ofRegister_injective : Function.Injective ofRegister := by
  intro a b same
  apply UInt16.toBitVec_inj.mp
  apply BitVec.eq_of_getLsbD_eq
  intro i _
  have coefficients := congrArg (fun p => p.coeff i) same
  simp only [coeff_ofRegister] at coefficients
  exact coefficient_injective coefficients

theorem ofRegister_zero : ofRegister 0 = 0 := by
  ext i
  rw [coeff_ofRegister, coeff_zero, show (0 : UInt16).toBitVec = 0#16 from rfl,
    BitVec.getLsbD_zero]
  rfl

theorem ofRegister_xor (a b : UInt16) : ofRegister (a ^^^ b) = ofRegister a + ofRegister b := by
  ext i
  rw [coeff_add, coeff_ofRegister, coeff_ofRegister, coeff_ofRegister, UInt16.toBitVec_xor,
    BitVec.getLsbD_xor, coefficient_xor]

theorem ofRegister_lead (bit : Bool) :
    ofRegister (lead bit) = C (coefficient bit) * X ^ 15 := by
  ext i
  rw [coeff_ofRegister, getLsbD_lead, coeff_C_mul_X_pow]
  by_cases top : i = 15
  · simp [top]
  · simp [top, coefficient]

/-- The generator is what the register is reduced by, with its leading term. -/
theorem generator_eq : generator = X ^ 16 + ofRegister polynomial := by
  have bits : ∀ i : Fin 16, coefficient (polynomial.toBitVec.getLsbD i) =
      (if i.val = 15 then 1 else 0) + (if i.val = 2 then 1 else 0) +
        if i.val = 0 then 1 else 0 := by decide
  have terms : ofRegister polynomial = X ^ 15 + X ^ 2 + 1 := by
    ext i
    rw [coeff_ofRegister, coeff_add, coeff_add, coeff_X_pow, coeff_X_pow, coeff_one]
    rcases Nat.lt_or_ge i 16 with low | high
    · exact bits ⟨i, low⟩
    · rw [BitVec.getLsbD_of_ge _ _ high, if_neg (by omega), if_neg (by omega),
        if_neg (by omega)]
      rfl
  rw [terms, generator]
  ring

theorem generator_monic : generator.Monic := by
  unfold generator
  monicity!

theorem degree_generator : generator.degree = 16 := by
  unfold generator
  compute_degree!

theorem degree_ofRegister_lt (register : UInt16) :
    (ofRegister register).degree < generator.degree := by
  rw [degree_generator]
  refine (degree_lt_iff_coeff_zero _ 16).mpr fun i high => ?_
  rw [coeff_ofRegister, BitVec.getLsbD_of_ge _ _ high]
  rfl

/-! ### Division -/

/-- A shift to the left drops the top bit. -/
theorem X_mul_ofRegister (r : UInt16) :
    X * ofRegister r =
      ofRegister (r <<< 1) + C (coefficient (r.toBitVec.getLsbD 15)) * X ^ 16 := by
  have shifted : (r <<< 1).toBitVec = r.toBitVec <<< 1 := rfl
  ext i
  rw [coeff_add, coeff_C_mul_X_pow, coeff_ofRegister, shifted, BitVec.getLsbD_shiftLeft]
  cases i with
  | zero => simp [coefficient]
  | succ i =>
    rw [coeff_X_mul, coeff_ofRegister]
    rcases Nat.lt_trichotomy i 15 with lower | rfl | higher
    · simp [show i + 1 < 16 by omega, show i ≠ 15 by omega]
    · simp [coefficient]
    · simp [BitVec.getLsbD_of_ge _ _ (show 16 ≤ i by omega), coefficient, Nat.ne_of_gt higher]

theorem shift_eq_ite (r : UInt16) :
    shift r = if r.toBitVec.getLsbD 15 then r <<< 1 ^^^ polynomial else r <<< 1 := by
  apply UInt16.toBitVec_inj.mp
  rw [toBitVec_shift, apply_ite UInt16.toBitVec]
  rfl

/-- What a shift drops is subtracted as a multiple of the generator. -/
theorem X_mul_sub_ofRegister_shift (r : UInt16) :
    X * ofRegister r - ofRegister (shift r) =
      C (coefficient (r.toBitVec.getLsbD 15)) * generator := by
  have reduced : ofRegister (shift r) = ofRegister (r <<< 1) +
      C (coefficient (r.toBitVec.getLsbD 15)) * ofRegister polynomial := by
    rw [shift_eq_ite]
    cases r.toBitVec.getLsbD 15 with
    | false => simp [coefficient]
    | true => simp [ofRegister_xor, coefficient]
  rw [X_mul_ofRegister, reduced, add_sub_add_left_eq_sub, ← mul_sub, CharTwo.sub_eq_add,
    ← generator_eq]

/-- A bit that is taken in enters in front of the register, which moves up. -/
theorem dvd_enter (r : UInt16) (bit : Bool) :
    generator ∣ X * ofRegister r + C (coefficient bit) * X ^ 16 - ofRegister (enter r bit) := by
  have front : X * ofRegister r + C (coefficient bit) * X ^ 16 =
      X * ofRegister (r ^^^ lead bit) := by
    rw [ofRegister_xor, ofRegister_lead]
    ring
  rw [front, enter, X_mul_sub_ofRegister_shift]
  exact Dvd.intro_left _ rfl

/-- Bits that are taken in enter behind the register, which moves up by their number. -/
theorem dvd_foldl_enter (r : UInt16) (bits : List Bool) :
    generator ∣ X ^ bits.length * ofRegister r + ofBits bits * X ^ 16 -
      ofRegister (bits.foldl enter r) := by
  induction bits generalizing r with
  | nil => simp [ofBits]
  | cons bit rest ih =>
    -- What the first bit leaves in the register is moved up by the bits behind it.
    have step := (dvd_enter r bit).mul_left (X ^ rest.length)
    have parts := dvd_add step (ih (enter r bit))
    rw [List.foldl_cons, List.length_cons, ofBits]
    convert parts using 1
    ring

/-- The checksum is the remainder of the string, moved up by 16 places. -/
theorem ofRegister_checksum (bytes : Bytes) :
    ofRegister (checksum bytes) = (bytes.polynomial * X ^ 16) %ₘ generator := by
  have congruent := dvd_foldl_enter 0 bytes.bits
  rw [ofRegister_zero, mul_zero, zero_add, ← checksum_eq_foldl_enter] at congruent
  calc
    ofRegister (checksum bytes) = ofRegister (checksum bytes) %ₘ generator :=
      ((modByMonic_eq_self_iff generator_monic).mpr (degree_ofRegister_lt _)).symm
    _ = (bytes.polynomial * X ^ 16) %ₘ generator :=
      (modByMonic_eq_of_dvd_sub generator_monic congruent).symm

/-! ### Checking -/

/-- A buffer checks if and only if content and sum together have the checksum zero. -/
theorem check_iff_checksum_eq_zero {buffer : Bytes} {length : Nat}
    (holds : length + 2 ≤ buffer.length) :
    check buffer length = .ok () ↔ checksum (buffer.take (length + 2)) = 0 := by
  have content : (buffer.take (length + 2)).take length = buffer.take length := by
    rw [List.take_take, Nat.min_eq_left (by omega)]
  have sum : Bytes.slice (buffer.take (length + 2)) length 2 = buffer.slice length 2 := by
    rw [Bytes.slice, Bytes.slice, List.drop_take, Nat.add_sub_cancel_left, List.take_take,
      Nat.min_self]
  rw [← check_eq_ok_iff_checksum (List.length_take_of_le holds), check_eq_ok_iff, check_eq_ok_iff,
    content, sum]

/-- A pair of bytes is accepted if and only if it is the checksum as it is sent. -/
theorem check_overlay_iff {buffer : Bytes} {length : Nat} (holds : length + 2 ≤ buffer.length)
    (sum : Octets 2) :
    check (buffer.overlay length sum.val) length = .ok () ↔
      sum.val = encode (checksum (buffer.take length)) := by
  have inside : length ≤ buffer.length := by omega
  rw [check_eq_ok_iff, Bytes.take_overlay_of_le inside (Nat.le_refl length),
    Bytes.slice_overlay_of_length inside sum.property]
  constructor
  · intro same
    apply decode_injective sum.property (length_encode _)
    rw [decode_encode, same]
  · intro same
    rw [same, decode_encode]

/-- The checksum is the remainder of the string, moved up by 16 places, modulo the
generator. So it is linear; a buffer checks if and only if content and sum together have
the checksum zero; and one sum alone is accepted behind a content, the one that is
appended to it. -/
theorem checksum_is_remainder :
    (∀ (bytes : Bytes) (register : UInt16), checksum bytes = register ↔
      ofRegister register = (bytes.polynomial * X ^ 16) %ₘ (X ^ 16 + X ^ 15 + X ^ 2 + 1)) ∧
    (∀ a b : Bytes, a.length = b.length → checksum (a.xor b) = checksum a ^^^ checksum b) ∧
    ∀ (buffer : Bytes) (length : Nat), length + 2 ≤ buffer.length →
      (check buffer length = .ok () ↔ checksum (buffer.take (length + 2)) = 0) ∧
      check (append buffer length) length = .ok () ∧
      ∃! sum : Octets 2, check (buffer.overlay length sum.val) length = .ok () := by
  refine ⟨fun bytes register => ?_, fun a b same => checksum_xor same,
    fun buffer length holds => ?_⟩
  · rw [← generator, ← ofRegister_checksum, ofRegister_injective.eq_iff, eq_comm]
  · have accepted := check_overlay_iff holds
    refine ⟨check_iff_checksum_eq_zero holds, (accepted ⟨_, length_encode _⟩).mpr rfl,
      ⟨_, length_encode _⟩, (accepted _).mpr rfl, fun sum checked => ?_⟩
    exact Subtype.ext ((accepted sum).mp checked)

/-- The remainder of a text; the checksum of a sum of texts; and a buffer in which the
checksum of its first two bytes is appended to them. -/
theorem digits_remainder :
    ofRegister 0xFEE8 =
        ((Bytes.ofText "123456789").polynomial * X ^ 16) %ₘ (X ^ 16 + X ^ 15 + X ^ 2 + 1) ∧
      checksum (Bytes.xor [0x12, 0x34] [0x43, 0x21]) =
        checksum [0x12, 0x34] ^^^ checksum [0x43, 0x21] ∧
      check (append [0x12, 0x34, 0xFF, 0xFF, 0xFF] 2) 2 = .ok () ∧
      ∃! sum : Octets 2,
        check (Bytes.overlay [0x12, 0x34, 0xFF, 0xFF, 0xFF] 2 sum.val) 2 = .ok () := by
  obtain ⟨remainder, linear, checks⟩ := checksum_is_remainder
  obtain ⟨-, appended, one⟩ := checks [0x12, 0x34, 0xFF, 0xFF, 0xFF] 2 (by decide)
  exact ⟨(remainder _ _).mp checksum_digits, linear _ _ rfl, appended, one⟩

end Crc

end SecureElement
