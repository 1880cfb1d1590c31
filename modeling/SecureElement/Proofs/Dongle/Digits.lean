import SecureElement.Proofs.Dongle.Codec

/-!
Digits of transfers and of replies.

A transfer is written as two digits for each byte, in upper case, behind what the line
holds already. A reply is read if and only if it has the length that goes with the transfer
and is made of digits up to its trailer (`decodeReply_eq_ok_iff`); the case of a digit and
the trailer do not matter. What was read is written as the digits of the reply in upper case
(`digits_of_decodeReply`), so the two are inverse to each other, up to the case
(`hex_exact`).
-/

namespace SecureElement.Dongle

/-! ### Characters -/

/-- The digits of either case. -/
def IsDigit (c : UInt8) : Prop :=
  (0x30 ≤ c ∧ c ≤ 0x39) ∨ (0x41 ≤ c ∧ c ≤ 0x46) ∨ (0x61 ≤ c ∧ c ≤ 0x66)

/-- The digits without those in lower case. -/
def IsUpperDigit (c : UInt8) : Prop :=
  (0x30 ≤ c ∧ c ≤ 0x39) ∨ (0x41 ≤ c ∧ c ≤ 0x46)

/-- A character in upper case. -/
def upperCase (c : UInt8) : UInt8 :=
  if 0x61 ≤ c ∧ c ≤ 0x7A then c - 0x20 else c

/-- The character that ends a line. -/
def newline : UInt8 := 0x0A

instance (c : UInt8) : Decidable (IsDigit c) :=
  inferInstanceAs (Decidable (_ ∨ _))

instance (c : UInt8) : Decidable (IsUpperDigit c) :=
  inferInstanceAs (Decidable (_ ∨ _))

theorem isUpperDigit_digit (value : UInt8) : value < 16 → IsUpperDigit (digit value) := by
  obtain ⟨⟨number⟩⟩ := value
  revert number
  decide +kernel

theorem isSome_digitValue?_iff (c : UInt8) : (digitValue? c).isSome ↔ IsDigit c := by
  obtain ⟨⟨number⟩⟩ := c
  revert number
  decide +kernel

/-- The value of a digit is below sixteen, and its upper-case digit is the digit in upper
case. -/
theorem digit_digitValue? (c : UInt8) :
    ∀ value ∈ digitValue? c, value < 16 ∧ digit value = upperCase c := by
  obtain ⟨⟨number⟩⟩ := c
  revert number
  decide +kernel

/-- No digit ends a line. -/
theorem newline_not_upperDigit : ¬IsUpperDigit newline := by decide

/-! ### Pairs -/

/-- The halves of a byte that was put together from two values. -/
theorem halves_join {high low : UInt8} (highSmall : high < 16) (lowSmall : low < 16) :
    (high <<< 4 ||| low) >>> 4 = high ∧ (high <<< 4 ||| low) &&& 0x0F = low := by
  have all : ∀ m n : Fin 16, (UInt8.ofNat m <<< 4 ||| UInt8.ofNat n) >>> 4 = UInt8.ofNat m ∧
      (UInt8.ofNat m <<< 4 ||| UInt8.ofNat n) &&& 0x0F = UInt8.ofNat n := by
    decide +kernel
  have pair := all ⟨high.toNat, highSmall⟩ ⟨low.toNat, lowSmall⟩
  simpa using pair

/-- Two characters are read as a byte if both are digits. -/
theorem isSome_byteOf?_iff {high low : UInt8} :
    (byteOf? high low).isSome ↔ IsDigit high ∧ IsDigit low := by
  rw [← isSome_digitValue?_iff, ← isSome_digitValue?_iff]
  unfold byteOf?
  cases digitValue? high <;> cases digitValue? low <;> simp

/-- The byte that two digits are read as has these digits, in upper case. -/
theorem digits_byteOf? {high low byte : UInt8} (read : byteOf? high low = some byte) :
    digits byte = [upperCase high, upperCase low] := by
  unfold byteOf? at read
  obtain ⟨first, readFirst, read⟩ := Option.bind_eq_some_iff.mp read
  obtain ⟨second, readSecond, read⟩ := Option.bind_eq_some_iff.mp read
  cases read
  obtain ⟨firstSmall, firstDigit⟩ := digit_digitValue? high first readFirst
  obtain ⟨secondSmall, secondDigit⟩ := digit_digitValue? low second readSecond
  obtain ⟨front, back⟩ := halves_join firstSmall secondSmall
  rw [digits, front, back, firstDigit, secondDigit]

/-! ### Replies -/

variable {reply out : Bytes}

/-- There is a pair where there is room for one. -/
theorem exists_pair {count : Nat} (long : 2 * (count + 1) ≤ reply.length) :
    ∃ high low rest, reply = high :: low :: rest ∧ 2 * count ≤ rest.length := by
  match reply with
  | [] => cases long
  | [_] => simp only [List.length_singleton] at long; omega
  | high :: low :: rest =>
    simp only [List.length_cons] at long
    exact ⟨high, low, rest, rfl, by omega⟩

/-- Pairs are replaced to the end if there are only digits up to there. -/
theorem decodePairs_eq_ok_iff (long : 2 * out.length ≤ reply.length) :
    (decodePairs reply out).1 = .ok () ↔ ∀ c ∈ reply.take (2 * out.length), IsDigit c := by
  induction out generalizing reply with
  | nil => simp [decodePairs_nil]
  | cons byte out ih =>
    obtain ⟨high, low, rest, rfl, shorter⟩ := exists_pair long
    have pair : (byteOf? high low).isSome ↔ IsDigit high ∧ IsDigit low := isSome_byteOf?_iff
    rw [decodePairs]
    cases read : byteOf? high low with
    | none =>
      rw [read] at pair
      have other : ¬(IsDigit high ∧ IsDigit low) := by
        intro both
        cases pair.mpr both
      constructor
      · intro ok
        cases ok
      · intro all
        refine absurd ⟨all high ?_, all low ?_⟩ other <;> simp [Nat.mul_succ]
    | some value =>
      rw [read] at pair
      have both : IsDigit high ∧ IsDigit low := pair.mp rfl
      simpa [Nat.mul_succ, both] using ih shorter

/-- What pairs were replaced by has the digits of the pairs, in upper case. -/
theorem digits_of_decodePairs (long : 2 * out.length ≤ reply.length)
    (ok : (decodePairs reply out).1 = .ok ()) :
    (decodePairs reply out).2.flatMap digits = (reply.take (2 * out.length)).map upperCase := by
  induction out generalizing reply with
  | nil => simp [decodePairs_nil]
  | cons byte out ih =>
    obtain ⟨high, low, rest, rfl, shorter⟩ := exists_pair long
    rw [decodePairs] at ok ⊢
    cases read : byteOf? high low with
    | none =>
      rw [read] at ok
      cases ok
    | some value =>
      rw [read] at ok
      simpa [Nat.mul_succ, digits_byteOf? read] using ih shorter ok

/-- A reply is read if and only if it is as long as it has to be and there are only digits
in front of its trailer. -/
theorem decodeReply_eq_ok_iff :
    (decodeReply reply out).1 = .ok () ↔
      reply.length = 2 * out.length + 2 ∧ ∀ c ∈ reply.take (2 * out.length), IsDigit c := by
  unfold decodeReply
  split
  · rename_i length
    have length : reply.length = 2 * out.length + 2 := length
    rw [decodePairs_eq_ok_iff (by omega)]
    exact ⟨fun all => ⟨length, all⟩, And.right⟩
  · rename_i length
    exact ⟨nofun, fun both => absurd both.1 length⟩

/-- What a reply is read as has its digits, in upper case. -/
theorem digits_of_decodeReply (ok : (decodeReply reply out).1 = .ok ()) :
    (decodeReply reply out).2.flatMap digits = (reply.take (2 * out.length)).map upperCase := by
  obtain ⟨length, -⟩ := decodeReply_eq_ok_iff.mp ok
  have decoded : decodeReply reply out = decodePairs reply out := if_pos length
  rw [decoded] at ok ⊢
  exact digits_of_decodePairs (by omega) ok

/-! ### Transfers -/

theorem length_digits (data : Bytes) : (data.flatMap digits).length = 2 * data.length := by
  have whole := length_encodeTransfer data
  rw [encodeTransfer, List.nil_append, List.length_append] at whole
  omega

theorem isUpperDigit_of_mem {data : Bytes} {c : UInt8} (mem : c ∈ data.flatMap digits) :
    IsUpperDigit c := by
  obtain ⟨byte, -, digit⟩ := List.mem_flatMap.mp mem
  rw [digits, List.mem_cons, List.mem_singleton] at digit
  rcases digit with rfl | rfl
  · exact isUpperDigit_digit _ (shiftRight_lt byte)
  · exact isUpperDigit_digit _ (and_lt byte)

/-- The digits of a transfer, with any trailer, are a reply that spells it. -/
theorem spells_digits (data : Bytes) {trailer : Bytes} (length : trailer.length = trailerLength) :
    Spells data (data.flatMap digits ++ trailer) := by
  induction data with
  | nil => exact .trailer length
  | cons byte data ih => exact .byte (.inl rfl) (.inl rfl) ih

theorem digits_injective : Function.Injective fun data : Bytes => data.flatMap digits := by
  intro data other same
  have one := decodeTransfer?_digits data
  have two := decodeTransfer?_digits other
  rw [show data.flatMap digits = other.flatMap digits from same] at one
  exact Option.some.inj (one.symm.trans two)

/-- A line ends with the only newline in it. -/
theorem encodeTransfer_eq_concat (data : Bytes) :
    ∃ front, encodeTransfer data [] = front ++ [newline] ∧ newline ∉ front := by
  refine ⟨data.flatMap digits ++ [0x78], ?_, ?_⟩
  · rw [List.append_assoc]
    rfl
  · rw [List.mem_append]
    rintro (digit | suffix)
    · exact newline_not_upperDigit (isUpperDigit_of_mem digit)
    · exact absurd suffix (by decide)

/-- **Transfers and replies are exact.** Behind what a line holds a transfer is written as
two upper-case digits for each byte and the end of the line, and such digits with any
trailer are read as the bytes that they were made from. A reply is read if and only if it
has two digits, of either case, for each byte that was sent, and a trailer behind them;
what was read is written as these digits in upper case. Different transfers are written as
different lines, and a line reaches to the first newline. -/
theorem hex_exact :
    (∀ data line, ∃ text, encodeTransfer data line = line ++ text ++ transferEnd ∧
      text.length = 2 * data.length ∧ (∀ c ∈ text, IsUpperDigit c) ∧
      ∀ first second out, out.length = data.length →
        decodeReply (text ++ [first, second]) out = (.ok (), data)) ∧
    (∀ reply out, (decodeReply reply out).1 = .ok () ↔
      reply.length = 2 * out.length + 2 ∧ ∀ c ∈ reply.take (2 * out.length), IsDigit c) ∧
    (∀ reply out decoded, decodeReply reply out = (.ok (), decoded) → ∀ line,
      encodeTransfer decoded line =
        line ++ (reply.take (2 * out.length)).map upperCase ++ transferEnd) ∧
    (∀ data other line, encodeTransfer data line = encodeTransfer other line → data = other) ∧
    ∀ data rest, (encodeTransfer data []).count newline = 1 ∧
      (encodeTransfer data [] ++ rest).takeWhile (· ≠ newline) ++ [newline] =
        encodeTransfer data [] := by
  refine ⟨fun data line => ⟨data.flatMap digits, rfl, length_digits data,
    fun c => isUpperDigit_of_mem, fun first second out same => ?_⟩,
    fun reply out => decodeReply_eq_ok_iff, fun reply out decoded ok line => ?_,
    fun data other line same => ?_, fun data rest => ?_⟩
  · exact decodeReply_of_spells (spells_digits data rfl) same
  · have written := digits_of_decodeReply (congrArg Prod.fst ok)
    rw [ok] at written
    rw [encodeTransfer, written]
  · unfold encodeTransfer at same
    rw [List.append_left_inj, List.append_right_inj] at same
    exact digits_injective same
  · obtain ⟨front, line, absent⟩ := encodeTransfer_eq_concat data
    have before : ∀ c ∈ front, decide (c ≠ newline) = true :=
      fun c mem => decide_eq_true fun same => absent (same ▸ mem)
    rw [line]
    constructor
    · rw [List.count_append, List.count_eq_zero.mpr absent]
      rfl
    · rw [List.append_assoc, List.takeWhile_append_of_pos before]
      simp

end SecureElement.Dongle
