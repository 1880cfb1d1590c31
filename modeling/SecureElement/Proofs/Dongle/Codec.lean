import SecureElement.Dongle

/-!
What the lines of a dongle say.

The dongle may spell a reply in many ways: each digit in either case, with any two bytes
behind the digits (`Dongle.Spells`). However it is spelled, it is read as the bytes that
it spells (`decodeReply_of_spells`). The other way, a line that the host writes says what
it was made from (`Order.ofLine?_line`), to one who reads digits of either case.
-/

namespace SecureElement.Dongle

/-! ### Digits -/

/-- The lower-case digit of a value below sixteen. -/
def lowerDigit (value : UInt8) : UInt8 :=
  if value < 10 then value + 0x30 else value + 0x57

/-- Whether a character is the digit of a value, in upper or in lower case. -/
def Denotes (value c : UInt8) : Prop := c = digit value ∨ c = lowerDigit value

theorem digitValue?_digits (value : UInt8) : value < 16 →
    digitValue? (digit value) = some value ∧ digitValue? (lowerDigit value) = some value := by
  obtain ⟨⟨number⟩⟩ := value
  revert number
  decide +kernel

theorem digitValue?_of_denotes {value c : UInt8} (small : value < 16) (denotes : Denotes value c) :
    digitValue? c = some value := by
  rcases denotes with rfl | rfl
  · exact (digitValue?_digits value small).1
  · exact (digitValue?_digits value small).2

theorem shiftRight_lt (byte : UInt8) : byte >>> 4 < 16 := by
  obtain ⟨⟨number⟩⟩ := byte
  revert number
  decide +kernel

theorem and_lt (byte : UInt8) : byte &&& 0x0F < 16 := by
  obtain ⟨⟨number⟩⟩ := byte
  revert number
  decide +kernel

/-- A byte is put together from its halves. -/
theorem halves (byte : UInt8) : (byte >>> 4) <<< 4 ||| (byte &&& 0x0F) = byte := by
  obtain ⟨⟨number⟩⟩ := byte
  revert number
  decide +kernel

theorem byteOf?_of_denotes {byte high low : UInt8} (first : Denotes (byte >>> 4) high)
    (second : Denotes (byte &&& 0x0F) low) : byteOf? high low = some byte := by
  unfold byteOf?
  rw [digitValue?_of_denotes (shiftRight_lt byte) first,
    digitValue?_of_denotes (and_lt byte) second]
  exact congrArg some (halves byte)

/-! ### Replies -/

/-- A reply to a transfer in which `bytes` come in: the digits of each byte, and two more
bytes. -/
inductive Spells : (bytes reply : Bytes) → Prop
  | trailer {trailer : Bytes} (length : trailer.length = trailerLength) : Spells [] trailer
  | byte {byte high low : UInt8} {bytes reply : Bytes} (first : Denotes (byte >>> 4) high)
      (second : Denotes (byte &&& 0x0F) low) (spells : Spells bytes reply) :
      Spells (byte :: bytes) (high :: low :: reply)

variable {bytes reply : Bytes}

theorem Spells.length (spells : Spells bytes reply) :
    reply.length = replyLength bytes.length := by
  induction spells with
  | trailer length => exact length
  | byte _ _ _ ih =>
    simp only [List.length_cons, ih, replyLength]
    omega

/-- What follows the digits is not read. -/
theorem decodePairs_nil (reply : Bytes) : decodePairs reply [] = (.ok (), []) := by
  rw [decodePairs]
  exact nofun

theorem decodePairs_of_spells (spells : Spells bytes reply) {out : Bytes}
    (same : out.length = bytes.length) : decodePairs reply out = (.ok (), bytes) := by
  induction spells generalizing out with
  | trailer =>
    rw [List.eq_nil_of_length_eq_zero same]
    exact decodePairs_nil _
  | byte first second _ ih =>
    cases out with
    | nil => cases same
    | cons _ out =>
      rw [decodePairs, byteOf?_of_denotes first second]
      rw [ih (Nat.succ.inj same)]

/-- A reply is read as what it spells. -/
theorem decodeReply_of_spells (spells : Spells bytes reply) {out : Bytes}
    (same : out.length = bytes.length) : decodeReply reply out = (.ok (), bytes) := by
  rw [decodeReply, if_pos (by rw [spells.length, same])]
  exact decodePairs_of_spells spells same

/-! ### Lines -/

/-- What a line asks of the dongle. -/
inductive Order where
  | transfer (data : Bytes)
  | release
deriving DecidableEq

/-- Reads pairs of digits up to the end of a transfer line. -/
def decodeTransfer? : Bytes → Option Bytes
  | high :: low :: rest =>
    match byteOf? high low with
    | some byte => (decodeTransfer? rest).map (byte :: ·)
    | none => if high :: low :: rest = transferEnd then some [] else none
  | _ => none

/-- The line of an order. -/
def Order.line : Order → Bytes
  | transfer data => encodeTransfer data []
  | release => releaseLine

/-- The order that a line stands for. -/
def Order.ofLine? (line : Bytes) : Option Order :=
  if line = releaseLine then some .release else (decodeTransfer? line).map .transfer

theorem decodeTransfer?_digits (data : Bytes) :
    decodeTransfer? (data.flatMap digits ++ transferEnd) = some data := by
  induction data with
  | nil => decide
  | cons byte data ih =>
    change (match byteOf? (digit (byte >>> 4)) (digit (byte &&& 0x0F)) with
      | some byte => (decodeTransfer? (data.flatMap digits ++ transferEnd)).map (byte :: ·)
      | none => _) = _
    rw [byteOf?_of_denotes (.inl rfl) (.inl rfl)]
    dsimp only
    rw [ih]
    rfl

theorem length_encodeTransfer (data : Bytes) :
    (encodeTransfer data []).length = 2 * data.length + transferEnd.length := by
  induction data with
  | nil => rfl
  | cons byte data ih =>
    simp only [encodeTransfer, List.nil_append, List.flatMap_cons, List.length_append] at ih ⊢
    rw [Nat.add_assoc, ih, List.length_cons, show (digits byte).length = 2 from rfl]
    omega

/-- A line says what it was made from. -/
theorem Order.ofLine?_line (order : Order) : ofLine? order.line = some order := by
  cases order with
  | release => exact if_pos rfl
  | transfer data =>
    -- The two kinds of line differ in that one has an even length and the other an odd one.
    have other : encodeTransfer data [] ≠ releaseLine := by
      intro same
      have length := length_encodeTransfer data
      rw [same, show releaseLine.length = 5 from rfl, show transferEnd.length = 2 from rfl] at length
      omega
    refine (if_neg other).trans ?_
    exact congrArg (Option.map Order.transfer) (decodeTransfer?_digits data)

end SecureElement.Dongle
