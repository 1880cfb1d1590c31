import SecureElement.Bytes

/-!
The result byte in front of what the chip returns for a command.
-/

namespace SecureElement

/-- How the chip answers a command. -/
inductive ResultCode where
  | ok
  | fail
  | unauthorized
  | invalidCmd
  | rMemWriteFail
  | slotExpired
  | eccInvalidKey
  | mCounterUpdateErr
  | counterInvalid
  | pairingKeyEmpty
  | pairingKeyInvalid
deriving DecidableEq, Repr

namespace ResultCode

/-- The byte of a result. -/
def byte : ResultCode → UInt8
  | ok => 0xC3
  | fail => 0x3C
  | unauthorized => 0x01
  | invalidCmd => 0x02
  | rMemWriteFail => 0x10
  | slotExpired => 0x11
  | eccInvalidKey => 0x12
  | mCounterUpdateErr => 0x13
  | counterInvalid => 0x14
  | pairingKeyEmpty => 0x15
  | pairingKeyInvalid => 0x16

/-- The result of a byte. -/
def ofByte? : UInt8 → Option ResultCode
  | 0xC3 => some ok
  | 0x3C => some fail
  | 0x01 => some unauthorized
  | 0x02 => some invalidCmd
  | 0x10 => some rMemWriteFail
  | 0x11 => some slotExpired
  | 0x12 => some eccInvalidKey
  | 0x13 => some mCounterUpdateErr
  | 0x14 => some counterInvalid
  | 0x15 => some pairingKeyEmpty
  | 0x16 => some pairingKeyInvalid
  | _ => none

/-- The name of a result in error texts. -/
def name : ResultCode → String
  | ok => "Ok"
  | fail => "Fail"
  | unauthorized => "Unauthorized"
  | invalidCmd => "InvalidCmd"
  | rMemWriteFail => "RMemWriteFail"
  | slotExpired => "SlotExpired"
  | eccInvalidKey => "EccInvalidKey"
  | mCounterUpdateErr => "MCounterUpdateErr"
  | counterInvalid => "CounterInvalid"
  | pairingKeyEmpty => "PairingKeyEmpty"
  | pairingKeyInvalid => "PairingKeyInvalid"

@[simp] theorem ofByte?_byte (code : ResultCode) : ofByte? code.byte = some code := by
  cases code <;> rfl

theorem ofByte?_eq_some_iff {b : UInt8} {code : ResultCode} :
    ofByte? b = some code ↔ code.byte = b := by
  constructor
  · intro h
    unfold ofByte? at h
    split at h <;> first | (cases h; rfl) | simp at h
  · rintro rfl
    exact ofByte?_byte code

end ResultCode

end SecureElement
