import SecureElement.Bytes

/-!
The status byte of a response frame.

The twelve statuses have distinct bytes, so a byte names at most one of them
(`ofByte?_eq_some_iff`).
-/

namespace SecureElement

/-- How the chip answers a request. -/
inductive Status where
  | requestOk
  | resultOk
  | requestCont
  | resultCont
  | respDisabled
  | handshakeErr
  | noSession
  | tagErr
  | crcErr
  | unknownReq
  | genErr
  | noResp
deriving DecidableEq, Repr

namespace Status

/-- The byte of a status. -/
def byte : Status → UInt8
  | requestOk => 0x01
  | resultOk => 0x02
  | requestCont => 0x03
  | resultCont => 0x04
  | respDisabled => 0x78
  | handshakeErr => 0x79
  | noSession => 0x7A
  | tagErr => 0x7B
  | crcErr => 0x7C
  | unknownReq => 0x7E
  | genErr => 0x7F
  | noResp => 0xFF

/-- The status of a byte. -/
def ofByte? : UInt8 → Option Status
  | 0x01 => some requestOk
  | 0x02 => some resultOk
  | 0x03 => some requestCont
  | 0x04 => some resultCont
  | 0x78 => some respDisabled
  | 0x79 => some handshakeErr
  | 0x7A => some noSession
  | 0x7B => some tagErr
  | 0x7C => some crcErr
  | 0x7E => some unknownReq
  | 0x7F => some genErr
  | 0xFF => some noResp
  | _ => none

/-- The name of a status in error texts. -/
def name : Status → String
  | requestOk => "RequestOk"
  | resultOk => "ResultOk"
  | requestCont => "RequestCont"
  | resultCont => "ResultCont"
  | respDisabled => "RespDisabled"
  | handshakeErr => "HandshakeErr"
  | noSession => "NoSession"
  | tagErr => "TagErr"
  | crcErr => "CrcErr"
  | unknownReq => "UnknownReq"
  | genErr => "GenErr"
  | noResp => "NoResp"

@[simp] theorem ofByte?_byte (status : Status) : ofByte? status.byte = some status := by
  cases status <;> rfl

theorem ofByte?_eq_some_iff {b : UInt8} {status : Status} :
    ofByte? b = some status ↔ status.byte = b := by
  constructor
  · intro h
    unfold ofByte? at h
    split at h <;> first | (cases h; rfl) | simp at h
  · rintro rfl
    exact ofByte?_byte status

end Status

end SecureElement
