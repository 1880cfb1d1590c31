import SecureElement.Error

/-!
The slots of the pairing keys.
-/

namespace SecureElement

/-- One of the four slots of the chip for the public keys of hosts. -/
abbrev PairingSlot := Fin 4

namespace PairingSlot

/-- The byte of a slot. -/
def byte (slot : PairingSlot) : UInt8 := UInt8.ofNat slot.val

/-- The slot of a byte. -/
def ofByte (byte : UInt8) : Except HandshakeError PairingSlot :=
  if h : byte.toNat < 4 then .ok ⟨byte.toNat, h⟩ else .error (.invalidSlot byte)

theorem ofByte_byte : ∀ slot : PairingSlot, ofByte slot.byte = .ok slot
  | 0 => rfl
  | 1 => rfl
  | 2 => rfl
  | 3 => rfl

end PairingSlot

end SecureElement
