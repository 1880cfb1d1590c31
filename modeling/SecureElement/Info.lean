import SecureElement.Error
import SecureElement.Primitives

/-!
Information that the chip gives without a session: its certificate, its identity
and the versions of its firmware.
-/

namespace SecureElement

namespace Info

/-- The length of a block. -/
def blockLength : Nat := 128

/-- The length of the certificate store. -/
def certificateLength : Nat := 512

/-- The length of the identity. -/
def chipIdLength : Nat := 128

/-- The length of a firmware version. -/
def versionLength : Nat := 4

/-- The objects that can be read. -/
inductive Object where
  | certificate
  | chipId
  | riscvVersion
  | spectVersion
deriving DecidableEq, Repr

/-- The byte of an object. -/
def Object.byte : Object → UInt8
  | certificate => 0x00
  | chipId => 0x01
  | riscvVersion => 0x02
  | spectVersion => 0x04

/-! ### The certificate -/

/-- What precedes an X25519 public key in a certificate: the end of the name of
the algorithm and the head of a bit string. -/
def keyMark : Bytes := [0x65, 0x6E, 0x03, 0x21, 0x00]

/-- What follows the first occurrence of the mark. -/
def afterMark? : Bytes → Option Bytes
  | [] => none
  | byte :: rest =>
    if keyMark.isPrefixOf (byte :: rest) then some (rest.drop (keyMark.length - 1))
    else afterMark? rest

/-- The chip's static public key: the 32 bytes behind the first mark. -/
def staticKey (certificate : Bytes) : Except HandshakeError Key :=
  match afterMark? certificate with
  | none => .error .noStaticKey
  | some rest =>
    match Octets.ofBytes? 32 (rest.take 32) with
    | none => .error .noStaticKey
    | some key => .ok key

end Info

/-! ### Versions -/

/-- A firmware version. -/
structure FirmwareVersion where
  major : UInt8
  minor : UInt8
  patch : UInt8
  build : UInt8
deriving DecidableEq, Repr

namespace FirmwareVersion

/-- Reads a version, which is stored with the major number last. -/
def ofBytes? : Bytes → Option FirmwareVersion
  | [build, patch, minor, major] => some { major, minor, patch, build }
  | _ => none

/-- The stored form. -/
def toBytes (v : FirmwareVersion) : Bytes :=
  [v.build, v.patch, v.minor, v.major]

/-- The text of a version. -/
def text (v : FirmwareVersion) : String :=
  s!"{v.major.toNat}.{v.minor.toNat}.{v.patch.toNat}+{v.build.toNat}"

theorem ofBytes?_toBytes (v : FirmwareVersion) : ofBytes? v.toBytes = some v := rfl

end FirmwareVersion

/-! ### Identity -/

/-- The identity of a chip, of which only the serial number is interpreted. -/
abbrev ChipId := Octets 128

namespace ChipId

/-- The serial number. -/
def serial (id : ChipId) : Bytes :=
  Bytes.slice id.val 16 16

/-- The identity in one line. -/
def text (id : ChipId) : String :=
  "ChipId(sn: " ++ Hex.encode id.serial ++ ")"

end ChipId

end SecureElement
