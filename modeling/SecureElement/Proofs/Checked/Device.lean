import SecureElement.Proofs.Checked.Command
import SecureElement.Proofs.Checked.Session
import SecureElement.Proofs.Histories

/-!
Accesses of the operations of a device that do not use the packet buffer.

They are the plain ones over the checked link. Besides, the certificate is searched
for the chip's key, and identities and versions are taken apart; nothing is known of
these but their lengths, which are checked first.
-/

namespace SecureElement

open Checked CheckedM

/-! ### Information -/

namespace Info

/-- Where the mark first occurs. -/
def markIndex? : Bytes → Option Nat
  | [] => none
  | byte :: rest =>
    if keyMark.isPrefixOf (byte :: rest) then some 0
    else (markIndex? rest).map (· + 1)

/-- The chip's static public key: the 32 bytes behind the first mark, if there are as
many. -/
def checkedStaticKey (certificate : Bytes) : Checked (Except HandshakeError Key) :=
  match markIndex? certificate with
  | none => return .error .noStaticKey
  | some index => do
    let start ← add 64 index keyMark.length
    let stop ← add 64 start 32
    if stop ≤ certificate.length then return .ok (← fixed 32 (certificate.slice start 32))
    else return .error .noStaticKey

theorem afterMark?_eq (certificate : Bytes) :
    afterMark? certificate =
      (markIndex? certificate).map fun index => certificate.drop (index + keyMark.length) := by
  induction certificate with
  | nil => rfl
  | cons byte rest ih =>
    rw [afterMark?, markIndex?]
    split
    · rfl
    · rw [ih, Option.map_map]
      congr 1

/-- The mark lies within the certificate. -/
theorem markIndex?_le {certificate : Bytes} {index : Nat}
    (found : markIndex? certificate = some index) :
    index + keyMark.length ≤ certificate.length := by
  induction certificate generalizing index with
  | nil => cases found
  | cons byte rest ih =>
    rw [markIndex?] at found
    split at found
    case isTrue starts =>
      cases found
      have whole := (List.isPrefixOf_iff_prefix.mp starts).length_le
      omega
    case isFalse =>
      obtain ⟨before, found', rfl⟩ := Option.map_eq_some_iff.mp found
      have inside := ih found'
      rw [List.length_cons]
      omega

theorem checkedStaticKey_eq {certificate : Bytes} (short : certificate.length < 2 ^ 63) :
    checkedStaticKey certificate = .ok (staticKey certificate) := by
  rw [checkedStaticKey, staticKey, afterMark?_eq]
  cases found : markIndex? certificate with
  | none => rfl
  | some index =>
    have inside := markIndex?_le found
    dsimp only [Option.map_some]
    rw [add_eq (by omega), ok_bind, add_eq (by omega), ok_bind, ← Bytes.slice]
    by_cases room : index + keyMark.length + 32 ≤ certificate.length
    · obtain ⟨key, same⟩ : ∃ key : Key,
          key.val = certificate.slice (index + keyMark.length) 32 :=
        ⟨⟨_, Bytes.length_slice room⟩, rfl⟩
      rw [if_pos room, ← same, fixed_val, Octets.ofBytes?_val]
      rfl
    · have few : (certificate.slice (index + keyMark.length) 32).length ≠ 32 := by
        rw [Bytes.slice, List.length_take, List.length_drop]
        omega
      rw [if_neg room, Octets.ofBytes?, dif_neg few]
      rfl

end Info

/-- Reads a version, which is stored with the major number last. -/
def FirmwareVersion.checkedOfBytes? (bytes : Bytes) : Checked (Option FirmwareVersion) :=
  if bytes.length ≠ Info.versionLength then return none
  else do
    let major ← byte bytes 3
    let minor ← byte bytes 2
    let patch ← byte bytes 1
    let build ← byte bytes 0
    return some { major, minor, patch, build }

theorem FirmwareVersion.checkedOfBytes?_eq (bytes : Bytes) :
    checkedOfBytes? bytes = .ok (ofBytes? bytes) := by
  match bytes with
  | [] => rfl
  | [_] => rfl
  | [_, _] => rfl
  | [_, _, _] => rfl
  | [_, _, _, _] => rfl
  | _ :: _ :: _ :: _ :: _ :: rest =>
    rw [checkedOfBytes?, if_pos (by simp [Info.versionLength])]
    rfl

namespace Device

variable {σ : Type}

/-! ### Operations on the link -/

/-- Runs an action on the bus. -/
def checkedOnBus {α : Type} (act : Config → CheckedM (Bus σ) Error α) :
    CheckedM (Device σ) Error α :=
  ExceptT.mk fun device => do
    let (result, bus) ← trial (act device.config) device.bus
    return (result, { device with bus })

/-- The frame buffer has the length that it was made with. -/
def Framed (device : Device σ) : Prop := device.bus.Framed

theorem agrees_onBus {α : Type} {act' : Config → CheckedM (Bus σ) Error α}
    {act : Config → BusM σ α} (agrees : ∀ c, Agrees Bus.Framed (act' c) (act c)) :
    Agrees Framed (checkedOnBus act') (onBus act) := by
  intro device framed
  change (do let (result, bus) ← trial (act' device.config) device.bus; _) = _
  rw [agrees device.config device.bus framed]
  rfl

/-- What is promised wherever one starts, is promised where the frame buffer has its
length. -/
theorem contract_framed {α : Type} {Q : α → Prop} {E : Error → Prop} {act : DeviceM σ α}
    (contract : ∀ start, Contract (OnBus start) Q E act) : Contract Framed Q E act := by
  intro before framed
  obtain ⟨⟨bus, kept, same⟩, promised⟩ := contract before before (.refl framed)
  exact ⟨same ▸ kept, promised⟩

variable [Transport σ]

/-- Reads a block of an information object. -/
def checkedGetInfo (object block : UInt8) : CheckedM (Device σ) Error Bytes :=
  checkedOnBus fun c => Link.checkedTransceive c RequestId.getInfo [object, block]

/-- Reads `count` blocks of the certificate from `block` on. -/
def checkedCertificateBlocks : (count : Nat) → (block : UInt8) → CheckedM (Device σ) Error Bytes
  | 0, _ => return []
  | count + 1, block => do
    let data ← checkedGetInfo Info.Object.certificate.byte block
    if data.length ≠ Info.blockLength then
      throw Command.malformed
    return data ++ (← checkedCertificateBlocks count (block + 1))

/-- Reads the certificate. -/
def checkedCertificate : CheckedM (Device σ) Error Bytes :=
  checkedCertificateBlocks (Info.certificateLength / Info.blockLength) 0

/-- Reads the identity. -/
def checkedChipId : CheckedM (Device σ) Error ChipId := do
  let data ← checkedGetInfo Info.Object.chipId.byte 0
  if data.length ≠ Info.chipIdLength then
    throw Command.malformed
  else look fun _ => fixed Info.chipIdLength data

/-- Reads a version. -/
def checkedVersion (object : Info.Object) : CheckedM (Device σ) Error FirmwareVersion := do
  let data ← checkedGetInfo object.byte 0
  match ← look fun _ => FirmwareVersion.checkedOfBytes? data with
  | some version => return version
  | none => throw Command.malformed

theorem agrees_getInfo (object block : UInt8) :
    Agrees Framed (checkedGetInfo object block : CheckedM (Device σ) Error Bytes)
      (onBus fun c => Link.getInfo c object block) :=
  agrees_onBus fun c => Link.agrees_transceive c _ _

/-- What is read is whatever the chip answers. -/
theorem agrees_infoThen {α : Type} {checked : Bytes → CheckedM (Device σ) Error α}
    {next : Bytes → DeviceM σ α} (object block : UInt8)
    (agrees : ∀ data, Agrees Framed (checked data) (next data)) :
    Agrees Framed (checkedGetInfo object block >>= checked)
      ((onBus fun c => Link.getInfo c object block) >>= next) :=
  .bind (agrees_getInfo object block) (contract_framed fun _ => contract_getInfo object block)
    fun data _ => agrees data

theorem agrees_certificateBlocks (count : Nat) (block : UInt8) :
    Agrees Framed (checkedCertificateBlocks count block : CheckedM (Device σ) Error Bytes)
      (certificateBlocks count block) := by
  induction count generalizing block with
  | zero => exact .pure _
  | succ count ih =>
    refine agrees_infoThen _ _ fun data => ?_
    refine .ite (fun _ => ?_) fun _ => ?_
    · exact .bind (Q := fun _ => False) (.throw _) (.throw (E := fun _ => True) trivial) nofun
    · exact .bind (ih (block + 1))
        (contract_framed fun _ => contract_certificateBlocks _ _) fun _ _ => .pure _

theorem agrees_certificate :
    Agrees Framed (checkedCertificate : CheckedM (Device σ) Error Bytes) certificate :=
  agrees_certificateBlocks _ _

theorem agrees_chipId :
    Agrees Framed (checkedChipId : CheckedM (Device σ) Error ChipId) chipId := by
  refine agrees_infoThen _ _ fun data => ?_
  by_cases whole : data.length = Info.chipIdLength
  · obtain ⟨id, rfl⟩ : ∃ id : ChipId, id.val = data := ⟨⟨data, whole⟩, rfl⟩
    have read : Octets.ofBytes? Info.chipIdLength id.val = some id := Octets.ofBytes?_val id
    rw [if_neg (not_not.mpr whole), read]
    exact .calc_pure (fixed_val id)
  · rw [if_pos whole, Octets.ofBytes?, dif_neg whole]
    exact .throw _

theorem agrees_version (object : Info.Object) :
    Agrees Framed (checkedVersion object : CheckedM (Device σ) Error FirmwareVersion)
      (version object) := by
  refine agrees_infoThen _ _ fun data => ?_
  refine .calc_bind (FirmwareVersion.checkedOfBytes?_eq data) ?_
  cases FirmwareVersion.ofBytes? data with
  | some version => exact .pure _
  | none => exact .throw _

/-! ### Sessions -/

section

variable [Primitives]

/-- Runs the handshake with a chip of known static public key. -/
def checkedSessionStart (chipPublic : Key) (pairing : Pairing) :
    CheckedM (Device σ) Error Unit := do
  plain expectNoSession
  plain (modify fun device => { device with state := .awaitingHandshake })
  plain checkEntropy
  let ephemeral ← plain (onBus fun _ => Bus.random 32)
  let suite := (← plain get).config.suite
  let host : Initiator :=
    { suite, ephemeral, chipPublic
      hostPrivate := pairing.secret
      hostPublic := pairing.publicKey
      slot := pairing.slot }
  let ephemeralPublic ← look fun _ => host.checkedEphemeral
  let response ← tryCatch
    (checkedOnBus fun c => Link.checkedHandshake c ephemeralPublic pairing.slot.byte)
    fun e => throw (rejectedHandshake e)
  match ← look fun _ => host.checkedFinish response with
  | .error cause => throw (.handshake cause)
  | .ok keys =>
    plain (modify fun device =>
      { device with session := some (Session.forHost suite keys), state := .established })

/-- Reads the chip's static public key from its certificate and runs the
handshake. -/
def checkedVerifyAndStart (pairing : Pairing) : CheckedM (Device σ) Error Unit := do
  plain expectNoSession
  let certificate ← checkedCertificate
  match ← look fun _ => Info.checkedStaticKey certificate with
  | .error cause => throw (.handshake cause)
  | .ok chipPublic => checkedSessionStart chipPublic pairing

omit [Transport σ] [Primitives] in
theorem contract_expectNoSession :
    Contract Framed (fun _ => True) (fun _ => True) (expectNoSession : DeviceM σ Unit) :=
  .bind .get fun _ _ => .ite (fun _ => .throw trivial) fun _ => .pure trivial

omit [Primitives] in
theorem contract_checkEntropy :
    Contract Framed (fun _ => True) (fun _ => True) (checkEntropy : DeviceM σ Unit) :=
  .bind .get fun _ _ => .ite (fun _ => .throw trivial) fun _ => .pure trivial

theorem agrees_sessionStart (chipPublic : Key) (pairing : Pairing) :
    Agrees Framed (checkedSessionStart chipPublic pairing : CheckedM (Device σ) Error Unit)
      (sessionStart chipPublic pairing) := by
  refine .bind (.plain _) contract_expectNoSession fun _ _ => ?_
  refine .bind (.plain _) (.modify (E := fun _ => True) fun _ framed => framed) fun _ _ => ?_
  refine .bind (.plain _) contract_checkEntropy fun _ _ => ?_
  refine .bind (.plain _)
    (contract_framed fun _ => contract_onBus fun _ => Bus.behaves_lift _) fun ephemeral _ => ?_
  refine .bind (.plain _) (.get (E := fun _ => True)) fun device _ => ?_
  refine .calc_bind (Initiator.checkedEphemeral_eq _) ?_
  have meets (key : Key) : Agrees Framed
      (checkedOnBus fun c => Link.checkedHandshake c key pairing.slot.byte :
        CheckedM (Device σ) Error Bytes)
      (onBus fun c => Link.handshake c key pairing.slot.byte) :=
    agrees_onBus fun c => Link.agrees_handshake c _ _
  have promises (key : Key) : Contract Framed (·.length ≤ Frame.maxData) Error.OfLink
      (onBus fun c => Link.handshake c key pairing.slot.byte : DeviceM σ Bytes) :=
    contract_framed fun _ => contract_onBus fun c => Link.behaves_transceive c _ _
  refine .bind (.tryCatch (meets _) (promises _) fun e _ => .throw _)
    (.tryCatch (E := fun _ => True) (promises _) fun e _ => .throw trivial) fun response _ => ?_
  refine .calc_bind (Initiator.checkedFinish_eq _ response) ?_
  rcases Initiator.finish _ response with cause | keys
  · exact .throw _
  · exact .plain _

theorem agrees_verifyAndStart (pairing : Pairing) :
    Agrees Framed (checkedVerifyAndStart pairing : CheckedM (Device σ) Error Unit)
      (verifyAndStart pairing) := by
  refine .bind (.plain _) contract_expectNoSession fun _ _ => ?_
  refine .bind agrees_certificate (contract_framed fun _ => contract_certificate)
    fun certificate whole => ?_
  refine .calc_bind (Info.checkedStaticKey_eq (by rw [whole]; decide)) ?_
  cases Info.staticKey certificate with
  | error cause => exact .throw _
  | ok chipPublic => exact agrees_sessionStart chipPublic pairing

end

/-! ### Ends of sessions -/

/-- Ends the session on both sides. -/
def checkedSessionAbort : CheckedM (Device σ) Error Unit := do
  if (← plain get).session.isSome then
    plain (modify fun device => device.endSession .awaitingHandshake)
    checkedOnBus fun c => do let _ ← Link.checkedTransceive c RequestId.sessionAbort []

/-- Puts the chip to sleep; deep sleep ends the session. -/
def checkedSleep (kind : SleepKind) : CheckedM (Device σ) Error Unit := do
  if kind = .deepSleep ∧ (← plain get).session.isSome then
    plain (modify fun device => device.endSession .awaitingHandshake)
  checkedOnBus fun c => do let _ ← Link.checkedTransceive c RequestId.sleep [kind.byte]

/-- Restarts the chip, which ends the session. -/
def checkedReboot (kind : StartupKind) : CheckedM (Device σ) Error Unit := do
  if (← plain get).session.isSome then
    plain (modify fun device => device.endSession .awaitingHandshake)
  checkedOnBus fun c => do let _ ← Link.checkedTransceive c RequestId.startup [kind.byte]

/-- A request whose answer is not used. -/
theorem agrees_request (id : UInt8) (data : Bytes) :
    Agrees Framed
      (checkedOnBus fun c => do let _ ← Link.checkedTransceive c id data :
        CheckedM (Device σ) Error Unit)
      (onBus fun c => do let _ ← Link.transceive c id data) :=
  agrees_onBus fun c =>
    .bind (Link.agrees_transceive c id data) (Link.behaves_transceive c id data) fun _ _ => .pure _

omit [Transport σ] in
/-- Dropping the session leaves the frame buffer as it is. -/
theorem agrees_afterDrop {α : Type} {checked : CheckedM (Device σ) Error α} {act : DeviceM σ α}
    (agrees : Agrees Framed checked act) :
    Agrees Framed
      (plain (modify fun device => device.endSession .awaitingHandshake) >>= fun _ => checked)
      (modify (fun device => device.endSession .awaitingHandshake) >>= fun _ => act) :=
  .bind (.plain _) (.modify (E := fun _ => True) fun _ framed => framed) fun _ _ => agrees

theorem agrees_sessionAbort :
    Agrees Framed (checkedSessionAbort : CheckedM (Device σ) Error Unit) sessionAbort :=
  .bind (.plain _) (.get (E := fun _ => True)) fun _ _ =>
    .ite (fun _ => agrees_afterDrop (agrees_request _ _)) fun _ => .pure _

theorem agrees_sleep (kind : SleepKind) :
    Agrees Framed (checkedSleep kind : CheckedM (Device σ) Error Unit) (sleep kind) :=
  .bind (.plain _) (.get (E := fun _ => True)) fun _ _ =>
    .ite (fun _ => agrees_afterDrop (agrees_request _ _)) fun _ => agrees_request _ _

theorem agrees_reboot (kind : StartupKind) :
    Agrees Framed (checkedReboot kind : CheckedM (Device σ) Error Unit) (reboot kind) :=
  .bind (.plain _) (.get (E := fun _ => True)) fun _ _ =>
    .ite (fun _ => agrees_afterDrop (agrees_request _ _)) fun _ => agrees_request _ _

end Device

end SecureElement
