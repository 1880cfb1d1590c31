import SecureElement.Error

/-!
The text protocol of a dongle that bridges a serial line to the bus.

A transfer is a line of upper-case digit pairs that ends in `x`, and the dongle
answers with as many digit pairs, of either case, and two more bytes. A line
`CS=0` deasserts chip select and is acknowledged.
-/

namespace SecureElement.Dongle

/-- The device that the dongle usually is. -/
def defaultDevice : String := "/dev/ttyACM0"

/-- The rate of the serial line. -/
def defaultBaudRate : UInt32 := 115200

/-- The milliseconds that the dongle needs before it answers. -/
def answerDelay : UInt32 := 10

/-- Deasserts chip select. -/
def releaseLine : Bytes := [0x43, 0x53, 0x3D, 0x30, 0x0A]

/-- The acknowledgement of `releaseLine`. -/
def acknowledgement : Bytes := [0x4F, 0x4B, 0x0D, 0x0A]

/-- The end of a transfer line. -/
def transferEnd : Bytes := [0x78, 0x0A]

/-- The number of bytes behind the digits of a reply. -/
def trailerLength : Nat := 2

/-- The upper-case digit of a value below sixteen. -/
def digit (value : UInt8) : UInt8 :=
  if value < 10 then value + 0x30 else value + 0x37

/-- The value of a digit of either case. -/
def digitValue? (c : UInt8) : Option UInt8 :=
  if 0x30 ≤ c ∧ c ≤ 0x39 then some (c - 0x30)
  else if 0x41 ≤ c ∧ c ≤ 0x46 then some (c - 0x37)
  else if 0x61 ≤ c ∧ c ≤ 0x66 then some (c - 0x57)
  else none

/-- The two digits of a byte. -/
def digits (byte : UInt8) : Bytes := [digit (byte >>> 4), digit (byte &&& 0x0F)]

/-- The byte of two digits. -/
def byteOf? (high low : UInt8) : Option UInt8 := do
  let high ← digitValue? high
  let low ← digitValue? low
  return high <<< 4 ||| low

/-- The line that transfers `data`, behind `line`. -/
def encodeTransfer (data line : Bytes) : Bytes :=
  line ++ data.flatMap digits ++ transferEnd

/-- The length of the reply to a transfer of `length` bytes. -/
def replyLength (length : Nat) : Nat := 2 * length + trailerLength

/-- Replaces bytes by what pairs of digits stand for, up to the first pair that is
none; returns whether all were replaced, and the bytes. -/
def decodePairs : Bytes → Bytes → Except TransportError Unit × Bytes
  | high :: low :: reply, byte :: out =>
    match byteOf? high low with
    | none => (.error .unexpectedReply, byte :: out)
    | some value =>
      let (result, out) := decodePairs reply out
      (result, value :: out)
  | _, out => (.ok (), out)

/-- Reads the reply to a transfer in place of the bytes that were sent. -/
def decodeReply (reply out : Bytes) : Except TransportError Unit × Bytes :=
  if reply.length = replyLength out.length then decodePairs reply out
  else (.error .unexpectedReply, out)

/-- Checks an acknowledgement. -/
def checkAcknowledgement (reply : Bytes) : Except TransportError Unit :=
  if reply = acknowledgement then .ok () else .error .unexpectedReply

theorem length_decodePairs (reply out : Bytes) : (decodePairs reply out).2.length = out.length := by
  fun_induction decodePairs reply out with
  | case1 => rfl
  | case2 high low reply byte out value h result out' step ih =>
    rw [step] at ih
    simpa using ih
  | case3 => rfl

/-- A reply replaces bytes and adds none. -/
theorem length_decodeReply (reply out : Bytes) : (decodeReply reply out).2.length = out.length := by
  unfold decodeReply
  split
  · exact length_decodePairs reply out
  · rfl

end SecureElement.Dongle
