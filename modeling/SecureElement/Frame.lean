import SecureElement.Crc
import SecureElement.Error

/-!
Frames: requests to the chip and its responses.

A request is `[length][id][data][checksum]` and a response, behind the chip
status byte, is `[length][status][data][checksum]`; the checksum covers what
precedes it and the data has at most 252 bytes. Both are one layout, `encode`,
which the builders write into a buffer and the parsers accept.
-/

namespace SecureElement.Frame

/-- The greatest number of data bytes in a frame. -/
def maxData : Nat := 252

/-- The bytes of a frame beside its data. -/
def overhead : Nat := 4

/-- The most bytes that one chip-select window exchanges: the chip status and a
full frame. -/
def maxLength : Nat := 1 + maxData + overhead

/-- A request as the chip sees it. -/
structure Request where
  id : UInt8
  data : Bytes
deriving DecidableEq, Repr

/-- A response as the host sees it. -/
structure Reply where
  status : Status
  data : Bytes
deriving DecidableEq, Repr

/-! ### Writing -/

/-- Length, code and data. -/
def content (code : UInt8) (data : Bytes) : Bytes :=
  UInt8.ofNat data.length :: code :: data

/-- A frame: the content and its checksum. -/
def encode (code : UInt8) (data : Bytes) : Bytes :=
  content code data ++ Crc.encode (Crc.checksum (content code data))

/-- Writes a frame to the start of a buffer; returns its length and the buffer. -/
def build (buffer : Bytes) (code : UInt8) (data : Bytes) : Except FrameError (Nat × Bytes) :=
  if maxData < data.length ∨ buffer.length < data.length + overhead then
    .error (.length data.length)
  else .ok (data.length + overhead, buffer.overlay 0 (encode code data))

/-- Writes a request to the start of a buffer. -/
def buildRequest (buffer : Bytes) (id : UInt8) (data : Bytes) : Except FrameError (Nat × Bytes) :=
  build buffer id data

/-- Writes a response, without chip status, to the start of a buffer. -/
def buildResponse (buffer : Bytes) (status : Status) (data : Bytes) :
    Except FrameError (Nat × Bytes) :=
  build buffer status.byte data

/-! ### Reading -/

/-- Checks the checksum behind the first `length` bytes. -/
def checkCrc (buffer : Bytes) (length : Nat) : Except FrameError Unit :=
  (Crc.check buffer length).mapError fun (expected, received) => .crc expected received

/-- Reads a status byte. -/
def readStatus (byte : UInt8) : Except FrameError Status :=
  match Status.ofByte? byte with
  | some status => .ok status
  | none => .error (.unknownStatus byte)

/-- Reads a response with the chip status byte in front; it has to fill the
buffer. -/
def parseResponse (buffer : Bytes) : Except FrameError Reply :=
  if h : buffer.length < 5 then .error (.length buffer.length)
  else
    let length := buffer[1].toNat
    if maxData < length ∨ buffer.length ≠ length + 5 then .error (.length length)
    else do
      checkCrc (buffer.drop 1) (length + 2)
      let status ← readStatus buffer[2]
      return ⟨status, buffer.slice 3 length⟩

/-- Reads a request from the bytes of a window; bytes behind it are ignored. -/
def parseRequest (buffer : Bytes) : Except FrameError Request :=
  if h : buffer.length < overhead then .error (.length buffer.length)
  else
    have : 4 ≤ buffer.length := Nat.le_of_not_lt h
    let length := buffer[0].toNat
    if maxData < length ∨ buffer.length < length + overhead then .error (.length length)
    else do
      checkCrc buffer (length + 2)
      return ⟨buffer[1], buffer.slice 2 length⟩

/-! ### Long packets -/

/-- The pieces of at most 252 bytes that a packet travels in; `count` bounds
their number. -/
def chunksUpTo : (count : Nat) → Bytes → List Bytes
  | 0, _ => []
  | count + 1, packet =>
    if packet = [] then []
    else packet.take maxData :: chunksUpTo count (packet.drop maxData)

/-- The pieces of at most 252 bytes that a packet travels in: all but the last
are full, and an empty packet has none. -/
def chunks (packet : Bytes) : List Bytes :=
  chunksUpTo packet.length packet

theorem length_encode (code : UInt8) (data : Bytes) :
    (encode code data).length = data.length + overhead := by
  simp [encode, content, overhead]

/-- A frame is written as a whole or not at all. -/
theorem length_of_build {buffer buffer' data : Bytes} {code : UInt8} {length : Nat}
    (h : build buffer code data = .ok (length, buffer')) : buffer'.length = buffer.length := by
  unfold build at h
  split at h
  · simp at h
  · rename_i fits
    simp only [Except.ok.injEq, Prod.mk.injEq] at h
    rw [← h.2]
    apply Bytes.length_overlay
    rw [length_encode]
    omega

end SecureElement.Frame
