import SecureElement.Proofs.Checked.Frames
import SecureElement.Proofs.Polls
import SecureElement.Transport.Script

/-!
The codec of frames.

What the builders write, and nothing else, is what the parsers accept, on either side of
the wire (`Frame.codec_exact`): a response stands behind one byte of any value and fills
the buffer, and a request may be followed by anything. So nothing is read in two ways.
The builders write in place, a field after the other (`Frame.buildInPlace`), once they
know that there is room. What a read leaves in the buffer has the length that its length
byte says, so of such bytes the parser only doubts the checksum and the status.
-/

namespace SecureElement

namespace Frame

variable {buffer data : Bytes} {code : UInt8}

/-! ### Building -/

/-- A builder writes these bytes into some buffer, and no others into any. -/
structure Writes (build : Bytes → Except FrameError (Nat × Bytes)) (bytes : Bytes) : Prop where
  some : ∃ room length written, build room = .ok (length, written)
  same : ∀ room length written, build room = .ok (length, written) → written.take length = bytes

/-- What stands in the front after building is the frame. -/
theorem take_of_build {room written : Bytes} {length : Nat}
    (built : build room code data = .ok (length, written)) :
    data.length ≤ maxData ∧ written.take length = encode code data := by
  unfold build at built
  split at built
  · cases built
  · rename_i fits
    cases built
    rw [← length_encode code data, Bytes.take_overlay_zero]
    exact ⟨by omega, rfl⟩

/-- A frame is written if its data is not too long. -/
theorem writes_iff {bytes : Bytes} :
    Writes (build · code data) bytes ↔ data.length ≤ maxData ∧ bytes = encode code data := by
  constructor
  · rintro ⟨⟨room, length, written, built⟩, same⟩
    obtain ⟨short, front⟩ := take_of_build built
    exact ⟨short, (same _ _ _ built).symm.trans front⟩
  · rintro ⟨short, rfl⟩
    constructor
    case some => exact ⟨_, _, _, build_eq_ok code short (fits_cleared short)⟩
    case same => exact fun room length written built => (take_of_build built).2

/-- Writes a frame to the start of a buffer, a field after the other; returns how it went
and the buffer. -/
def buildInPlace (buffer : Bytes) (code : UInt8) (data : Bytes) : Except FrameError Nat × Bytes :=
  if maxData < data.length ∨ buffer.length < data.length + overhead then
    (.error (.length data.length), buffer)
  else
    let buffer := buffer.overlay 0 [UInt8.ofNat data.length]
    let buffer := buffer.overlay 1 [code]
    let buffer := buffer.overlay 2 data
    (.ok (data.length + overhead), Crc.append buffer (2 + data.length))

/-- Without room nothing is written. -/
theorem buildInPlace_of_long (long : maxData < data.length ∨ buffer.length < data.length + overhead) :
    buildInPlace buffer code data = (.error (.length data.length), buffer) :=
  if_pos long

/-- With room the frame is written, and nothing behind it. -/
theorem buildInPlace_of_fits (fits : data.length + overhead ≤ buffer.length)
    (short : data.length ≤ maxData) : buildInPlace buffer code data =
      (.ok (data.length + overhead), buffer.overlay 0 (encode code data)) := by
  have four : overhead = 4 := rfl
  have inside : 0 + (content code data).length ≤ buffer.length := by
    rw [length_content]
    omega
  have covered : 2 + data.length = 0 + (content code data).length := by
    rw [length_content]
    omega
  unfold buildInPlace
  rw [if_neg (by omega)]
  dsimp only
  rw [overlay_content code (by omega), Crc.append, covered, Bytes.take_overlay (Nat.zero_le _),
    Bytes.overlay_overlay inside]
  rfl

/-- Building is building in place. -/
theorem build_eq_inPlace (buffer : Bytes) (code : UInt8) (data : Bytes) :
    build buffer code data =
      (buildInPlace buffer code data).1.map (·, (buildInPlace buffer code data).2) := by
  by_cases long : maxData < data.length ∨ buffer.length < data.length + overhead
  case pos =>
    rw [buildInPlace_of_long long, build, if_pos long]
    rfl
  case neg =>
    have short : data.length ≤ maxData := by omega
    have fits : data.length + overhead ≤ buffer.length := by omega
    rw [buildInPlace_of_fits fits short, build_eq_ok code short fits]
    rfl

/-! ### Reading -/

/-- Two frames that begin the same bytes are one. -/
theorem eq_of_encode_append {code' : UInt8} {data' rest rest' : Bytes}
    (short : data.length ≤ maxData) (short' : data'.length ≤ maxData)
    (same : encode code data ++ rest = encode code' data' ++ rest') :
    code = code' ∧ data = data' := by
  have one : parseRequest (encode code data ++ rest) = .ok ⟨code, data⟩ :=
    parseRequest_encode short rest
  have other : parseRequest (encode code' data' ++ rest') = .ok ⟨code', data'⟩ :=
    parseRequest_encode short' rest'
  rw [same, other] at one
  cases one
  exact ⟨rfl, rfl⟩

/-- A buffer whose length is what its length byte says is not refused for its length. -/
theorem parseResponse_ne_length {first length code : UInt8} {body : Bytes}
    (exactly : body.length = length.toNat + 2) (short : length.toNat ≤ maxData) (count : Nat) :
    parseResponse (first :: length :: code :: body) ≠ .error (.length count) := by
  rw [parseResponse_of_length first code exactly short]
  unfold checkCrc readStatus
  cases Crc.check (length :: code :: body) (length.toNat + 2) with
  | error sums => exact nofun
  | ok _ => cases Status.ofByte? code <;> exact nofun

end Frame

namespace Bus

variable {c : Config} {calls : List Heard}

/-- What a read finds has the length that its length byte says. -/
theorem ReadRun.whole {tries : Nat} {outcome : Except Error Bytes}
    (run : ReadRun c tries calls outcome) {bytes : Bytes} (read : outcome = .ok bytes) :
    ∃ status length code body, bytes = status :: length :: code :: body ∧
      body.length = length.toNat + 2 ∧ length.toNat ≤ Frame.maxData := by
  induction run with
  | exhausted => cases read
  | failed polled => cases read
  | found polled =>
    cases read
    obtain ⟨status, length, code, body, same, short, exactly, -⟩ := polled.found rfl
    exact ⟨status, length, code, body, same, exactly, short⟩
  | busy polled rest ih => exact ih read

/-- What a read leaves in the buffer is not refused for its length. -/
theorem parseResponse_of_read {σ : Type} [Transport σ] {bus : Bus σ} {count : Nat}
    (ok : (perform (read c) bus).1 = .ok count) (length : Nat) :
    Frame.parseResponse ((perform (read c) bus).2.frame.take count) ≠ .error (.length length) := by
  obtain ⟨calls, outcome, -, run, counted, front⟩ :=
    read_run c ⟨bus.transport, []⟩ (room_of_read c ok)
  cases outcome with
  | error e =>
    have none := ok.symm.trans counted
    cases none
  | ok bytes =>
    have same := ok.symm.trans counted
    obtain rfl : count = bytes.length := Except.ok.inj same
    have taken : (perform (read c) bus).2.frame.take bytes.length = bytes := front bytes rfl
    obtain ⟨status, size, code, body, rfl, exactly, short⟩ := run.whole rfl
    rw [taken]
    exact Frame.parseResponse_ne_length exactly short length

end Bus

namespace Frame

/-! ### The codec -/

/-- **Builders and parsers are exact.** A parser accepts what the builder of its kind writes,
and nothing else; no bytes are what two builders write; a builder fails if and only if there
is no room, and then it leaves the buffer as it is; otherwise it leaves what is behind the
frame. What was read from the bus is not refused for its length. -/
theorem codec_exact :
    (∀ buffer reply, parseResponse buffer = .ok reply ↔
      ∃ first bytes, Writes (buildResponse · reply.status reply.data) bytes ∧
        buffer = first :: bytes) ∧
    (∀ buffer request, parseRequest buffer = .ok request ↔
      ∃ bytes rest, Writes (buildRequest · request.id request.data) bytes ∧
        buffer = bytes ++ rest) ∧
    (∀ bytes (reply other : Reply), Writes (buildResponse · reply.status reply.data) bytes →
      Writes (buildResponse · other.status other.data) bytes → reply = other) ∧
    (∀ front back rest rest' (request other : Request),
      Writes (buildRequest · request.id request.data) front →
      Writes (buildRequest · other.id other.data) back → front ++ rest = back ++ rest' →
      request = other) ∧
    (∀ buffer id data, buildRequest buffer id data =
      (buildInPlace buffer id data).1.map (·, (buildInPlace buffer id data).2)) ∧
    (∀ buffer status data, buildResponse buffer status data =
      (buildInPlace buffer status.byte data).1.map
        (·, (buildInPlace buffer status.byte data).2)) ∧
    (∀ buffer code data, (maxData < data.length ∨ buffer.length < data.length + overhead) →
      buildInPlace buffer code data = (.error (.length data.length), buffer)) ∧
    (∀ buffer code data, ¬(maxData < data.length ∨ buffer.length < data.length + overhead) →
      ∃ written, buildInPlace buffer code data = (.ok (data.length + overhead), written) ∧
        written.length = buffer.length ∧
        written.drop (data.length + overhead) = buffer.drop (data.length + overhead)) ∧
    ∀ {σ : Type} [Transport σ] (c : Config) (bus : Bus σ) (count : Nat),
      (perform (Bus.read c) bus).1 = .ok count → ∀ length,
        parseResponse ((perform (Bus.read c) bus).2.frame.take count) ≠
          .error (.length length) := by
  refine ⟨fun buffer reply => ?_, fun buffer request => ?_, fun bytes reply other one two => ?_,
    fun front back rest rest' request other one two same => ?_,
    fun buffer id data => build_eq_inPlace buffer id data,
    fun buffer status data => build_eq_inPlace buffer status.byte data,
    fun buffer code data long => buildInPlace_of_long long, fun buffer code data fits => ?_,
    fun c bus count ok length => Bus.parseResponse_of_read ok length⟩
  · rw [parseResponse_eq_ok_iff]
    constructor
    · rintro ⟨short, first, rfl⟩
      exact ⟨first, _, writes_iff.mpr ⟨short, rfl⟩, rfl⟩
    · rintro ⟨first, bytes, writes, rfl⟩
      obtain ⟨short, rfl⟩ := writes_iff.mp writes
      exact ⟨short, first, rfl⟩
  · rw [parseRequest_eq_ok_iff]
    constructor
    · rintro ⟨short, rest, rfl⟩
      exact ⟨_, rest, writes_iff.mpr ⟨short, rfl⟩, rfl⟩
    · rintro ⟨bytes, rest, writes, rfl⟩
      obtain ⟨short, rfl⟩ := writes_iff.mp writes
      exact ⟨short, rest, rfl⟩
  · obtain ⟨short, rfl⟩ := writes_iff.mp one
    obtain ⟨short', same⟩ := writes_iff.mp two
    have first : parseResponse (0x00 :: encode reply.status.byte reply.data) = .ok reply :=
      parseResponse_encode 0x00 short
    have second : parseResponse (0x00 :: encode other.status.byte other.data) = .ok other :=
      parseResponse_encode 0x00 short'
    rw [same, second] at first
    exact (Except.ok.inj first).symm
  · obtain ⟨short, rfl⟩ := writes_iff.mp one
    obtain ⟨short', rfl⟩ := writes_iff.mp two
    obtain ⟨ids, datas⟩ := eq_of_encode_append short short' same
    cases request
    cases other
    exact congrArg₂ Request.mk ids datas
  · have room : data.length + overhead ≤ buffer.length := by omega
    have size := length_encode code data
    refine ⟨_, buildInPlace_of_fits room (by omega), ?_, ?_⟩
    · exact Bytes.length_overlay (by omega)
    · exact Bytes.drop_overlay (Nat.zero_le _) (by omega)

/-- A transport whose first window brings a response. -/
def responding : Script where
  current := .plain []
  windows := [.plain (Bus.readyBit :: encode Status.requestOk.byte [0x42])]
  random := []
  entropy := .strong
  init := none
  release := none

/-- A request with a byte behind it is read, a buffer without room stays as it is, and what a
read leaves is not refused for its length. -/
theorem responding_read :
    parseRequest (encode 0x01 [0x02] ++ [0xFF]) = .ok ⟨0x01, [0x02]⟩ ∧
      buildInPlace [0x01, 0x02, 0x03] 0x01 [0x02] = (.error (.length 1), [0x01, 0x02, 0x03]) ∧
      ∃ count, (perform (Bus.read {}) (Link.start responding)).1 = .ok count ∧
        ∀ length, parseResponse
          ((perform (Bus.read {}) (Link.start responding)).2.frame.take count) ≠
            .error (.length length) := by
  obtain ⟨-, requests, -, -, -, -, refused, -, reads⟩ := codec_exact
  refine ⟨?_, refused _ _ _ (by decide), ?_⟩
  · have writes : Writes (buildRequest · 0x01 [0x02]) (encode 0x01 [0x02]) :=
      writes_iff.mpr ⟨by decide, rfl⟩
    exact (requests _ ⟨0x01, [0x02]⟩).mpr ⟨_, [0xFF], writes, rfl⟩
  · have six : (perform (Bus.read {}) (Link.start responding)).1.toOption = some 6 := by
      decide +kernel
    cases read : (perform (Bus.read {}) (Link.start responding)).1 with
    | error e =>
      rw [read] at six
      cases six
    | ok count => exact ⟨count, rfl, reads {} (Link.start responding) count read⟩

end Frame

end SecureElement
