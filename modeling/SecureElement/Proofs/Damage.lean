import SecureElement.Proofs.Authorship
import SecureElement.Proofs.Patterns

/-!
Frames with flipped bits.

A response that is damaged by a pattern which the checksum recognizes is refused: for its
length if the length byte was hit, since a response has to fill its buffer, and for its
checksum in every other case (`response_damage_noticed`).

A request need not fill its window. If a single bit of it is flipped behind the length
byte, it is refused for its checksum; but a length byte that has become smaller makes a
shorter request of it, which is accepted if the data happens to carry the checksum of
that request (`parseRequest_flipped`). This does happen (`reboot_in_damaged_request`).
-/

namespace SecureElement

namespace Frame

variable {id code length chipStatus : UInt8} {data body error : Bytes} {status : Status}

/-! ### Refused frames -/

/-- A content that is not followed by its checksum is refused with both sums. -/
theorem exists_crc_of_check {buffer : Bytes} {count : Nat}
    (failed : Crc.check buffer count ≠ .ok ()) :
    ∃ expected received, expected ≠ received ∧
      checkCrc buffer count = .error (.crc expected received) := by
  have differ : Crc.checksum (buffer.take count) ≠ Crc.decode (buffer.slice count 2) := by
    rw [Ne, ← Crc.check_eq_ok_iff]
    exact failed
  refine ⟨_, _, differ, ?_⟩
  rw [checkCrc, Crc.check, if_neg differ]
  rfl

/-- A response whose length byte does not go with its buffer is refused for it. -/
theorem parseResponse_of_length_ne (two : 2 ≤ body.length)
    (differ : body.length ≠ length.toNat + 2) :
    parseResponse (chipStatus :: length :: code :: body) = .error (.length length.toNat) := by
  unfold parseResponse
  rw [dif_neg (by simp; omega)]
  dsimp only [List.getElem_cons_succ, List.getElem_cons_zero]
  rw [if_pos]
  right
  simp only [List.length_cons]
  omega

/-- A request whose length byte goes past its window is refused for it. -/
theorem parseRequest_of_lt (two : 2 ≤ body.length) (past : body.length < length.toNat + 2) :
    parseRequest (length :: code :: body) = .error (.length length.toNat) := by
  unfold parseRequest
  rw [dif_neg (by simp [overhead]; omega)]
  dsimp only [List.getElem_cons_succ, List.getElem_cons_zero]
  rw [if_pos]
  right
  simp only [List.length_cons, overhead]
  omega

/-- A request that its window holds is accepted if it checks. -/
theorem parseRequest_of_le (short : length.toNat ≤ maxData)
    (holds : length.toNat + 2 ≤ body.length) :
    parseRequest (length :: code :: body) = (do
      checkCrc (length :: code :: body) (length.toNat + 2)
      return ⟨code, body.take length.toNat⟩) := by
  unfold parseRequest
  rw [dif_neg (by simp [overhead]; omega)]
  dsimp only [List.getElem_cons_succ, List.getElem_cons_zero]
  rw [if_neg (by simp [overhead]; omega)]
  rfl

/-! ### Damaged frames -/

/-- A frame with an error pattern on it, part by part. -/
theorem encode_xor (code : UInt8) (data : Bytes) (first second : UInt8) (rest : Bytes) :
    (encode code data).xor (first :: second :: rest) =
      (UInt8.ofNat data.length ^^^ first) :: (code ^^^ second) ::
        Bytes.xor (data ++ Crc.encode (Crc.checksum (content code data))) rest := by
  rw [encode_eq]
  rfl

/-- An error pattern as long as a frame has a part for each part of it. -/
theorem exists_parts_of_length (covers : error.length = data.length + overhead) :
    ∃ first second rest, error = first :: second :: rest ∧ rest.length = data.length + 2 := by
  match error, covers with
  | first :: second :: rest, covers =>
    refine ⟨first, second, rest, rfl, ?_⟩
    simp only [List.length_cons, overhead] at covers
    omega
  | [], covers | [_], covers => simp [overhead] at covers

/-- A damaged frame does not check if something is left of the error pattern. -/
theorem check_encode_xor (code : UInt8) (covers : error.length = data.length + overhead)
    (left : Crc.checksum error ≠ 0) :
    Crc.check ((encode code data).xor error) (data.length + 2) ≠ .ok () := by
  have size := length_encode code data
  have passed := checkCrc_encode code data []
  rw [List.append_nil, checkCrc_eq_ok_iff] at passed
  intro checked
  apply left
  rw [← Crc.check_xor_iff (show _ = data.length + 2 + 2 from size) (covers.trans size.symm) passed]
  exact checked

/-- A byte that is flipped is another one. -/
theorem toNat_xor_ne (byte : UInt8) {change : UInt8} (changed : change ≠ 0) :
    (byte ^^^ change).toNat ≠ byte.toNat := by
  intro same
  exact Bytes.xor_ne_self changed byte (UInt8.toNat_inj.mp same)

/-- A damaged response is refused: for its length if the length byte was hit, and else
for its checksum. -/
theorem parseResponse_xor (chipStatus : UInt8) (status : Status) (short : data.length ≤ maxData)
    (covers : error.length = data.length + overhead) (left : Crc.checksum error ≠ 0) :
    ∃ cause, parseResponse (chipStatus :: (encode status.byte data).xor error) = .error cause ∧
      if error.getD 0 0 = 0 then
        ∃ expected received, expected ≠ received ∧ cause = .crc expected received
      else cause = .length (((encode status.byte data).xor error).getD 0 0).toNat := by
  have unchecked := check_encode_xor status.byte covers left
  obtain ⟨first, second, rest, rfl, count⟩ := exists_parts_of_length covers
  have size := toNat_ofNat_length short
  have behind : (Bytes.xor (data ++ Crc.encode (Crc.checksum (content status.byte data)))
      rest).length = data.length + 2 := by
    rw [Bytes.length_xor, List.length_append, Crc.length_encode, count, Nat.min_self]
  rw [encode_xor] at unchecked ⊢
  by_cases hit : first = 0
  · obtain ⟨expected, received, differ, refused⟩ := exists_crc_of_check unchecked
    have length : UInt8.ofNat data.length ^^^ first = UInt8.ofNat data.length := by
      rw [hit, UInt8.xor_zero]
    rw [length] at refused ⊢
    refine ⟨.crc expected received, ?_, ?_⟩
    · rw [parseResponse_of_length _ _ (by rw [behind, size]) (by rw [size]; exact short), size,
        refused]
      rfl
    · rw [List.getD_cons_zero, if_pos hit]
      exact ⟨expected, received, differ, rfl⟩
  · refine ⟨_, parseResponse_of_length_ne (by omega) ?_, ?_⟩
    · have other := toNat_xor_ne (UInt8.ofNat data.length) hit
      omega
    · rw [List.getD_cons_zero, if_neg hit, List.getD_cons_zero]

/-- Every response that is built, behind any chip status, with an error pattern on it
that flips an odd number of bits, two bits, or bits within 16 places only, is refused:
for its length if the length byte was hit, and else for its checksum. -/
theorem response_damage_noticed {buffer : Bytes} (chipStatus : UInt8) (status : Status)
    (short : data.length ≤ maxData) (room : data.length + overhead ≤ buffer.length)
    (covers : error.length = data.length + overhead) (some : true ∈ error.bits)
    (recognized : Crc.Recognized error.bits) :
    ∃ frame cause, buildResponse buffer status data = .ok (data.length + overhead, frame) ∧
      parseResponse (chipStatus :: Bytes.xor (frame.take (data.length + overhead)) error) =
        .error cause ∧
      if error.getD 0 0 = 0 then
        ∃ expected received, expected ≠ received ∧ cause = .crc expected received
      else cause =
        .length ((Bytes.xor (frame.take (data.length + overhead)) error).getD 0 0).toNat := by
  have fits : error.length ≤ 256 := by
    rw [covers]
    exact Nat.add_le_add_right short 4
  obtain ⟨cause, refused, why⟩ := parseResponse_xor chipStatus status short covers
    (recognized.checksum_ne_zero some fits)
  have written : (buffer.overlay 0 (encode status.byte data)).take (data.length + overhead) =
      encode status.byte data := by
    rw [← length_encode status.byte data]
    exact Bytes.take_overlay_zero buffer _
  refine ⟨_, cause, build_eq_ok status.byte short room, ?_, ?_⟩
  · rw [written]
    exact refused
  · rw [written]
    exact why

/-- Two bits, one of the status and one of the checksum, are flipped in a response. -/
theorem payload_damage_noticed :
    let data := Bytes.ofText "some payload bytes"
    let error : Bytes := [0, 0x80] ++ List.replicate 19 0 ++ [0x01]
    error.length = data.length + overhead ∧ Crc.Recognized error.bits ∧
      ∃ frame expected received,
        buildResponse (List.replicate maxLength 0) .requestOk data = .ok (22, frame) ∧
        expected ≠ received ∧
        parseResponse (Bus.readyBit :: Bytes.xor (frame.take 22) error) =
          .error (.crc expected received) := by
  have recognized : Crc.Recognized
      (Bytes.bits ([0, 0x80] ++ List.replicate 19 0 ++ [0x01])) := .double (by decide)
  have covers : ([0, 0x80] ++ List.replicate 19 0 ++ [0x01] : Bytes).length =
      (Bytes.ofText "some payload bytes").length + overhead := by decide
  have room : (Bytes.ofText "some payload bytes").length + overhead ≤
      (List.replicate maxLength (0 : UInt8)).length := by
    rw [List.length_replicate]
    decide
  obtain ⟨frame, cause, built, refused, why⟩ := response_damage_noticed Bus.readyBit .requestOk
    (by decide) room covers (by decide) recognized
  obtain ⟨expected, received, differ, rfl⟩ := why
  exact ⟨covers, recognized, frame, expected, received, built, differ, refused⟩

/-! ### A single flipped bit in a request -/

/-- An error pattern without a flipped bit changes nothing. -/
theorem xor_of_clear (bytes : Bytes) (covers : error.length = bytes.length)
    (clear : error.bits.count true = 0) : bytes.xor error = bytes := by
  induction bytes generalizing error with
  | nil => rfl
  | cons byte bytes ih =>
    cases error with
    | nil => simp at covers
    | cons change error =>
      simp only [Bytes.bits, List.flatMap_cons, List.count_append] at clear ih
      have zero : change = 0 := eq_zero_of_byteBits (List.count_eq_zero.mp (by omega))
      have rest := ih (by simpa using covers) (by omega)
      rw [Bytes.xor, List.zipWith_cons_cons, zero, UInt8.xor_zero]
      exact congrArg _ rest

/-- A request whose length byte alone is damaged. -/
theorem encode_xor_of_hit {first : UInt8} {rest : Bytes} (hit : first ≠ 0)
    (single : (Bytes.bits (first :: rest)).count true = 1)
    (covers : rest.length = data.length + 3) :
    (encode id data).xor (first :: rest) = (UInt8.ofNat data.length ^^^ first) :: id ::
      (data ++ Crc.encode (Crc.checksum (content id data))) := by
  have some : 0 < (byteBits first).count true := by
    apply List.count_pos_iff.mpr
    by_contra clear
    exact hit (eq_zero_of_byteBits clear)
  simp only [Bytes.bits, List.flatMap_cons, List.count_append] at single
  have clear : rest.bits.count true = 0 := by
    rw [Bytes.bits]
    omega
  have behind := xor_of_clear (id :: (data ++ Crc.encode (Crc.checksum (content id data))))
    (by simp; omega) clear
  rw [encode_eq, Bytes.xor, List.zipWith_cons_cons]
  exact congrArg _ behind

/-- A part of two bytes is a checksum if it decodes to it. -/
theorem checkCrc_eq_ok_iff_slice (buffer : Bytes) {count : Nat}
    (holds : count + 2 ≤ buffer.length) :
    checkCrc buffer count = .ok () ↔
      buffer.slice count 2 = Crc.encode (Crc.checksum (buffer.take count)) := by
  rw [checkCrc_eq_ok_iff, Crc.check_eq_ok_iff]
  constructor
  · intro same
    apply Crc.decode_injective (Bytes.length_slice holds) (Crc.length_encode _)
    rw [Crc.decode_encode, same]
  · intro same
    rw [same, Crc.decode_encode]

/-- A request that is damaged behind its length byte is refused for its checksum. -/
theorem parseRequest_xor_of_spared (id : UInt8) (short : data.length ≤ maxData)
    (covers : error.length = data.length + overhead) (left : Crc.checksum error ≠ 0)
    (spared : error.getD 0 0 = 0) :
    ∃ expected received, expected ≠ received ∧
      parseRequest ((encode id data).xor error) = .error (.crc expected received) := by
  have unchecked := check_encode_xor id covers left
  obtain ⟨first, second, rest, rfl, count⟩ := exists_parts_of_length covers
  have size := toNat_ofNat_length short
  have length : UInt8.ofNat data.length ^^^ first = UInt8.ofNat data.length := by
    rw [show first = 0 from spared, UInt8.xor_zero]
  have behind : (Bytes.xor (data ++ Crc.encode (Crc.checksum (content id data))) rest).length =
      data.length + 2 := by
    rw [Bytes.length_xor, List.length_append, Crc.length_encode, count, Nat.min_self]
  rw [encode_xor, length] at unchecked ⊢
  obtain ⟨expected, received, differ, refused⟩ := exists_crc_of_check unchecked
  refine ⟨expected, received, differ, ?_⟩
  rw [parseRequest_of_le (by rw [size]; exact short) (by rw [size, behind]), size, refused]
  rfl

/-- A request with a smaller number in its length byte is accepted if its data goes on
with the checksum of the shorter request. -/
theorem parseRequest_shorter (id : UInt8) {sum : Bytes} (two : sum.length = 2)
    (shorter : length.toNat < data.length) (short : data.length ≤ maxData) {request : Request} :
    parseRequest (length :: id :: (data ++ sum)) = .ok request ↔
      request = ⟨id, data.take length.toNat⟩ ∧
        Bytes.slice (length :: id :: (data ++ sum)) (length.toNat + 2) 2 =
          Crc.encode (Crc.checksum (content id (data.take length.toNat))) := by
  have holds : length.toNat + 2 ≤ (data ++ sum).length := by
    rw [List.length_append]
    omega
  have front : (data ++ sum).take length.toNat = data.take length.toNat :=
    List.take_append_of_le_length (by omega)
  have content : (length :: id :: (data ++ sum)).take (length.toNat + 2) =
      content id (data.take length.toNat) := by
    rw [List.take_succ_cons, List.take_succ_cons, front, Frame.content, List.length_take,
      Nat.min_eq_left (by omega), UInt8.ofNat_toNat]
  have checks := checkCrc_eq_ok_iff_slice (length :: id :: (data ++ sum))
    (show length.toNat + 2 + 2 ≤ _ by simp only [List.length_cons]; omega)
  rw [parseRequest_of_le (by omega) holds, front, ← content, ← checks]
  cases checkCrc (length :: id :: (data ++ sum)) (length.toNat + 2) with
  | ok =>
    constructor
    · intro accepted
      cases accepted
      exact ⟨rfl, rfl⟩
    · rintro ⟨rfl, -⟩
      rfl
  | error cause =>
    constructor
    · intro accepted
      cases accepted
    · rintro ⟨-, checked⟩
      cases checked

/-- A request whose length byte is damaged is accepted if the length has become smaller
and the data goes on with the checksum of the shorter request. -/
theorem parseRequest_xor_of_hit (id : UInt8) (short : data.length ≤ maxData)
    (covers : error.length = data.length + overhead) (single : error.bits.count true = 1)
    (hit : error.getD 0 0 ≠ 0) (request : Request) :
    let altered := (encode id data).xor error
    let given := (altered.getD 0 0).toNat
    parseRequest altered = .ok request ↔
      given < data.length ∧ request = ⟨id, data.take given⟩ ∧
        altered.slice (given + 2) 2 =
          Crc.encode (Crc.checksum (content id (data.take given))) := by
  obtain ⟨first, second, rest, rfl, count⟩ := exists_parts_of_length covers
  rw [List.getD_cons_zero] at hit
  have other := toNat_xor_ne (UInt8.ofNat data.length) hit
  have two := Crc.length_encode (Crc.checksum (content id data))
  rw [toNat_ofNat_length short] at other
  rw [encode_xor_of_hit hit single (by rw [List.length_cons, count])]
  dsimp only
  rw [List.getD_cons_zero]
  rcases Nat.lt_or_gt_of_ne other with shorter | longer
  · rw [parseRequest_shorter id two shorter short]
    constructor
    · intro accepted
      exact ⟨shorter, accepted⟩
    · rintro ⟨-, accepted⟩
      exact accepted
  · rw [parseRequest_of_lt (by rw [List.length_append]; omega)
      (by rw [List.length_append, two]; omega)]
    constructor
    · intro accepted
      cases accepted
    · rintro ⟨shorter, -⟩
      exact absurd shorter (Nat.not_lt.mpr (Nat.le_of_lt longer))

end Frame

section

variable [Primitives]

/-- A single flipped bit in a request. If it is not in the length byte, the request is
refused for its checksum, and a chip that it is sent to says so and does nothing else. If
it is, the request is accepted if and only if the length has become smaller and the data
goes on with the checksum of the shorter request; the chip then takes it for that one. -/
theorem Frame.parseRequest_flipped (id : UInt8) {data error : Bytes}
    (short : data.length ≤ maxData) (covers : error.length = data.length + overhead)
    (single : error.bits.count true = 1) :
    let altered := (encode id data).xor error
    let given := (altered.getD 0 0).toNat
    (∀ request, parseRequest altered = .ok request ↔
      error.getD 0 0 ≠ 0 ∧ given < data.length ∧ request = ⟨id, data.take given⟩ ∧
        altered.slice (given + 2) 2 =
          Crc.encode (Crc.checksum (content id (data.take given)))) ∧
    (error.getD 0 0 = 0 →
      (∃ expected received, expected ≠ received ∧
        parseRequest altered = .error (.crc expected received)) ∧
      ∀ chip : Chip, chip.processRequest altered =
        { chip with responses := [Chip.frameResponse .crcErr []] }) := by
  have recognized : Crc.Recognized error.bits := .odd (by rw [single]; decide)
  have some : true ∈ error.bits := List.count_pos_iff.mp (by omega)
  have left := recognized.checksum_ne_zero some (by rw [covers]; exact Nat.add_le_add_right short 4)
  constructor
  · intro request
    by_cases spared : error.getD 0 0 = 0
    case pos =>
      obtain ⟨expected, received, -, refused⟩ :=
        parseRequest_xor_of_spared id short covers left spared
      rw [refused]
      constructor
      · intro accepted
        cases accepted
      · rintro ⟨hit, -⟩
        exact absurd spared hit
    case neg =>
      have accepts := parseRequest_xor_of_hit id short covers single spared request
      constructor
      · intro accepted
        exact ⟨spared, accepts.mp accepted⟩
      · rintro ⟨-, fits⟩
        exact accepts.mpr fits
  · intro spared
    obtain ⟨expected, received, differ, refused⟩ :=
      parseRequest_xor_of_spared id short covers left spared
    constructor
    · exact ⟨expected, received, differ, refused⟩
    · intro chip
      rw [Chip.processRequest, refused]
      rfl

end

namespace Frame

/-- A single bit in the length byte turns a request that the chip refuses into a restart:
the data that follows happens to be the checksum of the shorter request. -/
theorem reboot_in_damaged_request :
    let frame := encode RequestId.startup [StartupKind.reboot.byte, 0x2A, 0x1B]
    let altered := Bytes.xor frame [0x02, 0, 0, 0, 0, 0, 0]
    parseRequest frame = .ok ⟨RequestId.startup, [StartupKind.reboot.byte, 0x2A, 0x1B]⟩ ∧
      (Chip.keyed.processRequest frame).hasSession = true ∧
      parseRequest altered = .ok ⟨RequestId.startup, [StartupKind.reboot.byte]⟩ ∧
      (Chip.keyed.processRequest altered).hasSession = false := by
  have parsed : parseRequest (encode RequestId.startup [StartupKind.reboot.byte, 0x2A, 0x1B]) =
      .ok ⟨RequestId.startup, [StartupKind.reboot.byte, 0x2A, 0x1B]⟩ := by decide +kernel
  have parsed' : parseRequest (Bytes.xor (encode RequestId.startup
      [StartupKind.reboot.byte, 0x2A, 0x1B]) [0x02, 0, 0, 0, 0, 0, 0]) =
      .ok ⟨RequestId.startup, [StartupKind.reboot.byte]⟩ := by decide +kernel
  refine ⟨parsed, ?_, parsed', ?_⟩
  · rw [Chip.processRequest, parsed]
    rfl
  · rw [Chip.processRequest, parsed']
    rfl

/-- That request is accepted for the reason given, and with a bit of its data flipped
it is refused. -/
theorem startup_flipped :
    (Bytes.bits [0x02, 0, 0, 0, 0, 0, 0]).count true = 1 ∧
      parseRequest (Bytes.xor (encode RequestId.startup [StartupKind.reboot.byte, 0x2A, 0x1B])
        [0x02, 0, 0, 0, 0, 0, 0]) = .ok ⟨RequestId.startup, [StartupKind.reboot.byte]⟩ ∧
      (Bytes.bits [0, 0, 0, 0x10, 0, 0, 0]).count true = 1 ∧
      Chip.keyed.processRequest
          (Bytes.xor (encode RequestId.startup [StartupKind.reboot.byte, 0x2A, 0x1B])
            [0, 0, 0, 0x10, 0, 0, 0]) =
        { Chip.keyed with responses := [Chip.frameResponse .crcErr []] } := by
  have inLength : (Bytes.bits [0x02, 0, 0, 0, 0, 0, 0]).count true = 1 := by decide
  have inData : (Bytes.bits [0, 0, 0, 0x10, 0, 0, 0]).count true = 1 := by decide
  have short : [StartupKind.reboot.byte, 0x2A, 0x1B].length ≤ maxData := by decide
  have length := parseRequest_flipped RequestId.startup short (by decide) inLength
  have content := parseRequest_flipped RequestId.startup short (by decide) inData
  refine ⟨inLength, ?_, inData, (content.2 rfl).2 Chip.keyed⟩
  exact (length.1 _).mpr ⟨by decide, by decide +kernel, by decide +kernel, by decide +kernel⟩

end Frame

end SecureElement
