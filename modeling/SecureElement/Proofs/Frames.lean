import SecureElement.Frame
import SecureElement.Proofs.Checksum

/-!
What the parsers of frames accept.

Both parsers accept exactly what the common layout `encode` writes: a response
has to fill its buffer behind the chip status (`parseResponse_eq_ok_iff`), and a
request may be followed by anything (`parseRequest_eq_ok_iff`). A response in which
one byte other than the length was changed is not accepted
(`parseResponse_alter`). The pieces of a long packet, put together, are the
packet (`flatten_chunks`).
-/

namespace SecureElement.Frame

/-! ### Layout -/

@[simp] theorem length_content (code : UInt8) (data : Bytes) :
    (content code data).length = data.length + 2 := rfl

/-- The bytes of a frame: length, code, data and checksum. -/
theorem encode_eq (code : UInt8) (data : Bytes) :
    encode code data = UInt8.ofNat data.length :: code ::
      (data ++ Crc.encode (Crc.checksum (content code data))) := by
  simp [encode, content]

theorem toNat_ofNat_length {data : Bytes} (short : data.length ≤ maxData) :
    (UInt8.ofNat data.length).toNat = data.length := by
  rw [UInt8.toNat_ofNat']
  exact Nat.mod_eq_of_lt (Nat.lt_of_le_of_lt short (by decide))

theorem checkCrc_eq_ok_iff {buffer : Bytes} {length : Nat} :
    checkCrc buffer length = .ok () ↔ Crc.check buffer length = .ok () := by
  unfold checkCrc
  cases Crc.check buffer length with
  | ok _ => exact ⟨fun _ => rfl, fun _ => rfl⟩
  | error cause =>
    constructor
    · intro ok
      cases ok
    · intro ok
      cases ok

/-- The two bytes behind a content are its checksum if they check, whatever follows
them. -/
theorem checksum_of_checkCrc {content sum rest : Bytes} (two : sum.length = 2)
    (checked : checkCrc (content ++ (sum ++ rest)) content.length = .ok ()) :
    sum = Crc.encode (Crc.checksum content) := by
  rw [checkCrc_eq_ok_iff, Crc.check_eq_ok_iff, Bytes.slice, List.drop_left,
    List.take_left, List.take_left' two] at checked
  apply Crc.decode_injective two (Crc.length_encode _)
  rw [Crc.decode_encode, checked]

/-- A frame in a buffer checks, whatever follows it. -/
theorem checkCrc_encode (code : UInt8) (data rest : Bytes) :
    checkCrc (encode code data ++ rest) (data.length + 2) = .ok () :=
  checkCrc_eq_ok_iff.mpr (Crc.check_append (content code data) rest)

/-! ### Building -/

/-- A frame is built if its data fits a frame and the frame fits the buffer. -/
theorem build_eq_ok {buffer data : Bytes} (code : UInt8) (short : data.length ≤ maxData)
    (fits : data.length + overhead ≤ buffer.length) :
    build buffer code data = .ok (data.length + overhead, buffer.overlay 0 (encode code data)) := by
  unfold build
  rw [if_neg (by omega)]

/-- A buffer for the longest frame has room for any. -/
theorem fits_cleared {data : Bytes} (short : data.length ≤ maxData) :
    data.length + overhead ≤ (List.replicate maxLength (0 : UInt8)).length := by
  rw [List.length_replicate]
  unfold maxLength
  omega

/-! ### Responses -/

theorem readStatus_byte (status : Status) : readStatus status.byte = .ok status := by
  simp [readStatus]

theorem byte_of_readStatus {byte : UInt8} {status : Status}
    (read : readStatus byte = .ok status) : status.byte = byte := by
  unfold readStatus at read
  cases h : Status.ofByte? byte with
  | none => simp [h] at read
  | some found =>
    simp only [h, Except.ok.injEq] at read
    exact read ▸ Status.ofByte?_eq_some_iff.mp h

/-- A buffer whose length agrees with the length byte is accepted if it checks
and the status is known. -/
theorem parseResponse_of_length (first code : UInt8) {length : UInt8} {body : Bytes}
    (exactly : body.length = length.toNat + 2) (short : length.toNat ≤ maxData) :
    parseResponse (first :: length :: code :: body) = (do
      checkCrc (length :: code :: body) (length.toNat + 2)
      let status ← readStatus code
      return ⟨status, body.take length.toNat⟩) := by
  unfold parseResponse
  rw [dif_neg (by simp; omega)]
  dsimp only [List.getElem_cons_succ, List.getElem_cons_zero]
  rw [if_neg (by simp; omega)]
  rfl

/-- A buffer of any other length is refused. -/
theorem length_of_parseResponse {buffer : Bytes} {reply : Reply}
    (ok : parseResponse buffer = .ok reply) :
    ∃ first length code body, buffer = first :: length :: code :: body ∧
      body.length = length.toNat + 2 ∧ length.toNat ≤ maxData := by
  unfold parseResponse at ok
  split at ok
  · cases ok
  · rename_i long
    match buffer, long with
    | first :: length :: code :: body, long =>
      dsimp only [List.getElem_cons_succ, List.getElem_cons_zero] at ok
      split at ok
      · cases ok
      · rename_i size
        simp only [List.length_cons] at size
        exact ⟨first, length, code, body, rfl, by omega, by omega⟩
    | [], long | [_], long | [_, _], long => simp at long

/-- A frame that is read whole is read as it was written. -/
theorem parseResponse_encode {status : Status} {data : Bytes} (first : UInt8)
    (short : data.length ≤ maxData) :
    parseResponse (first :: encode status.byte data) = .ok ⟨status, data⟩ := by
  have size := toNat_ofNat_length short
  have checked := checkCrc_encode status.byte data []
  rw [List.append_nil] at checked
  have exactly : (data ++ Crc.encode (Crc.checksum (content status.byte data))).length =
      (UInt8.ofNat data.length).toNat + 2 := by
    rw [size]
    simp
  have opened := parseResponse_of_length first status.byte exactly (size.symm ▸ short)
  rw [size, List.take_left, readStatus_byte] at opened
  change parseResponse (first :: encode status.byte data) =
    (checkCrc (encode status.byte data) (data.length + 2) >>= fun _ => _) at opened
  rw [opened, checked]
  rfl

/-- What is accepted is a chip status byte and the frame of the reply. -/
theorem eq_encode_of_parseResponse {buffer : Bytes} {reply : Reply}
    (ok : parseResponse buffer = .ok reply) :
    reply.data.length ≤ maxData ∧
      ∃ first, buffer = first :: encode reply.status.byte reply.data := by
  obtain ⟨first, length, code, body, rfl, exactly, short⟩ := length_of_parseResponse ok
  rw [parseResponse_of_length first code exactly short] at ok
  cases checked : checkCrc (length :: code :: body) (length.toNat + 2) with
  | error cause => rw [checked] at ok; cases ok
  | ok =>
    rw [checked] at ok
    cases read : readStatus code with
    | error cause => rw [read] at ok; cases ok
    | ok status =>
      rw [read] at ok
      cases ok
      have count : (body.take length.toNat).length = length.toNat := by simp; omega
      have byte : UInt8.ofNat (body.take length.toNat).length = length := by simp [count]
      have parts : length :: code :: body =
          content code (body.take length.toNat) ++ body.drop length.toNat := by
        rw [content, byte, List.cons_append, List.cons_append, List.take_append_drop]
      have size : (content code (body.take length.toNat)).length = length.toNat + 2 := by
        rw [length_content, count]
      rw [parts, ← size, ← List.append_nil (body.drop _)] at checked
      have sum := checksum_of_checkCrc (by simp; omega) checked
      refine ⟨by rw [count]; exact short, first, ?_⟩
      rw [parts, byte_of_readStatus read, sum]
      rfl

/-- A response is accepted if and only if the buffer is a chip status byte and
the frame of the reply, and nothing else. -/
theorem parseResponse_eq_ok_iff {buffer : Bytes} {reply : Reply} :
    parseResponse buffer = .ok reply ↔
      reply.data.length ≤ maxData ∧
        ∃ first, buffer = first :: encode reply.status.byte reply.data := by
  constructor
  · exact eq_encode_of_parseResponse
  · rintro ⟨short, first, rfl⟩
    exact parseResponse_encode first short

/-- A changed byte behind the length is noticed. -/
theorem parseResponse_alter (first : UInt8) (status : Status) {data : Bytes} {index : Nat}
    {change : UInt8 → UInt8} (short : data.length ≤ maxData)
    (changes : ∀ byte, change byte ≠ byte) (behind : 2 ≤ index)
    (inside : index < data.length + 5) (reply : Reply) :
    parseResponse (Bytes.alter (first :: encode status.byte data) index change) ≠ .ok reply := by
  intro ok
  obtain ⟨index, rfl⟩ := Nat.exists_eq_add_of_le' behind
  have frame : Bytes.alter (first :: encode status.byte data) (index + 2) change =
      first :: Bytes.alter (encode status.byte data) (index + 1) change := rfl
  have byte : Bytes.alter (encode status.byte data) (index + 1) change =
      UInt8.ofNat data.length ::
        Bytes.alter (status.byte :: data ++ Crc.encode (Crc.checksum (content status.byte data)))
          index change := rfl
  -- The length byte is as it was, so what is accepted has as much data as was written.
  obtain ⟨small, other, same⟩ := eq_encode_of_parseResponse ok
  rw [frame, List.cons.injEq] at same
  have heads := congrArg List.head? same.2
  rw [byte] at heads
  simp only [encode, content, List.cons_append, List.head?_cons, Option.some.injEq] at heads
  have size : data.length = reply.data.length := by
    rw [← toNat_ofNat_length short, heads, toNat_ofNat_length small]
  have checked := checkCrc_encode reply.status.byte reply.data []
  rw [List.append_nil, ← same.2, checkCrc_eq_ok_iff, ← size] at checked
  have passed := checkCrc_encode status.byte data []
  rw [List.append_nil, checkCrc_eq_ok_iff] at passed
  have long : (encode status.byte data).length = data.length + 2 + 2 := by
    rw [length_encode]; rfl
  exact Crc.check_alter long (by omega) changes passed checked

/-! ### Requests -/

/-- A request is read as it was written, whatever follows it. -/
theorem parseRequest_encode {id : UInt8} {data : Bytes} (short : data.length ≤ maxData)
    (rest : Bytes) : parseRequest (encode id data ++ rest) = .ok ⟨id, data⟩ := by
  have size := toNat_ofNat_length short
  have shape : encode id data ++ rest = UInt8.ofNat data.length :: id ::
      (data ++ (Crc.encode (Crc.checksum (content id data)) ++ rest)) := by
    simp [encode, content]
  have checked := checkCrc_encode id data rest
  rw [shape] at checked ⊢
  unfold parseRequest
  rw [dif_neg (by simp [overhead]; omega)]
  dsimp only [List.getElem_cons_succ, List.getElem_cons_zero]
  rw [size, if_neg (by simp [overhead]; omega), checked]
  simp [Bytes.slice, bind, Except.bind, pure, Except.pure]

/-- What is accepted is the frame of the request and whatever follows it. -/
theorem eq_encode_of_parseRequest {buffer : Bytes} {request : Request}
    (ok : parseRequest buffer = .ok request) :
    request.data.length ≤ maxData ∧ ∃ rest, buffer = encode request.id request.data ++ rest := by
  unfold parseRequest at ok
  split at ok
  · cases ok
  · rename_i long
    match buffer, long with
    | length :: code :: body, long =>
      dsimp only [List.getElem_cons_succ, List.getElem_cons_zero] at ok
      split at ok
      · cases ok
      · rename_i size
        simp only [List.length_cons, overhead] at size
        cases checked : checkCrc (length :: code :: body) (length.toNat + 2) with
        | error cause => rw [checked] at ok; cases ok
        | ok =>
          rw [checked] at ok
          cases ok
          have data : Bytes.slice (length :: code :: body) 2 length.toNat =
              body.take length.toNat := rfl
          have count : (body.take length.toNat).length = length.toNat := by simp; omega
          have byte : UInt8.ofNat (body.take length.toNat).length = length := by simp [count]
          have parts : length :: code :: body = content code (body.take length.toNat) ++
              ((body.drop length.toNat).take 2 ++ (body.drop length.toNat).drop 2) := by
            rw [content, byte, List.take_append_drop, List.cons_append, List.cons_append,
              List.take_append_drop]
          have front : (content code (body.take length.toNat)).length = length.toNat + 2 := by
            rw [length_content, count]
          rw [parts, ← front] at checked
          have sum := checksum_of_checkCrc (by simp; omega) checked
          refine ⟨by rw [data, count]; omega, (body.drop length.toNat).drop 2, ?_⟩
          dsimp only
          rw [data, parts, sum, encode, List.append_assoc]
    | [], long | [_], long => simp [overhead] at long

/-- A request is accepted if and only if the buffer begins with its frame. -/
theorem parseRequest_eq_ok_iff {buffer : Bytes} {request : Request} :
    parseRequest buffer = .ok request ↔
      request.data.length ≤ maxData ∧
        ∃ rest, buffer = encode request.id request.data ++ rest := by
  constructor
  · exact eq_encode_of_parseRequest
  · rintro ⟨short, rest, rfl⟩
    exact parseRequest_encode short rest

/-! ### Long packets -/

theorem flatten_chunksUpTo {count : Nat} {packet : Bytes} (enough : packet.length ≤ count) :
    (chunksUpTo count packet).flatten = packet := by
  induction count generalizing packet with
  | zero => simp [chunksUpTo, List.length_eq_zero_iff.mp (Nat.le_zero.mp enough)]
  | succ count ih =>
    unfold chunksUpTo
    split
    · rename_i empty
      simp [empty]
    · rename_i some
      have positive := List.length_pos_iff.mpr some
      rw [List.flatten_cons, ih (by simp [maxData]; omega), List.take_append_drop]

/-- The pieces, put together, are the packet. -/
theorem flatten_chunks (packet : Bytes) : (chunks packet).flatten = packet :=
  flatten_chunksUpTo (Nat.le_refl _)

theorem chunks_ne_nil {packet : Bytes} (some : packet ≠ []) : chunks packet ≠ [] := by
  intro none
  have whole := flatten_chunks packet
  rw [none] at whole
  exact some whole.symm

/-- A packet that fits into one piece travels in one. -/
theorem chunks_of_short {packet : Bytes} (some : packet ≠ []) (short : packet.length ≤ maxData) :
    chunks packet = [packet] := by
  have rest (count : Nat) : chunksUpTo count [] = [] := by cases count <;> rfl
  obtain ⟨byte, bytes, rfl⟩ := List.exists_cons_of_ne_nil some
  rw [chunks, List.length_cons, chunksUpTo, if_neg some, List.take_of_length_le short,
    List.drop_eq_nil_of_le short, rest]

theorem bounds_of_mem_chunksUpTo {count : Nat} {packet chunk : Bytes}
    (member : chunk ∈ chunksUpTo count packet) : chunk ≠ [] ∧ chunk.length ≤ maxData := by
  induction count generalizing packet with
  | zero => simp [chunksUpTo] at member
  | succ count ih =>
    unfold chunksUpTo at member
    split at member
    · simp at member
    · rename_i some
      rcases List.mem_cons.mp member with rfl | later
      · refine ⟨?_, List.length_take_le maxData packet⟩
        simpa [List.take_eq_nil_iff, maxData] using some
      · exact ih later

/-- Every piece has content and fits a frame. -/
theorem bounds_of_mem_chunks {packet chunk : Bytes} (member : chunk ∈ chunks packet) :
    chunk ≠ [] ∧ chunk.length ≤ maxData :=
  bounds_of_mem_chunksUpTo member

theorem length_chunksUpTo {count : Nat} {packet : Bytes} (enough : packet.length ≤ count) :
    (chunksUpTo count packet).length = (packet.length + (maxData - 1)) / maxData := by
  induction count generalizing packet with
  | zero =>
    rw [List.length_eq_zero_iff.mp (Nat.le_zero.mp enough)]
    rfl
  | succ count ih =>
    unfold chunksUpTo
    split
    · rename_i empty
      rw [empty]
      rfl
    · rename_i some
      have positive := List.length_pos_iff.mpr some
      have fewer : (packet.drop maxData).length ≤ count := by
        rw [List.length_drop]
        simp only [maxData]
        omega
      rw [List.length_cons, ih fewer, List.length_drop]
      simp only [maxData]
      omega

/-- A packet travels in as few pieces as possible. -/
theorem length_chunks (packet : Bytes) :
    (chunks packet).length = (packet.length + (maxData - 1)) / maxData :=
  length_chunksUpTo (Nat.le_refl _)

end SecureElement.Frame
