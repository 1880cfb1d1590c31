import Mathlib.Data.List.Forall2
import SecureElement.Proofs.ByteStrings
import SecureElement.Proofs.Frames
import SecureElement.Proofs.Phases
import SecureElement.Transport.Script

/-!
How an encrypted result is put together from responses.

What the host makes of the responses is a matter of their bytes alone
(`Link.Delivers`). Responses that go on are appended to each other
(`Link.collect_parts`); behind them there is a last one, or else something that does
not belong to a result or does not fit (`Link.completes_or_stops`). From these it
follows what is collected, and that nothing else is read or written
(`Link.receiveEncrypted_exact`).
-/

namespace SecureElement

namespace Link

variable {σ : Type} [Transport σ]

/-! ### Responses -/

/-- Reads the bytes of a response into the buffer; returns how many there are. -/
def fetch (c : Config) : BusM σ Nat :=
  withRetries c (Bus.read c) c.transportRetries.toNat

/-- The bus after a number of responses has been read. -/
def fetched (c : Config) : (count : Nat) → Bus σ → Bus σ
  | 0, bus => bus
  | count + 1, bus => fetched c count (perform (fetch c) bus).2

/-- The bytes of the responses that can be read, and the error with which reading the
next one fails. -/
inductive Delivers (c : Config) : List Bytes → Error → Bus σ → Prop
  | failure {bus : Bus σ} {e : Error} (failed : (perform (fetch c) bus).1 = .error e) :
      Delivers c [] e bus
  | response {bus : Bus σ} {count : Nat} {frames : List Bytes} {e : Error}
      (read : (perform (fetch c) bus).1 = .ok count)
      (rest : Delivers c frames e (perform (fetch c) bus).2) :
      Delivers c ((perform (fetch c) bus).2.frame.take count :: frames) e bus

/-- A response with a status and data: behind the chip status the frame of the two,
and nothing else. -/
def Carries (status : Status) (frame data : Bytes) : Prop :=
  data.length ≤ Frame.maxData ∧ ∃ first, frame = first :: Frame.encode status.byte data

theorem Carries.parses {status : Status} {frame data : Bytes}
    (carries : Carries status frame data) :
    Frame.parseResponse frame = .ok ⟨status, data⟩ :=
  Frame.parseResponse_eq_ok_iff.mpr carries

/-- Why collecting ends without a result at the first of some responses: there is
none, it is no valid frame, its status is not that of a result, or there is no room
for its data. `collected` bytes have been collected, and there is room for `room`. -/
inductive Stops (failure : Error) (room collected : Nat) : List Bytes → Error → Prop
  | missing : Stops failure room collected [] failure
  | invalid {frame : Bytes} {later : List Bytes} {cause : FrameError}
      (refused : Frame.parseResponse frame = .error cause) :
      Stops failure room collected (frame :: later) (.frame cause)
  | other {frame data : Bytes} {later : List Bytes} {status : Status}
      (carries : Carries status frame data) (neither : status ≠ .resultCont ∧ status ≠ .resultOk) :
      Stops failure room collected (frame :: later) (.protocol (.status status))
  | overflow {frame data : Bytes} {later : List Bytes} {status : Status}
      (carries : Carries status frame data) (either : status = .resultCont ∨ status = .resultOk)
      (long : room < collected + data.length) :
      Stops failure room collected (frame :: later) (.capacity (collected + data.length) room)

/-! ### Reading responses -/

variable {c : Config} {bus : Bus σ} {failure : Error} {frames later : List Bytes} {frame : Bytes}

/-- A response is read and its bytes are parsed. -/
theorem perform_receive (c : Config) (bus : Bus σ) :
    perform (receive c) bus =
      ((perform (fetch c) bus).1.bind fun count =>
        (Frame.parseResponse ((perform (fetch c) bus).2.frame.take count)).mapError .frame,
        fetched c 1 bus) := by
  change perform (fetch c >>= _) bus = _
  rw [perform_bind, fetched, fetched]
  rcases perform (fetch c) bus with ⟨e | count, after⟩
  · rfl
  · dsimp only
    rw [perform_bind_ok (perform_get after)]
    cases parsed : Frame.parseResponse (after.frame.take count) with
    | error cause => simp only [perform_throw, Except.bind, parsed, mapError_error]
    | ok reply => simp only [perform_pure, Except.bind, parsed, mapError_ok]

theorem Delivers.perform_receive (delivers : Delivers c (frame :: later) failure bus) :
    perform (receive c) bus = ((Frame.parseResponse frame).mapError .frame, fetched c 1 bus) ∧
      Delivers c later failure (fetched c 1 bus) := by
  cases delivers with
  | response read rest =>
    rw [Link.perform_receive, read]
    exact ⟨rfl, rest⟩

theorem Delivers.perform_receive_nil (delivers : Delivers c [] failure bus) :
    perform (receive c) bus = (.error failure, fetched c 1 bus) := by
  cases delivers with
  | failure failed =>
    rw [Link.perform_receive, failed]
    rfl

/-! ### Collecting -/

variable {out data : Bytes} {length : Nat}

/-- A part of a result is put behind what was collected before. -/
theorem collect_part (delivers : Delivers c (frame :: later) failure bus)
    (carries : Carries .resultCont frame data) (fits : length + data.length ≤ out.length)
    (count : Nat) :
    (collect c (count + 1) out length).run bus =
      (collect c count (out.overlay length data) (length + data.length)).run
        (fetched c 1 bus) := by
  rw [run_collect, delivers.perform_receive.1, carries.parses]
  exact (if_pos (.inl rfl)).trans ((if_neg (Nat.not_lt_of_le fits)).trans (if_neg nofun))

/-- The last part completes the result. -/
theorem collect_last (delivers : Delivers c (frame :: later) failure bus)
    (carries : Carries .resultOk frame data) (fits : length + data.length ≤ out.length)
    (count : Nat) :
    (collect c (count + 1) out length).run bus =
      (some (.ok (length + data.length), out.overlay length data), fetched c 1 bus) := by
  rw [run_collect, delivers.perform_receive.1, carries.parses]
  exact (if_pos (.inr rfl)).trans ((if_neg (Nat.not_lt_of_le fits)).trans (if_pos rfl))

/-- Anything else ends it, and nothing of it is written. -/
theorem collect_stop {e : Error} (delivers : Delivers c frames failure bus)
    (stops : Stops failure out.length length frames e) (count : Nat) :
    (collect c (count + 1) out length).run bus = (some (.error e, out), fetched c 1 bus) := by
  rw [run_collect]
  cases stops with
  | missing => rw [delivers.perform_receive_nil]
  | invalid refused =>
    rw [delivers.perform_receive.1, refused]
    rfl
  | other carries neither =>
    rw [delivers.perform_receive.1, carries.parses]
    exact if_neg (not_or.mpr neither)
  | overflow carries either long =>
    rw [delivers.perform_receive.1, carries.parses]
    exact (if_pos either).trans (if_pos long)

theorem fetched_add (c : Config) (count more : Nat) (bus : Bus σ) :
    fetched c more (fetched c count bus) = fetched c (count + more) bus := by
  induction count generalizing bus with
  | zero => rw [Nat.zero_add]; rfl
  | succ count ih => rw [Nat.succ_add]; exact ih _

/-- Parts of a result are put behind each other. -/
theorem collect_parts {front : List Bytes} {pieces : List Bytes}
    (parts : List.Forall₂ (Carries .resultCont) front pieces)
    (delivers : Delivers c (front ++ later) failure bus)
    (fits : length + pieces.flatten.length ≤ out.length) (count : Nat) :
    (collect c (front.length + count) out length).run bus =
        (collect c count (out.overlay length pieces.flatten)
          (length + pieces.flatten.length)).run (fetched c front.length bus) ∧
      Delivers c later failure (fetched c front.length bus) := by
  induction parts generalizing bus out length with
  | nil =>
    rw [List.length_nil, Nat.zero_add]
    refine ⟨?_, delivers⟩
    rw [List.flatten_nil, Bytes.overlay, List.append_nil, List.length_nil, Nat.add_zero,
      List.take_append_drop]
    rfl
  | @cons frame data front pieces carries _ ih =>
    rw [List.flatten_cons, List.length_append] at fits
    have room : length + data.length ≤ out.length := by omega
    have kept : (out.overlay length data).length = out.length := Bytes.length_overlay room
    have fits' : length + data.length + pieces.flatten.length ≤
        (out.overlay length data).length := by
      omega
    obtain ⟨collects, rest⟩ := ih delivers.perform_receive.2 fits'
    rw [List.length_cons, Nat.succ_add, collect_part delivers carries room, collects,
      Bytes.overlay_overlay room, fetched_add, Nat.add_comm 1, List.flatten_cons,
      List.length_append, Nat.add_assoc]
    rw [fetched_add, Nat.add_comm 1] at rest
    exact ⟨rfl, rest⟩

/-- Behind the parts of a result that fit, there is a last one that fits or something
that stops collecting. -/
theorem completes_or_stops (failure : Error) {room collected : Nat} (frames : List Bytes)
    (fits : collected ≤ room) :
    (∃ front last later pieces final, frames = front ++ last :: later ∧
      List.Forall₂ (Carries .resultCont) front pieces ∧ Carries .resultOk last final ∧
      collected + (pieces.flatten ++ final).length ≤ room) ∨
    ∃ front later pieces e, frames = front ++ later ∧
      List.Forall₂ (Carries .resultCont) front pieces ∧
      collected + pieces.flatten.length ≤ room ∧
      Stops failure room (collected + pieces.flatten.length) later e := by
  induction frames generalizing collected with
  | nil => exact .inr ⟨[], [], [], failure, rfl, .nil, fits, .missing⟩
  | cons frame frames ih =>
    cases parsed : Frame.parseResponse frame with
    | error cause => exact .inr ⟨[], _, [], _, rfl, .nil, fits, .invalid parsed⟩
    | ok reply =>
      obtain ⟨status, data⟩ := reply
      have carries : Carries status frame data := Frame.parseResponse_eq_ok_iff.mp parsed
      by_cases either : status = .resultCont ∨ status = .resultOk
      case neg => exact .inr ⟨[], _, [], _, rfl, .nil, fits, .other carries (not_or.mp either)⟩
      by_cases long : room < collected + data.length
      case pos => exact .inr ⟨[], _, [], _, rfl, .nil, fits, .overflow carries either long⟩
      have short := Nat.le_of_not_lt long
      rcases either with rfl | rfl
      case inr => exact .inl ⟨[], frame, frames, [], data, rfl, .nil, carries, short⟩
      -- A part that fits: what follows it decides.
      obtain ⟨front, last, later, pieces, final, rfl, parts, completes, fits'⟩ |
          ⟨front, later, pieces, e, rfl, parts, fits', stops⟩ := ih short
      · refine .inl ⟨frame :: front, last, later, data :: pieces, final, rfl,
          .cons carries parts, completes, ?_⟩
        rw [List.flatten_cons, List.append_assoc, List.length_append]
        omega
      · have total : collected + (data :: pieces).flatten.length =
            collected + data.length + pieces.flatten.length := by
          rw [List.flatten_cons, List.length_append, Nat.add_assoc]
        refine .inr ⟨frame :: front, later, data :: pieces, e, rfl, .cons carries parts, ?_, ?_⟩
        · rw [total]
          exact fits'
        · rw [total]
          exact stops

/-- A result is complete with the first response that ends it. -/
theorem receiveEncrypted_of_last {front pieces : List Bytes} {last final : Bytes} {count : Nat}
    (delivers : Delivers c (front ++ last :: later) failure bus)
    (enough : (front ++ last :: later).length < count)
    (parts : List.Forall₂ (Carries .resultCont) front pieces)
    (completes : Carries .resultOk last final)
    (fits : (pieces.flatten ++ final).length ≤ out.length) :
    (receiveEncrypted c count out).run bus =
      (some (.ok (pieces.flatten ++ final).length, pieces.flatten ++ final ++
        out.drop (pieces.flatten ++ final).length), fetched c (front.length + 1) bus) := by
  rw [List.length_append] at fits
  rw [List.length_append, List.length_cons] at enough
  have room : 0 + pieces.flatten.length ≤ out.length := by omega
  have kept : (out.overlay 0 pieces.flatten).length = out.length := Bytes.length_overlay room
  obtain ⟨more, rfl⟩ : ∃ more, count = front.length + (more + 1) :=
    ⟨count - front.length - 1, by omega⟩
  obtain ⟨collects, rest⟩ := collect_parts parts delivers room (more + 1)
  rw [receiveEncrypted, collects, collect_last rest completes (by omega),
    Bytes.overlay_overlay room, Bytes.overlay_zero, fetched_add, Nat.zero_add, List.length_append]

/-- Without such a response it is as far as it was collected when collecting stops. -/
theorem receiveEncrypted_of_stop {front pieces : List Bytes} {count : Nat} {e : Error}
    (delivers : Delivers c (front ++ later) failure bus)
    (enough : (front ++ later).length < count)
    (parts : List.Forall₂ (Carries .resultCont) front pieces)
    (fits : pieces.flatten.length ≤ out.length)
    (stops : Stops failure out.length pieces.flatten.length later e) :
    (receiveEncrypted c count out).run bus =
      (some (.error e, pieces.flatten ++ out.drop pieces.flatten.length),
        fetched c (front.length + 1) bus) := by
  rw [List.length_append] at enough
  have room : 0 + pieces.flatten.length ≤ out.length := by omega
  have kept : (out.overlay 0 pieces.flatten).length = out.length := Bytes.length_overlay room
  obtain ⟨more, rfl⟩ : ∃ more, count = front.length + (more + 1) :=
    ⟨count - front.length - 1, by omega⟩
  obtain ⟨collects, rest⟩ := collect_parts parts delivers room (more + 1)
  rw [receiveEncrypted, collects, Nat.zero_add, collect_stop rest (by rw [kept]; exact stops),
    Bytes.overlay_zero, fetched_add]

/-- What is collected from the responses that a transport delivers. There is a result
if and only if they begin with parts of one and its last part, all valid, and there is
room for their data; it is their data in order, behind it the buffer is as it was, and
no response behind the last part is read. Otherwise collecting stops at the first
response that does not go on this way, for the reason why it does not, and the buffer
has the data of those before it. -/
theorem receiveEncrypted_exact {count : Nat} (delivers : Delivers c frames failure bus)
    (enough : frames.length < count) (out : Bytes) :
    (∃ result collected after,
      (receiveEncrypted c count out).run bus = (some (result, collected), after)) ∧
    (∀ n collected after,
      (receiveEncrypted c count out).run bus = (some (.ok n, collected), after) ↔
        ∃ front last later pieces final, frames = front ++ last :: later ∧
          List.Forall₂ (Carries .resultCont) front pieces ∧ Carries .resultOk last final ∧
          n = (pieces.flatten ++ final).length ∧ n ≤ out.length ∧
          collected = pieces.flatten ++ final ++ out.drop n ∧
          after = fetched c (front.length + 1) bus) ∧
    ∀ e collected after,
      (receiveEncrypted c count out).run bus = (some (.error e, collected), after) ↔
        ∃ front later pieces, frames = front ++ later ∧
          List.Forall₂ (Carries .resultCont) front pieces ∧ pieces.flatten.length ≤ out.length ∧
          Stops failure out.length pieces.flatten.length later e ∧
          collected = pieces.flatten ++ out.drop pieces.flatten.length ∧
          after = fetched c (front.length + 1) bus := by
  have last {front last later pieces final} (split : frames = front ++ last :: later)
      (parts : List.Forall₂ (Carries .resultCont) front pieces)
      (completes : Carries .resultOk last final)
      (fits : (pieces.flatten ++ final).length ≤ out.length) :=
    receiveEncrypted_of_last (split ▸ delivers) (split ▸ enough) parts completes fits
  have stop {front later pieces e} (split : frames = front ++ later)
      (parts : List.Forall₂ (Carries .resultCont) front pieces)
      (fits : pieces.flatten.length ≤ out.length)
      (stops : Stops failure out.length pieces.flatten.length later e) :=
    receiveEncrypted_of_stop (split ▸ delivers) (split ▸ enough) parts fits stops
  have cases := completes_or_stops failure frames (Nat.zero_le out.length)
  simp only [Nat.zero_add] at cases
  refine ⟨?_, fun n collected after => ⟨fun ran => ?_, ?_⟩,
    fun e collected after => ⟨fun ran => ?_, ?_⟩⟩
  · obtain ⟨_, _, _, _, _, split, parts, completes, fits⟩ |
      ⟨_, _, _, _, split, parts, fits, stops⟩ := cases
    · exact ⟨_, _, _, last split parts completes fits⟩
    · exact ⟨_, _, _, stop split parts fits stops⟩
  · obtain ⟨_, _, _, _, _, split, parts, completes, fits⟩ |
      ⟨_, _, _, _, split, parts, fits, stops⟩ := cases
    · cases (last split parts completes fits).symm.trans ran
      exact ⟨_, _, _, _, _, split, parts, completes, rfl, fits, rfl, rfl⟩
    · cases (stop split parts fits stops).symm.trans ran
  · rintro ⟨_, _, _, _, _, split, parts, completes, rfl, fits, rfl, rfl⟩
    exact last split parts completes fits
  · obtain ⟨_, _, _, _, _, split, parts, completes, fits⟩ |
      ⟨_, _, _, _, split, parts, fits, stops⟩ := cases
    · cases (last split parts completes fits).symm.trans ran
    · cases (stop split parts fits stops).symm.trans ran
      exact ⟨_, _, _, split, parts, fits, stops, rfl, rfl⟩
  · rintro ⟨_, _, _, split, parts, fits, stops, rfl, rfl⟩
    exact stop split parts fits stops

/-- A chip that sends a result in two parts, then another response, and then is in
alarm mode. -/
def twoParts : Bus Script :=
  start {
    current := .plain []
    windows := [
      .plain (Bus.readyBit :: Frame.encode Status.resultCont.byte [1, 2]),
      .plain (Bus.readyBit :: Frame.encode Status.resultOk.byte [3]),
      .plain (Bus.readyBit :: Frame.encode Status.resultOk.byte [9]),
      .plain [Bus.alarmBit]]
    random := []
    entropy := .strong
    init := none
    release := none }

/-- The two parts are collected and the third response is left. -/
theorem twoParts_collected :
    Delivers {} [Bus.readyBit :: Frame.encode Status.resultCont.byte [1, 2],
      Bus.readyBit :: Frame.encode Status.resultOk.byte [3],
      Bus.readyBit :: Frame.encode Status.resultOk.byte [9]] (.protocol .chipAlarm) twoParts ∧
    (receiveEncrypted {} 4 [7, 7, 7, 7]).run twoParts =
      (some (.ok 3, [1, 2, 3, 7]), fetched {} 2 twoParts) := by
  have delivers {bus : Bus Script} (count : Nat) {frame : Bytes} {frames : List Bytes} {e : Error}
      (read : (perform (fetch {}) bus).1 = .ok count)
      (bytes : (perform (fetch {}) bus).2.frame.take count = frame)
      (rest : Delivers {} frames e (perform (fetch {}) bus).2) :
      Delivers {} (frame :: frames) e bus := bytes ▸ .response read rest
  have all : Delivers {} [Bus.readyBit :: Frame.encode Status.resultCont.byte [1, 2],
      Bus.readyBit :: Frame.encode Status.resultOk.byte [3],
      Bus.readyBit :: Frame.encode Status.resultOk.byte [9]] (.protocol .chipAlarm) twoParts := by
    refine delivers 7 ?_ ?_ (delivers 6 ?_ ?_ (delivers 6 ?_ ?_ (.failure ?_))) <;>
      decide +kernel
  have short (data : Bytes) (few : data.length ≤ 2) : data.length ≤ Frame.maxData :=
    Nat.le_trans few (by decide)
  refine ⟨all, ((receiveEncrypted_exact all (by decide) [7, 7, 7, 7]).2.1 _ _ _).mpr ?_⟩
  refine ⟨[_], _, [_], [[1, 2]], [3], rfl, .cons ⟨short _ (by decide), _, rfl⟩ .nil,
    ⟨short _ (by decide), _, rfl⟩, rfl, by decide, rfl, rfl⟩

end Link

end SecureElement
