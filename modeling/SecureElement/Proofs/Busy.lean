import SecureElement.Proofs.Attempts
import SecureElement.Proofs.Discipline
import SecureElement.Proofs.Polls
import SecureElement.Transport.Script

/-!
A busy chip.

A read polls the chip, with a wait after each poll that finds it busy, and the attempts
of a response are reads with a wait between them. So a chip that is busy for some polls
is waited for in whole rounds of polls, and the response comes if there are polls enough
in all of them (`Link.receive_ready`, `Link.withRetries_busy`). A request is served all the
same: where there are not, its answer stays at the chip (`Link.transceive_busy`).
-/

namespace SecureElement

namespace Chip

variable [Primitives]

/-- The chip was called, and its knobs were turned, in any way that leaves no window open. -/
def Handled (before after : Chip) : Prop :=
  ∃ inputs, after = before.after inputs ∧ after.window.selected = false

/-- A use of the chip keeps it sound and in the phase of the stack. -/
theorem maintains_sound : Transport.Maintains fun phase (chip : Chip) =>
    chip.InPhase phase ∧ chip.Sound := by
  constructor
  case init => exact fun _ held => ⟨held.1, held.2.act .init⟩
  case release => exact fun _ held => ⟨held.1, held.2.act .release⟩
  case select =>
    intro chip held
    have sound := held.2.act .select
    rw [Input.act, perform_select held.1] at sound
    rw [perform_select held.1]
    exact ⟨rfl, sound⟩
  case exchange =>
    intro count _ offset region timeout chip held
    exact ⟨(received_clock chip region held.1).1, held.2.act (.transfer region)⟩
  case deselect =>
    intro count chip held
    exact ⟨selected_close chip, held.2.act .deselect⟩
  case delay => exact fun duration _ held => ⟨held.1, held.2.act (.wait duration)⟩
  case random =>
    intro count chip held
    obtain ⟨random, drawn⟩ := exists_random chip count
    refine ⟨?_, held.2.act (.draw count)⟩
    rw [drawn]
    exact held.1

/-- However a new chip is used, it is sound, and no window is open. -/
theorem sound_of_used {suite : CipherSuite} {random : RandomSource} {chip : Chip}
    (used : Used Handled (create suite random) chip) :
    chip.window.selected = false ∧ chip.Sound := by
  refine used.maintains maintains_sound ?_ ⟨rfl, Device.create_sound suite random⟩
  rintro chip _ ⟨inputs, rfl, closed⟩ ⟨-, sound⟩
  exact ⟨closed, after_induction (fun _ input _ sound => sound.act input) sound⟩

end Chip

namespace Bus

open Chip (Wire)

variable [Primitives] {c : Config} {bus : Bus Chip} {settled : Chip} {polls delayed : Nat}

/-- The chip will be busy for so many polls, was waited for so long, and has no other fault
on its wire. -/
structure Waiting (settled : Chip) (polls delayed : Nat) (bus : Bus Chip) : Prop where
  ready : bus.Ready
  settled : bus.transport.settled = settled
  transfers : bus.transport.wire.failTransfers = 0
  response : bus.transport.wire.corruptResponse = none
  polls : bus.transport.wire.busyPolls = polls
  delayed : bus.transport.wire.delayed = delayed

/-- A read has come to the bytes of a reply, after so long a wait. -/
structure Brings (reply : Frame.Reply) (delayed count : Nat) (bus : Bus Chip) : Prop where
  parsed : Frame.parseResponse (bus.frame.take count) = .ok reply
  polls : bus.transport.faults.busyPolls = 0
  delayed : bus.transport.delayed = delayed

/-- A poll that finds the chip busy. -/
theorem Waiting.poll_busy (waiting : Waiting settled (polls + 1) delayed bus) :
    ∃ after, perform (poll c) bus = (.ok none, after) ∧ Waiting settled polls delayed after := by
  have busy : 0 < bus.transport.wire.busyPolls := waiting.polls ▸ Nat.succ_pos polls
  obtain ⟨frame, fits, -, polled, -⟩ :=
    perform_poll c waiting.ready (Chip.clock_poll_busy waiting.transfers busy)
  refine ⟨_, polled rfl, ⟨⟨fits, rfl⟩, waiting.settled, waiting.transfers, waiting.response, ?_,
    waiting.delayed⟩⟩
  exact congrArg (· - 1) waiting.polls

/-- A poll that finds the chip ready reads the response at the front of the queue. -/
theorem Waiting.poll_ready (waiting : Waiting settled 0 delayed bus) {reply : Frame.Reply}
    (short : reply.data.length ≤ Frame.maxData)
    (front : settled.front = Frame.encode reply.status.byte reply.data) :
    ∃ count after, perform (poll c) bus = (.ok (some count), after) ∧
      Brings reply delayed count after := by
  obtain ⟨ready, rfl, transfers, response, polls, delayed⟩ := waiting
  have clocked := Chip.clock_poll_ready bus.transport transfers polls
  have shown : bus.transport.outgoing bus.transport.wire.corruptResponse =
      readyBit :: UInt8.ofNat reply.data.length :: reply.status.byte ::
        (reply.data ++ Crc.encode (Crc.checksum (Frame.content reply.status.byte reply.data))) := by
    have front : bus.transport.front = Frame.encode reply.status.byte reply.data := front
    rw [response, Chip.outgoing, front, Frame.encode_eq]
  have size := Frame.toNat_ofNat_length short
  rw [shown] at clocked
  obtain ⟨frame, fits, first, -, polled⟩ := perform_poll c ready clocked
  obtain ⟨w, frame', read, -, -, clear, taken, same⟩ := perform_readFrame (c := c) bus.transport
    bus.transport.wire reply.status.byte _ fits transfers first (size.symm ▸ short)
  refine ⟨_, _, (polled rfl).trans (perform_bind_ok read), ?_⟩
  constructor
  case parsed =>
    rw [taken, size, Octets.fit_val_of_length (by simp), ← Frame.encode_eq]
    exact Frame.parseResponse_encode readyBit short
  case polls => exact (clear ⟨transfers, polls, response⟩).polls
  case delayed => exact same.trans delayed

/-- A wait. -/
theorem Waiting.wait (waiting : Waiting settled polls delayed bus) (duration : UInt32) :
    ∃ after, perform (delay duration) bus = (.ok (), after) ∧
      Waiting settled polls (delayed + duration.toNat) after := by
  obtain ⟨ready, settled, transfers, response, polls, delayed⟩ := waiting
  refine ⟨_, perform_delay duration bus, ⟨ready.length, ready.closed⟩, settled, transfers, response,
    polls, ?_⟩
  exact congrArg (· + duration.toNat) delayed

/-! ### Requests -/

/-- The pause after a request. -/
theorem Waiting.pause (waiting : Waiting settled polls delayed bus) (duration : UInt32) :
    ∃ after, perform (if 0 < duration then delay duration else pure ()) bus = (.ok (), after) ∧
      Waiting settled polls (delayed + duration.toNat) after := by
  split
  case isTrue => exact waiting.wait duration
  case isFalse none =>
    have zero : duration.toNat = 0 := Nat.eq_zero_of_not_pos none
    exact ⟨bus, rfl, by rwa [zero]⟩

/-- A busy chip serves a request as any other. -/
theorem Waiting.sendOnce (id : UInt8) {data : Bytes} (short : data.length ≤ Frame.maxData)
    (waiting : Waiting settled polls delayed bus) :
    ∃ after, perform (Link.sendOnce c id data) bus = (.ok (), after) ∧
      Waiting (settled.served ⟨id, data⟩) polls (delayed + c.turnaroundDelay.toNat) after := by
  obtain ⟨ready, rfl, transfers, response, rfl, rfl⟩ := waiting
  obtain ⟨frame, length, written, sent⟩ := perform_sendOnce (c := c) id short ready
  have ready' : Ready ⟨bus.transport, frame⟩ := ⟨length, ready.closed⟩
  obtain ⟨frame', length', performed⟩ := perform_write (c := c) short ready' transfers written
  rw [sent, performed]
  have wire := (bus.transport.onWire
    (bus.transport.wire.opened.collected (Frame.encode id data)).closed).wire_served ⟨id, data⟩
  refine Waiting.pause ?_ c.turnaroundDelay
  constructor
  case ready => exact ⟨length', congrArg (fun w : Wire => w.window.selected) wire⟩
  case settled => exact Chip.settled_served _ _
  case transfers => exact (congrArg Wire.failTransfers wire).trans transfers
  case response => exact (congrArg Wire.corruptResponse wire).trans response
  case polls => exact (congrArg Wire.busyPolls wire :)
  case delayed => exact (congrArg Wire.delayed wire :)

/-! ### Reads -/

variable {reply : Frame.Reply} (short : reply.data.length ≤ Frame.maxData)
  (front : settled.front = Frame.encode reply.status.byte reply.data)

/-- A chip that is busy for longer than it is polled. -/
theorem Waiting.pollUpTo_busy {tries : Nat} (busy : tries ≤ polls)
    (waiting : Waiting settled polls delayed bus) :
    ∃ after, perform (pollUpTo c tries) bus = (.error (.transport .notReady), after) ∧
      Waiting settled (polls - tries) (delayed + tries * c.readRetryDelay.toNat) after := by
  induction tries generalizing polls delayed bus with
  | zero =>
    refine ⟨bus, rfl, ?_⟩
    simpa using waiting
  | succ tries ih =>
    obtain ⟨more, rfl⟩ := Nat.exists_eq_add_of_le' busy
    obtain ⟨between, polled, waiting⟩ := waiting.poll_busy (c := c)
    obtain ⟨between', waited, waiting⟩ := waiting.wait c.readRetryDelay
    obtain ⟨after, rest, waiting⟩ := ih (Nat.le_add_left tries more) waiting
    refine ⟨after, ?_, ?_⟩
    · rw [pollUpTo, perform_bind_ok polled]
      exact (perform_bind_ok waited).trans rest
    · rw [Nat.add_sub_cancel] at waiting ⊢
      rwa [Nat.succ_mul, Nat.add_comm (tries * _), ← Nat.add_assoc]

include short front in
/-- A chip that is polled more often than it is busy. -/
theorem Waiting.pollUpTo_ready {tries : Nat} (enough : polls < tries)
    (waiting : Waiting settled polls delayed bus) :
    ∃ count after, perform (pollUpTo c tries) bus = (.ok count, after) ∧
      Brings reply (delayed + polls * c.readRetryDelay.toNat) count after := by
  induction polls generalizing tries delayed bus with
  | zero =>
    obtain ⟨more, rfl⟩ := Nat.exists_eq_succ_of_ne_zero (Nat.ne_of_gt enough)
    obtain ⟨count, after, polled, brings⟩ := waiting.poll_ready (c := c) short front
    refine ⟨count, after, ?_, ?_⟩
    · rw [pollUpTo, perform_bind_ok polled]
      rfl
    · simpa using brings
  | succ polls ih =>
    obtain ⟨more, rfl⟩ := Nat.exists_eq_succ_of_ne_zero (Nat.ne_of_gt (Nat.zero_lt_of_lt enough))
    obtain ⟨between, polled, waiting⟩ := waiting.poll_busy (c := c)
    obtain ⟨between', waited, waiting⟩ := waiting.wait c.readRetryDelay
    obtain ⟨count, after, rest, brings⟩ := ih (Nat.lt_of_succ_lt_succ enough) waiting
    refine ⟨count, after, ?_, ?_⟩
    · rw [pollUpTo, perform_bind_ok polled]
      exact (perform_bind_ok waited).trans rest
    · rwa [Nat.succ_mul, Nat.add_comm (polls * _), ← Nat.add_assoc]

theorem Waiting.perform_read (waiting : Waiting settled polls delayed bus) :
    perform (read c) bus = perform (pollUpTo c c.readMaxTries.toNat) bus := by
  rw [read, perform_bind_ok (perform_checkBounds waiting.ready.length (by decide))]

end Bus

namespace Link

open Bus

variable [Primitives] {c : Config} {bus : Bus Chip} {settled : Chip} {polls delayed : Nat}

/-! ### Attempts -/

/-- An attempt that finds the chip busy for all of its polls, and the wait before the next. -/
theorem withRetries_round (waiting : Waiting settled (c.readMaxTries.toNat + polls) delayed bus)
    (retries : Nat) :
    ∃ after, perform (withRetries c (Bus.read c) (retries + 1)) bus =
        perform (withRetries c (Bus.read c) retries) after ∧
      Waiting settled polls (delayed + c.readMaxTries.toNat * c.readRetryDelay.toNat +
        c.retryDelay.toNat) after := by
  obtain ⟨between, ran, waiting'⟩ := waiting.pollUpTo_busy (c := c) (Nat.le_add_right ..)
  obtain ⟨after, waited, waiting'⟩ := waiting'.wait c.retryDelay
  refine ⟨after, ?_, ?_⟩
  · rw [withRetries, perform_tryCatch, waiting.perform_read, ran]
    exact perform_bind_ok waited
  · rwa [Nat.add_sub_cancel_left] at waiting'

/-- A chip that is busy for longer than it is polled in all attempts. -/
theorem withRetries_busy {retries : Nat} (busy : c.readMaxTries.toNat * (retries + 1) ≤ polls)
    (waiting : Waiting settled polls delayed bus) :
    ∃ after, perform (withRetries c (Bus.read c) retries) bus =
        (.error (.transport .notReady), after) ∧
      Waiting settled (polls - c.readMaxTries.toNat * (retries + 1))
        (delayed + c.readMaxTries.toNat * (retries + 1) * c.readRetryDelay.toNat +
          retries * c.retryDelay.toNat) after := by
  induction retries generalizing polls delayed bus with
  | zero =>
    rw [Nat.zero_add, Nat.mul_one] at busy ⊢
    obtain ⟨after, ran, waiting'⟩ := waiting.pollUpTo_busy (c := c) busy
    refine ⟨after, waiting.perform_read.trans ran, ?_⟩
    simpa using waiting'
  | succ retries ih =>
    rw [Nat.mul_succ] at busy ⊢
    obtain ⟨more, rfl⟩ := Nat.exists_eq_add_of_le (Nat.le_trans (Nat.le_add_left ..) busy)
    obtain ⟨between, first, waiting⟩ := withRetries_round waiting retries
    obtain ⟨after, rest, waiting⟩ := ih (by omega) waiting
    refine ⟨after, first.trans rest, ?_⟩
    have polls : c.readMaxTries.toNat + more -
        (c.readMaxTries.toNat * (retries + 1) + c.readMaxTries.toNat) =
          more - c.readMaxTries.toNat * (retries + 1) := by omega
    have waits : delayed + (c.readMaxTries.toNat * (retries + 1) + c.readMaxTries.toNat) *
        c.readRetryDelay.toNat + (retries + 1) * c.retryDelay.toNat =
          delayed + c.readMaxTries.toNat * c.readRetryDelay.toNat + c.retryDelay.toNat +
            c.readMaxTries.toNat * (retries + 1) * c.readRetryDelay.toNat +
              retries * c.retryDelay.toNat := by
      rw [Nat.add_mul (_ * _), Nat.succ_mul retries]
      omega
    rw [polls, waits]
    exact waiting

/-- A request to a chip that is busy for longer than it is polled: it is served, but its
answer is not read. -/
theorem transceive_busy (id : UInt8) {data : Bytes} (short : data.length ≤ Frame.maxData)
    (busy : c.readMaxTries.toNat * (c.transportRetries.toNat + 1) ≤ polls)
    (waiting : Waiting settled polls delayed bus) :
    ∃ delayed after, perform (transceive c id data) bus =
        (.error (.transport .notReady), after) ∧
      Waiting (settled.served ⟨id, data⟩)
        (polls - c.readMaxTries.toNat * (c.transportRetries.toNat + 1)) delayed after := by
  obtain ⟨between, once, waiting⟩ := waiting.sendOnce (c := c) id short
  obtain ⟨after, ran, waiting⟩ := withRetries_busy busy waiting
  have sent : perform (send c id data) bus = (.ok (), between) := by
    rw [send, perform_withRetries_of_ended, once]
    rw [once]
    exact nofun
  refine ⟨_, after, ?_, waiting⟩
  rw [transceive, perform_bind_ok sent]
  exact perform_bind_error (perform_bind_error ran)

/-- A chip that is polled more often in all attempts than it is busy. -/
theorem withRetries_ready {reply : Frame.Reply} (short : reply.data.length ≤ Frame.maxData)
    (front : settled.front = Frame.encode reply.status.byte reply.data)
    (some : 0 < c.readMaxTries.toNat) {retries : Nat}
    (enough : polls < c.readMaxTries.toNat * (retries + 1))
    (waiting : Waiting settled polls delayed bus) :
    ∃ count after, perform (withRetries c (Bus.read c) retries) bus = (.ok count, after) ∧
      Brings reply (delayed + polls * c.readRetryDelay.toNat +
        polls / c.readMaxTries.toNat * c.retryDelay.toNat) count after := by
  induction retries generalizing polls delayed bus with
  | zero =>
    rw [Nat.zero_add, Nat.mul_one] at enough
    obtain ⟨count, after, ran, brings⟩ := waiting.pollUpTo_ready (c := c) short front enough
    refine ⟨count, after, waiting.perform_read.trans ran, ?_⟩
    simpa [Nat.div_eq_of_lt enough] using brings
  | succ retries ih =>
    by_cases first : polls < c.readMaxTries.toNat
    case pos =>
      obtain ⟨count, after, ran, brings⟩ := waiting.pollUpTo_ready (c := c) short front first
      refine ⟨count, after, ?_, ?_⟩
      · rw [withRetries, perform_tryCatch, waiting.perform_read, ran]
      · simpa [Nat.div_eq_of_lt first] using brings
    case neg =>
      obtain ⟨more, rfl⟩ := Nat.exists_eq_add_of_le (Nat.le_of_not_lt first)
      rw [Nat.mul_succ] at enough
      obtain ⟨between, first, waiting⟩ := withRetries_round waiting retries
      obtain ⟨count, after, rest, brings⟩ := ih (by omega) waiting
      refine ⟨count, after, first.trans rest, ?_⟩
      have waits : delayed + (c.readMaxTries.toNat + more) * c.readRetryDelay.toNat +
          (c.readMaxTries.toNat + more) / c.readMaxTries.toNat * c.retryDelay.toNat =
            delayed + c.readMaxTries.toNat * c.readRetryDelay.toNat + c.retryDelay.toNat +
              more * c.readRetryDelay.toNat +
                more / c.readMaxTries.toNat * c.retryDelay.toNat := by
        rw [Nat.add_div_left more some, Nat.add_mul c.readMaxTries.toNat, Nat.succ_mul]
        omega
      rw [waits]
      exact brings

/-- A response is awaited for all polls of all attempts. -/
theorem receive_ready {reply : Frame.Reply} (short : reply.data.length ≤ Frame.maxData)
    (front : settled.front = Frame.encode reply.status.byte reply.data)
    (some : 0 < c.readMaxTries.toNat)
    (enough : polls < c.readMaxTries.toNat * (c.transportRetries.toNat + 1))
    (waiting : Waiting settled polls delayed bus) :
    ∃ count after, perform (receive c) bus = (.ok reply, after) ∧
      Brings reply (delayed + polls * c.readRetryDelay.toNat +
        polls / c.readMaxTries.toNat * c.retryDelay.toNat) count after := by
  obtain ⟨count, after, ran, brings⟩ := withRetries_ready short front some enough waiting
  refine ⟨count, after, ?_, brings⟩
  rw [receive, perform_bind_ok ran, perform_bind_ok (perform_get after), brings.parsed]
  rfl

/-! ### Polling -/

/-- **Polls are counted exactly.** On a transport without failures a read opens the windows
of the polls that find the chip idle, with a wait after each, and the one that decides what
it comes to; without such a window it uses up its tries. So a chip that will be busy for `n`
polls, whatever happened to it, is waited for through the polls of all attempts.

The chip counts its polls and the milliseconds that it is waited for without bound. Counts
of 32 and 64 bits are the same as long as it is waited for less than `2 ^ 64` milliseconds
in all. -/
theorem polls_exact :
    (∀ {σ : Type} [Transport σ] (c : Config) (before : Tapped σ) (frame : Bytes),
      Frame.maxLength ≤ frame.length →
      ∃ calls, before.Hears (Bus.read c) (Bus.read c) frame calls ∧
        ((∀ heard ∈ calls, heard.result = .ok ()) →
          ∃ outcome, Law c c.readMaxTries.toNat calls outcome ∧
            (perform (Bus.read c) ⟨before.transport, frame⟩).1 = outcome.map List.length ∧
            ∀ bytes, outcome = .ok bytes →
              (perform (Bus.read c) ⟨before.transport, frame⟩).2.frame.take bytes.length =
                bytes)) ∧
    ∀ {suite : CipherSuite} {random : RandomSource} {chip : Chip} (n : Nat) (c : Config)
      (frame : Octets Frame.maxLength),
      Used Chip.Handled (Chip.create suite random) chip → chip.faults.failTransfers = 0 →
      chip.faults.corruptResponse = none → 0 < c.readMaxTries.toNat →
      let received := perform (receive c) ⟨chip.busyPolls n, frame.val⟩
      let polls := c.readMaxTries.toNat * (c.transportRetries.toNat + 1)
      ((∃ reply, received.1 = .ok reply) ↔ n < polls) ∧
      (n < polls → received.2.transport.delayed = chip.delayed + n * c.readRetryDelay.toNat +
        n / c.readMaxTries.toNat * c.retryDelay.toNat) ∧
      (polls ≤ n → received.1 = .error (.transport .notReady) ∧
        received.2.transport.delayed = chip.delayed + polls * c.readRetryDelay.toNat +
          c.transportRetries.toNat * c.retryDelay.toNat ∧
        received.2.transport.faults.busyPolls = n - polls) := by
  constructor
  · intro σ _ c before frame room
    obtain ⟨calls, outcome, hears, run, counted, front⟩ := read_run c before room
    exact ⟨calls, hears, fun well => ⟨outcome, run.law well, counted, front⟩⟩
  · intro suite random chip n c frame used transfers response some received polls
    obtain ⟨closed, sound⟩ := Chip.sound_of_used used
    obtain ⟨reply, short, front⟩ : ∃ reply : Frame.Reply, reply.data.length ≤ Frame.maxData ∧
        chip.settled.front = Frame.encode reply.status.byte reply.data := by
      obtain ⟨status, data, short, front⟩ := sound.framed.front
      exact ⟨⟨status, data⟩, short, front⟩
    have waiting : Waiting chip.settled n chip.delayed ⟨chip.busyPolls n, frame.val⟩ :=
      ⟨⟨frame.property, closed⟩, rfl, transfers, response, rfl, rfl⟩
    by_cases enough : n < polls
    case pos =>
      obtain ⟨count, after, ran, brings⟩ := receive_ready short front some enough waiting
      have same : received = (.ok reply, after) := ran
      rw [same]
      refine ⟨⟨fun _ => enough, fun _ => ⟨_, rfl⟩⟩, fun _ => brings.delayed, fun busy => ?_⟩
      exact absurd enough (Nat.not_lt.mpr busy)
    case neg =>
      have busy := Nat.le_of_not_lt enough
      obtain ⟨after, ran, waiting⟩ := withRetries_busy busy waiting
      have same : received = (.error (.transport .notReady), after) := perform_bind_error ran
      rw [same]
      refine ⟨⟨nofun, fun few => absurd few enough⟩, fun few => absurd few enough, fun _ => ?_⟩
      exact ⟨rfl, waiting.delayed, waiting.polls⟩

/-- A tap on a transport whose second window brings a response. -/
def busyOnce : Tapped Script where
  transport := {
    current := .plain []
    windows := [.plain [0], .plain (Bus.readyBit :: Frame.encode Status.requestOk.byte [0x42])]
    random := []
    entropy := .strong
    init := none
    release := none }
  record := []

/-- A response is awaited for a poll, in a buffer that is longer than a frame, and a chip
that is busy for three polls is waited for through the third of four. -/
theorem busyOnce_read :
    (∃ calls outcome, Law {} 50 calls outcome ∧ outcome.toOption.map List.length = some 6 ∧
      busyOnce.Hears (Bus.read {}) (Bus.read {}) (List.replicate 300 0xFF) calls) ∧
    ∃ reply, (perform (receive { readMaxTries := 2, transportRetries := 1 })
      ⟨(Chip.create .aes256Gcm ⟨fun i => UInt8.ofNat i, 0, none⟩).busyPolls 3,
        List.replicate Frame.maxLength 0⟩).1 = .ok reply := by
  constructor
  · have room : Frame.maxLength ≤ (List.replicate 300 (0xFF : UInt8)).length := by
      rw [List.length_replicate]
      decide
    obtain ⟨calls, hears, decided⟩ := polls_exact.1 {} busyOnce _ room
    have fine : ∀ heard ∈ (perform (Bus.read {})
        ⟨busyOnce, List.replicate 300 0xFF⟩).2.transport.record, heard.result.toOption = some () := by
      decide +kernel
    have six : (perform (Bus.read {})
      ⟨busyOnce.transport, List.replicate 300 0xFF⟩).1.toOption = some 6 := by decide +kernel
    have record := congrArg (fun ran => ran.2.transport.record) hears
    dsimp only at record
    rw [record] at fine
    obtain ⟨outcome, law, counted, -⟩ := decided fun heard member => by
      have one := fine heard (List.mem_append_right _ member)
      cases result : heard.result with
      | error cause =>
        rw [result] at one
        cases one
      | ok _ => rfl
    rw [counted] at six
    refine ⟨calls, outcome, law, ?_, hears⟩
    cases outcome with
    | error e => cases six
    | ok bytes => exact six
  · exact ((polls_exact.2 3 { readMaxTries := 2, transportRetries := 1 }
      ⟨List.replicate Frame.maxLength 0, List.length_replicate⟩ .unused rfl rfl (by decide)).1).mpr
        (by decide)

end Link

end SecureElement
