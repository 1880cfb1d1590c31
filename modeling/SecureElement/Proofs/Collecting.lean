import SecureElement.Proofs.Outcomes
import SecureElement.Proofs.Trials

/-!
How many responses it takes to collect a result.

A part of a result either brings data, for which the buffer has to have room, or
brings nothing. So more responses than the buffer has bytes are read only if there
are parts without data among them (`Link.receiveEncrypted_ends`), and a command
waits for as long as the chip goes on sending such parts. Nothing refuses them: an
attacker who puts the same well-formed part without data into every window keeps
the host waiting for good (`Repeater.never_collected`).
-/

namespace SecureElement

namespace Link

variable {σ : Type} [Transport σ] {c : Config} {frames room : Nat} {bus after : Bus σ}

/-! ### Parts of a result -/

/-- The data of the next responses, at most `frames` of them, as far as they are
parts of a result and not the last one. -/
def parts (c : Config) : (frames : Nat) → (bus : Bus σ) → List Bytes
  | 0, _ => []
  | frames + 1, bus =>
    match perform (receive c) bus with
    | (.error _, _) => []
    | (.ok reply, after) =>
      if reply.status = .resultCont then reply.data :: parts c frames after
      else []

/-- How many of them bring nothing. -/
def idle (c : Config) (frames : Nat) (bus : Bus σ) : Nat :=
  (parts c frames bus).countP List.isEmpty

theorem parts_of_part {reply : Frame.Reply}
    (received : perform (receive c) bus = (.ok reply, after)) (status : reply.status = .resultCont) :
    parts c (frames + 1) bus = reply.data :: parts c frames after := by
  rw [parts, received]
  exact if_pos status

theorem parts_eq_cons {data : Bytes} {rest : List Bytes}
    (some : parts c (frames + 1) bus = data :: rest) :
    ∃ reply after, perform (receive c) bus = (.ok reply, after) ∧ reply.status = .resultCont ∧
      reply.data = data ∧ parts c frames after = rest := by
  rcases received : perform (receive c) bus with ⟨e | reply, after⟩
  all_goals rw [parts, received] at some
  · cases some
  dsimp only at some
  split at some
  case isFalse => cases some
  case isTrue status =>
    cases some
    exact ⟨reply, after, rfl, status, rfl, rfl⟩

/-- The chip goes on if all of the next responses are parts and their data fits. -/
theorem continues_iff : Continues c frames room bus ↔
    (parts c frames bus).length = frames ∧ (parts c frames bus).flatten.length ≤ room := by
  constructor
  · intro continues
    induction continues with
    | done => exact ⟨rfl, Nat.zero_le _⟩
    | more received status fits rest ih =>
      obtain ⟨all, within⟩ := ih
      rw [parts_of_part received status]
      rw [List.flatten_cons, List.length_append, List.length_cons]
      omega
  · rintro ⟨all, within⟩
    induction frames generalizing room bus with
    | zero => exact .done
    | succ frames ih =>
      obtain ⟨data, rest, some⟩ := List.exists_cons_of_length_eq_add_one all
      obtain ⟨reply, after, received, status, rfl, rfl⟩ := parts_eq_cons some
      rw [some] at all within
      rw [List.length_cons] at all
      rw [List.flatten_cons, List.length_append] at within
      exact .more received status (by omega) (ih (by omega) (by omega))

/-- Parts bring at least a byte each, those without data apart. -/
theorem length_le_flatten_add_idle (pieces : List Bytes) :
    pieces.length ≤ pieces.flatten.length + pieces.countP List.isEmpty := by
  induction pieces with
  | nil => exact Nat.le_refl _
  | cons piece pieces ih =>
    rw [List.flatten_cons, List.length_append, List.length_cons, List.countP_cons]
    cases piece with
    | nil => simp only [List.length_nil, List.isEmpty_nil, if_true]; omega
    | cons byte bytes => simp only [List.length_cons, List.isEmpty_cons]; omega

/-- A chip that goes on for longer than there is room sends parts without data. -/
theorem Continues.le (continues : Continues c frames room bus) :
    frames ≤ room + idle c frames bus := by
  obtain ⟨all, within⟩ := continues_iff.mp continues
  have bytes := length_le_flatten_add_idle (parts c frames bus)
  unfold idle
  omega

/-! ### Collecting -/

theorem receiveEncrypted_eq_none_iff {out : Bytes} :
    ((receiveEncrypted c frames out).run bus).1 = none ↔ Continues c frames out.length bus :=
  collect_eq_none_iff (Nat.zero_le _)

/-- A result is collected, or refused, as soon as more responses have been read than
the buffer has bytes, parts without data not counted. -/
theorem receiveEncrypted_ends (c : Config) (frames : Nat) (out : Bytes) (bus : Bus σ) :
    (∃ outcome after, (receiveEncrypted c frames out).run bus = (some outcome, after)) ∨
      frames ≤ out.length + idle c frames bus := by
  rcases ran : (receiveEncrypted c frames out).run bus with ⟨_ | outcome, after⟩
  · right
    exact (receiveEncrypted_eq_none_iff.mp (congrArg Prod.fst ran)).le
  · left
    exact ⟨outcome, after, rfl⟩

end Link

namespace Device

variable {σ : Type} [Transport σ]

/-- The command is sealed under the session of the device, and sent. -/
def Sends [Primitives] (command : Command) (device : Device σ) (sent : Bus σ) : Prop :=
  ∃ host length buffer sealing, device.session = some host ∧
    host.protect (device.buffer.overlay Session.sizeLength command.packet)
      command.packet.length = .ok (length, buffer, sealing) ∧
    perform (Link.sendEncrypted device.config (buffer.take length)) device.bus = (.ok (), sent)

theorem endless_iff [Primitives] {frames : Nat} {command : Command} {device : Device σ} :
    Endless frames command device ↔ ∃ sent, Sends command device sent ∧
      Link.Continues device.config frames device.buffer.length sent := by
  constructor
  · rintro ⟨host, length, buffer, sealing, sent, held, sealed, sends, continues⟩
    exact ⟨sent, ⟨host, length, buffer, sealing, held, sealed, sends⟩, continues⟩
  · rintro ⟨sent, ⟨host, length, buffer, sealing, held, sealed, sends⟩, continues⟩
    exact ⟨host, length, buffer, sealing, sent, held, sealed, sends, continues⟩

/-- Collecting a result goes on for exactly as long as the chip sends parts that fit
into the buffer. So it ends once more responses have been read than the buffer has
bytes, unless there were parts without data; and a command waits for nothing else. -/
theorem collecting_ends [Primitives] (c : Config) (frames : Nat) (out : Bytes) (bus : Bus σ)
    (command : Command) (device : Device σ) :
    (((Link.receiveEncrypted c frames out).run bus).1 = none ↔
      (Link.parts c frames bus).length = frames ∧
        (Link.parts c frames bus).flatten.length ≤ out.length) ∧
    ((∃ outcome after, (Link.receiveEncrypted c frames out).run bus = (some outcome, after)) ∨
      frames ≤ out.length + Link.idle c frames bus) ∧
    ((∃ outcome, attempt (execute frames command) device = some outcome) ∨
      ∃ sent, Sends command device sent ∧
        (Link.parts device.config frames sent).length = frames ∧
        frames ≤ device.buffer.length + Link.idle device.config frames sent) := by
  refine ⟨Link.receiveEncrypted_eq_none_iff.trans Link.continues_iff,
    Link.receiveEncrypted_ends c frames out bus, ?_⟩
  cases accepted : refusal? device command with
  | some e => exact .inl ⟨_, attempt_execute_of_refusal accepted⟩
  | none =>
    rcases waits : attempt (execute frames command) device with _ | outcome
    · right
      obtain ⟨sent, sends, continues⟩ :=
        endless_iff.mp ((attempt_execute_eq_none_iff accepted).mp waits)
      exact ⟨sent, sends, (Link.continues_iff.mp continues).1, continues.le⟩
    · exact .inl ⟨outcome, rfl⟩

end Device

/-! ### An attacker on the bus -/

deriving instance DecidableEq for Bus

/-- An attacker who has bytes for the next windows, and puts the same bytes into every
window after those: what is left of them in this one, what there is in the next ones, and
what there is in all others. -/
structure Repeater where
  incoming : Bytes
  opening : List Bytes
  window : Bytes
deriving DecidableEq, Repr

namespace Repeater

/-- The next window. -/
def opened : Repeater → Repeater
  | ⟨_, first :: opening, window⟩ => ⟨first, opening, window⟩
  | ⟨_, [], window⟩ => ⟨window, [], window⟩

instance : Transport Repeater where
  init := pure ()
  release := pure ()
  select := modify opened
  deselect := pure ()
  exchange _ region _ := fun attacker =>
    ((.ok (), (Octets.fit region.length attacker.incoming).val),
      { attacker with incoming := attacker.incoming.drop region.length })
  delay _ := pure ()
  random count := pure (Octets.fit count [])
  entropy _ := .strong
  length_exchange _ region _ attacker := (Octets.fit region.length attacker.incoming).property

/-- A chip that is ready, and a part of a result without data. -/
def part : Bytes := [Bus.readyBit, 0x00, Status.resultCont.byte, 0x80, 0x1B]

/-- There is that part in every window. -/
def stalling : Repeater := ⟨[], [], part⟩

/-- The buffer of a link that has just received that part, in front of the attacker. -/
def bus : Bus Repeater :=
  ⟨stalling, part ++ List.replicate (Frame.maxLength - part.length) 0⟩

/-- What is received on a new link is received whatever the buffer holds. -/
theorem perform_receive_of_start {attacker after : Repeater} {reply : Frame.Reply}
    (replies : (perform (Link.receive {}) (Link.start attacker)).1.toOption = some reply)
    (left : (perform (Link.receive {}) (Link.start attacker)).2.transport = after)
    (frame : Octets Frame.maxLength) : ∃ frame' : Octets Frame.maxLength,
      perform (Link.receive {}) ⟨attacker, frame.val⟩ = (.ok reply, ⟨after, frame'.val⟩) := by
  obtain ⟨frame', received⟩ := Link.perform_receive_of_start {} attacker frame
  refine ⟨frame', received.trans ?_⟩
  generalize perform (Link.receive {}) (Link.start attacker) = begun at replies left
  obtain ⟨e | reply', bus⟩ := begun
  · cases replies
  · cases replies
    cases left
    rfl

/-- Each response is such a part, and after it the attacker is as before. -/
theorem perform_receive (frame : Octets Frame.maxLength) : ∃ frame' : Octets Frame.maxLength,
    perform (Link.receive {}) ⟨stalling, frame.val⟩ =
      (.ok ⟨.resultCont, []⟩, ⟨stalling, frame'.val⟩) :=
  perform_receive_of_start (by decide +kernel) (by decide +kernel) frame

theorem continues (frames room : Nat) (frame : Octets Frame.maxLength) :
    Link.Continues {} frames room ⟨stalling, frame.val⟩ := by
  induction frames generalizing room frame with
  | zero => exact .done
  | succ frames ih =>
    obtain ⟨frame', received⟩ := perform_receive frame
    exact .more received rfl (Nat.zero_le _) (ih _ frame')

/-- Whatever the buffer, no number of responses is enough. -/
theorem never_collected : ¬∃ (frames : Nat) (out : Bytes) (outcome : Except Error Nat × Bytes)
    (after : Bus Repeater),
      (Link.receiveEncrypted {} frames out).run bus = (some outcome, after) := by
  rintro ⟨frames, out, outcome, after, collects⟩
  have waits : ((Link.receiveEncrypted {} frames out).run bus).1 = none :=
    Link.receiveEncrypted_eq_none_iff.mpr (continues frames _ ⟨bus.frame, by decide +kernel⟩)
  rw [collects] at waits
  cases waits

end Repeater

end SecureElement
