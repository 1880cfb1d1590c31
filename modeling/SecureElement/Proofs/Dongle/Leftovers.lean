import SecureElement.Dongle.ScriptedLine
import SecureElement.Proofs.Actions
import SecureElement.Proofs.Dongle.Codec

/-!
What is left on the line of a dongle.

A serial line is a stream: an answer stands behind what was not read yet, and an exchange
reads as many bytes from the front as its own answer should have. The line is cleared
when it is opened and never again. So what an earlier exchange left on the line is read
in place of an answer, and as long as every answer has its length, all that follows is
shifted by as much (`SerialDongle.answers_shifted`): surplus bytes are not used up. An
exchange is decided by its own answer if nothing was left.
-/

namespace SecureElement

/-! ### Streams -/

/-- A serial line on which bytes wait to be read. An answer is put behind them, a read takes
from the front, and one that wants more than there is leaves nothing. -/
structure SerialLine.Stream (π : Type) [SerialLine π] where
  unread : π → Bytes
  /-- What comes in when a line is written. -/
  answer : π → Bytes → Bytes
  written {line after : π} {bytes : Bytes}
    (ran : perform (SerialLine.write bytes) line = (.ok (), after)) :
    unread after = unread line ++ answer line bytes
  unwritten {line after : π} {bytes : Bytes} {cause : TransportError}
    (ran : perform (SerialLine.write bytes) line = (.error cause, after)) :
    unread after = unread line
  taken {line after : π} {count : Nat} {bytes : Octets count}
    (ran : perform (SerialLine.read count) line = (.ok bytes, after)) :
    count ≤ (unread line).length ∧ bytes.val = (unread line).take count ∧
      unread after = (unread line).drop count
  lost {line after : π} {count : Nat} {cause : TransportError}
    (ran : perform (SerialLine.read count) line = (.error cause, after)) :
    (unread line).length < count ∧ unread after = []

namespace ScriptedLine

variable {line after : ScriptedLine} {bytes : Bytes} {count : Nat} {cause : TransportError}

theorem unread_of_written (ran : line.write bytes = (.ok (), after)) :
    after.unread = line.unread ++ (line.exchanges.headD .silent).reply := by
  unfold write at ran
  dsimp only at ran
  split at ran
  · cases ran
  · cases ran
    rfl

theorem unread_of_unwritten (ran : line.write bytes = (.error cause, after)) :
    after.unread = line.unread := by
  unfold write at ran
  dsimp only at ran
  split at ran
  · cases ran
    rfl
  · cases ran

theorem unread_of_taken {bytes : Octets count} (ran : line.read count = (.ok bytes, after)) :
    count ≤ line.unread.length ∧ bytes.val = line.unread.take count ∧
      after.unread = line.unread.drop count := by
  unfold read at ran
  dsimp only at ran
  split at ran
  · rename_i front
    cases ran
    have same := Octets.ofBytes?_eq_some_iff.mp front
    have size := congrArg List.length same
    rw [bytes.property, List.length_take] at size
    exact ⟨by omega, same, rfl⟩
  · cases ran

theorem unread_of_lost (ran : line.read count = (.error cause, after)) :
    line.unread.length < count ∧ after.unread = [] := by
  unfold read at ran
  dsimp only at ran
  split at ran
  · cases ran
  · rename_i missing
    cases ran
    have short : line.unread.length < count := by
      by_cases enough : count ≤ line.unread.length
      · rw [Octets.ofBytes?, dif_pos (List.length_take_of_le enough)] at missing
        cases missing
      · omega
    exact ⟨short, List.drop_of_length_le (Nat.le_of_lt short)⟩

/-- A line that answers from a script is a stream. -/
def stream : SerialLine.Stream ScriptedLine where
  unread := unread
  answer line _ := (line.exchanges.headD .silent).reply
  written := unread_of_written
  unwritten := unread_of_unwritten
  taken := unread_of_taken
  lost := unread_of_lost

end ScriptedLine

namespace Dongle.Order

/-- The length that the answer to an order should have. -/
def answerLength : Order → Nat
  | transfer data => replyLength data.length
  | release => acknowledgement.length

/-- What an answer means: how the order went, and the bytes that came in. -/
def decode : Order → Bytes → Except TransportError Unit × Bytes
  | transfer data, answer => decodeReply answer data
  | release, answer => (checkAcknowledgement answer, [])

/-- What an order comes to without an answer. -/
def failed (cause : TransportError) : Order → Except TransportError Unit × Bytes
  | transfer data => (.error cause, data)
  | release => (.error cause, [])

/-- What orders come to if their answers are read from the front of so many bytes. -/
def decodeAll : List Order → Bytes → List (Except TransportError Unit × Bytes)
  | [], _ => []
  | order :: rest, bytes =>
    order.decode (bytes.take order.answerLength) :: decodeAll rest (bytes.drop order.answerLength)

variable {π : Type} [SerialLine π]

/-- Carries out an order. -/
def run : Order → SerialDongle π → (Except TransportError Unit × Bytes) × SerialDongle π
  | transfer data, dongle => SerialDongle.transfer data dongle
  | release, dongle =>
    let (result, after) := perform SerialDongle.releaseChip dongle
    ((result, []), after)

end Dongle.Order

namespace SerialDongle

open Dongle (Order)

variable {π : Type} [SerialLine π] (stream : SerialLine.Stream π) {dongle : SerialDongle π}

/-- The bytes that wait on the line. -/
abbrev left (dongle : SerialDongle π) : Bytes := stream.unread dongle.line

/-- The line takes in an order. -/
def Takes (dongle : SerialDongle π) (order : Order) : Prop :=
  ∃ line, perform (SerialLine.write order.line) dongle.line = (.ok (), line)

/-- What waits on the line once an order was taken in. -/
def waiting (dongle : SerialDongle π) (order : Order) : Bytes :=
  dongle.left stream ++ stream.answer dongle.line order.line

/-! ### One exchange -/

/-- An exchange reads the front of what waits. -/
theorem perform_exchange (isOpen : dongle.isOpen = true) {order : Order}
    (takes : dongle.Takes order) {result : Except TransportError (Octets order.answerLength)}
    {after : SerialDongle π}
    (ran : perform (exchange order.line order.answerLength) dongle = (result, after)) :
    after.isOpen = true ∧ match result with
      | .ok reply => reply.val = (dongle.waiting stream order).take order.answerLength ∧
        order.answerLength ≤ (dongle.waiting stream order).length ∧
        after.left stream = (dongle.waiting stream order).drop order.answerLength
      | .error _ => (dongle.waiting stream order).length < order.answerLength ∧
        after.left stream = [] := by
  obtain ⟨line, wrote⟩ := takes
  have opened : perform expectOpen dongle = (.ok (), dongle) := by
    simp only [expectOpen, perform_bind, perform_get, isOpen]
    rfl
  have writes : perform (ExceptT.mk (onLine (SerialLine.write order.line).run)) dongle =
      (.ok (), { dongle with line }) :=
    congrArg (fun ran => (ran.1, { dongle with line := ran.2 })) wrote
  rw [exchange, perform_bind_ok opened, perform_bind_ok writes] at ran
  have waits : stream.unread line = dongle.waiting stream order := stream.written wrote
  rcases read : perform (SerialLine.read order.answerLength) line with ⟨cause | reply, rest⟩
  all_goals
    have reads : perform (ExceptT.mk (onLine (SerialLine.read order.answerLength).run))
        { dongle with line } = (_, { dongle with line := rest }) :=
      congrArg (fun ran => (ran.1, { dongle with line := ran.2 })) read
    rw [reads] at ran
    cases ran
  · obtain ⟨short, nothing⟩ := stream.lost read
    rw [waits] at short
    exact ⟨isOpen, short, nothing⟩
  · obtain ⟨enough, same, behind⟩ := stream.taken read
    rw [waits] at enough same behind
    exact ⟨isOpen, same, enough, behind⟩

/-- An order means what its exchange brought, or fails with it. -/
theorem run_of_exchange {order : Order} {result : Except TransportError (Octets order.answerLength)}
    {after : SerialDongle π}
    (ran : perform (exchange order.line order.answerLength) dongle = (result, after)) :
    order.run dongle =
      (match result with
        | .ok reply => order.decode reply.val
        | .error cause => order.failed cause, after) := by
  cases order with
  | transfer data =>
    have exchanged : (exchange (Dongle.encodeTransfer data [])
      (Dongle.replyLength data.length)).run.run dongle = (result, after) := ran
    change SerialDongle.transfer data dongle = _
    unfold SerialDongle.transfer
    dsimp only
    rw [exchanged]
    cases result <;> rfl
  | release =>
    cases result with
    | ok reply =>
      have released : perform releaseChip dongle =
          (Dongle.checkAcknowledgement reply.val, after) := by
        refine (perform_bind_ok ran).trans ?_
        cases Dongle.checkAcknowledgement reply.val <;> rfl
      rw [Order.run, released]
      rfl
    | error cause =>
      have released : perform releaseChip dongle = (.error cause, after) := perform_bind_error ran
      rw [Order.run, released]
      rfl

/-- An order is decided by the front of what waits. If too little waits, it fails, and
nothing is left. -/
theorem run_order (isOpen : dongle.isOpen = true) {order : Order} (takes : dongle.Takes order) :
    (order.run dongle).2.isOpen = true ∧
      (order.answerLength ≤ (dongle.waiting stream order).length →
        (order.run dongle).1 = order.decode ((dongle.waiting stream order).take order.answerLength) ∧
          (order.run dongle).2.left stream =
            (dongle.waiting stream order).drop order.answerLength) ∧
      ((dongle.waiting stream order).length < order.answerLength →
        (∃ cause, (order.run dongle).1 = order.failed cause) ∧
          (order.run dongle).2.left stream = []) := by
  rcases ran : perform (exchange order.line order.answerLength) dongle with ⟨cause | reply, after⟩
  · obtain ⟨still, short, nothing⟩ := perform_exchange stream isOpen takes ran
    rw [run_of_exchange ran]
    exact ⟨still, fun enough => absurd short (Nat.not_lt.mpr enough),
      fun _ => ⟨⟨cause, rfl⟩, nothing⟩⟩
  · obtain ⟨still, same, enough, behind⟩ := perform_exchange stream isOpen takes ran
    rw [run_of_exchange ran]
    dsimp only
    rw [same]
    exact ⟨still, fun _ => ⟨rfl, behind⟩, fun short => absurd enough (Nat.not_le.mpr short)⟩

/-! ### One exchange after the other -/

variable {stream}

/-- An order, its answer, and what the order came to. -/
structure Turn where
  order : Order
  answer : Bytes
  outcome : Except TransportError Unit × Bytes

/-- Orders that the line took in, one after the other. -/
inductive Course (stream : SerialLine.Stream π) :
    SerialDongle π → List Turn → SerialDongle π → Prop
  | done (dongle : SerialDongle π) : Course stream dongle [] dongle
  | turn {dongle after : SerialDongle π} {turns : List Turn} (order : Order)
      (takes : dongle.Takes order) (rest : Course stream (order.run dongle).2 turns after) :
      Course stream dongle
        (⟨order, stream.answer dongle.line order.line, (order.run dongle).1⟩ :: turns) after

/-- **What is left on the line shifts every answer.** As long as the answers have the length
that they should have, the outcomes are read from the bytes that were left, followed by the
answers, and as many bytes are left at the end. If none were left, each order is decided by
its own answer. -/
theorem answers_shifted {after : SerialDongle π} {turns : List Turn}
    (isOpen : dongle.isOpen = true) (course : Course stream dongle turns after)
    (whole : ∀ turn ∈ turns, turn.answer.length = turn.order.answerLength) :
    turns.map Turn.outcome = Order.decodeAll (turns.map Turn.order)
        (dongle.left stream ++ turns.flatMap Turn.answer) ∧
      (after.left stream).length = (dongle.left stream).length ∧
      (dongle.left stream = [] → ∀ turn ∈ turns, turn.outcome = turn.order.decode turn.answer) := by
  induction course with
  | done dongle => exact ⟨rfl, rfl, nofun⟩
  | @turn dongle after turns order takes rest ih =>
    obtain ⟨length, others⟩ := List.forall_mem_cons.mp whole
    obtain ⟨still, decided, -⟩ := run_order stream isOpen takes
    have waits : dongle.waiting stream order =
        dongle.left stream ++ stream.answer dongle.line order.line := rfl
    have size := congrArg List.length waits
    dsimp only at length
    rw [List.length_append, length] at size
    have enough : order.answerLength ≤ (dongle.waiting stream order).length := by omega
    obtain ⟨outcome, left⟩ := decided enough
    obtain ⟨outcomes, lengths, own⟩ := ih still others
    refine ⟨?_, ?_, fun nothing => List.forall_mem_cons.mpr ⟨?_, own ?_⟩⟩
    · rw [List.map_cons, List.map_cons, List.flatMap_cons, ← List.append_assoc, ← waits,
        Order.decodeAll, List.take_append_of_le_length enough, List.drop_append_of_le_length enough,
        ← left, ← outcomes, ← outcome]
    · rw [lengths, left, List.length_drop]
      omega
    · rw [outcome, waits, nothing, List.nil_append, ← length, List.take_length]
    · rw [left, waits, nothing, List.nil_append, ← length, List.drop_length]

/-- An open dongle on a line that answers two transfers, with so many bytes left on it. -/
def twice (unread : Bytes) : SerialDongle ScriptedLine where
  device := Dongle.defaultDevice
  baudRate := Dongle.defaultBaudRate
  isOpen := true
  line := {
    ScriptedLine.start none [⟨[0x30, 0x31, 0x0D, 0x0A], none, none, false⟩,
      ⟨[0x30, 0x32, 0x0D, 0x0A], none, none, false⟩] with unread }
  random := ⟨fun i => UInt8.ofNat i, 0, none⟩

/-- An answer to nothing, as a reply that came too late is. -/
def surplus : Bytes := [0x30, 0x41, 0x0D, 0x0A]

/-- With a surplus answer on the line, each of two transfers is answered by what came in
before its own answer. -/
theorem twice_shifted :
    ∃ turns after, Course ScriptedLine.stream (twice surplus) turns after ∧
      turns.map Turn.outcome = [(.ok (), [0x0A]), (.ok (), [0x01])] ∧
      turns.map Turn.answer = [[0x30, 0x31, 0x0D, 0x0A], [0x30, 0x32, 0x0D, 0x0A]] ∧
      (after.left ScriptedLine.stream).length = 4 := by
  have course : Course ScriptedLine.stream (twice surplus) _ _ :=
    .turn (.transfer [0x00]) ⟨_, rfl⟩ (.turn (.transfer [0x00]) ⟨_, rfl⟩ (.done _))
  obtain ⟨outcomes, length, -⟩ := answers_shifted rfl course (by decide +kernel)
  exact ⟨_, _, course, outcomes.trans rfl, rfl, length⟩

/-- Lines that react alike, and differ in what was left on them, answer differently. -/
theorem surplus_decides :
    ¬∀ (dongle : SerialDongle ScriptedLine) (unread : Bytes) (order : Order),
      dongle.isOpen = true →
        (order.run { dongle with line := { dongle.line with unread } }).1 =
          (order.run dongle).1 := by
  intro decided
  have same := congrArg Prod.snd (decided (twice []) surplus (.transfer [0x00]) rfl)
  have other : ([0x0A] : Bytes) = [0x01] := same
  exact absurd other (by decide)

end SerialDongle

end SecureElement
