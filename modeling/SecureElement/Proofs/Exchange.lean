import SecureElement.Proofs.Arrival
import SecureElement.Proofs.Phases

/-!
What the host's exchanges with the chip come to.

An exchange is a request and the response to it. A failure to send leaves the
chip apart from the wire as it was; otherwise the request is served once, however
often the host tried. What the host takes from the response has the status that
the chip gave it, so an exchange that succeeds tells what the chip did. On a wire
without faults an exchange succeeds if the chip gives the expected status.
-/

namespace SecureElement

namespace Bus

variable [Primitives]

/-- The bus is between two windows and the chip is sound. -/
structure Sound (bus : Bus Chip) : Prop extends bus.Ready where
  chip : bus.transport.Sound

theorem Sound.of_settled {bus : Bus Chip} {chip : Chip} (ready : bus.Ready) (sound : chip.Sound)
    (same : bus.transport.settled = chip) : bus.Sound := by
  subst same
  exact ⟨ready, sound.like rfl rfl rfl rfl⟩

theorem Sound.settled {bus : Bus Chip} (sound : bus.Sound) : bus.transport.settled.Sound :=
  sound.chip.like rfl rfl rfl rfl

end Bus

namespace Link

open Bus

/-- A request and the data of a response of the expected status. -/
def turn {σ : Type} [Transport σ] (c : Config) (id : UInt8) (data : Bytes) (expected : Status) :
    BusM σ Bytes := do
  send c id data
  let reply ← receive c
  expectStatus reply expected
  return reply.data

theorem sendChunks_cons {σ : Type} [Transport σ] (c : Config) (chunk : Bytes) (rest : List Bytes) :
    (sendChunks c (chunk :: rest) : BusM σ Unit) =
      turn c RequestId.encryptedCommand chunk (if rest = [] then .requestOk else .requestCont) >>=
        fun _ => sendChunks c rest := by
  simp only [sendChunks, turn, bind_assoc, pure_bind]

variable [Primitives] {c : Config} {bus : Bus Chip} {id : UInt8} {data : Bytes}

/-! ### What exchanges keep -/

section

variable {P : Chip → Prop}

/-- A property of the chip apart from the wire that outlasts a request holds
after it is sent. -/
theorem keeps_send (short : data.length ≤ Frame.maxData)
    (served : ∀ chip, P chip → P (chip.served ⟨id, data⟩)) :
    Keeps (fun bus => bus.Sound ∧ P bus.transport.settled) (send c id data : BusM Chip Unit) := by
  rintro bus ⟨sound, held⟩
  obtain ⟨follows, ⟨-, same⟩ | ⟨-, -, same⟩⟩ := leads_send (c := c) id short sound.toReady
  · exact ⟨.of_settled follows.ready (sound.settled.served ⟨id, data⟩) same, same ▸ served _ held⟩
  · exact ⟨.of_settled follows.ready sound.settled same, same ▸ held⟩

/-- A property of the chip apart from the wire that does not look at the queue
holds after a response is read. -/
theorem keeps_receive (unread : ∀ chip queue, P chip → P { chip with responses := queue }) :
    Keeps (fun bus => bus.Sound ∧ P bus.transport.settled)
      (receive c : BusM Chip Frame.Reply) := by
  rintro bus ⟨sound, held⟩
  obtain ⟨status, data, short, front⟩ := sound.settled.framed.front
  obtain ⟨follows, queue, tails, same, -⟩ := leads_receive (c := c) short front sound.toReady rfl
  refine ⟨.of_settled follows.ready (sound.settled.unread ?_) same, same ▸ unread _ queue held⟩
  rcases tails with rfl | rfl
  · exact sound.settled.framed
  · exact sound.settled.framed.tail

/-- What a request and reading a response keep, an exchange keeps. -/
theorem keeps_turn (short : data.length ≤ Frame.maxData)
    (served : ∀ chip, P chip → P (chip.served ⟨id, data⟩))
    (unread : ∀ chip queue, P chip → P { chip with responses := queue }) (expected : Status) :
    Keeps (fun bus => bus.Sound ∧ P bus.transport.settled)
      (turn c id data expected : BusM Chip Bytes) := by
  refine .bind (keeps_send short served) fun _ =>
    .bind (keeps_receive unread) fun reply => .bind ?_ fun _ => .pure _
  unfold expectStatus
  split
  · exact .pure ()
  · exact .throw _

end

/-- An exchange keeps the chip sound, whatever is asked. -/
theorem turn_sound (id : UInt8) (sound : bus.Sound) (short : data.length ≤ Frame.maxData)
    (expected : Status) :
    (perform (turn c id data expected) bus).2.Sound :=
  (keeps_turn (P := fun _ => True) short (fun _ held => held) (fun _ _ held => held) expected bus
    ⟨sound, trivial⟩).1

theorem sendChunks_sound (sound : bus.Sound) {chunks : List Bytes}
    (short : ∀ chunk ∈ chunks, chunk.length ≤ Frame.maxData) :
    (perform (sendChunks c chunks) bus).2.Sound := by
  have kept : Keeps Bus.Sound (sendChunks c chunks : BusM Chip Unit) := by
    induction chunks with
    | nil => exact .pure ()
    | cons chunk rest ih =>
      rw [sendChunks_cons]
      exact .bind (fun bus sound => turn_sound _ sound (short chunk (List.mem_cons_self ..)) _)
        fun _ => ih fun other member => short other (List.mem_cons_of_mem chunk member)
  exact kept bus sound

/-! ### Exchanges -/

/-- Outcome of an exchange with a chip whose response to the request has the given
status and data: the response, if it was expected, or on a faulty wire data of
another length, or a failure. -/
def Answered (served : Chip) (status : Status) (genuine : Bytes) (expected : Status) (tries : Nat)
    (clear : Prop) : Except Error Bytes → Bus Chip → Prop
  | .ok data, after => status = expected ∧ ∃ queue,
      after.transport.settled = { served with responses := queue } ∧
        (data = genuine ∧ queue = served.responses.tail ∨
          ¬clear ∧ (queue = served.responses ∨ queue = served.responses.tail) ∧
            data.length ≠ genuine.length)
  | .error _, _ => ¬(clear ∧ 0 < tries ∧ status = expected)

theorem leads_turn {status : Status} (expected : Status) {genuine : Bytes}
    (short : data.length ≤ Frame.maxData) (small : genuine.length ≤ Frame.maxData)
    (front : (bus.transport.settled.served ⟨id, data⟩).front = Chip.frameResponse status genuine)
    (ready : bus.Ready) :
    Leads (turn c id data expected) bus (Answered (bus.transport.settled.served ⟨id, data⟩) status
      genuine expected c.readMaxTries.toNat bus.transport.wire.Clear) := by
  rw [Chip.frameResponse_eq small] at front
  refine (leads_send id short ready).bind ?_ ?_
  · rintro e after (⟨ok, -⟩ | ⟨-, unclear, -⟩)
    · cases ok
    · exact fun h => unclear h.1
  rintro _ between sent (⟨-, same⟩ | ⟨⟨cause, failed⟩, -⟩)
  · refine (leads_receive small front sent.ready same).bind ?_ ?_
    · rintro e after ⟨queue, -, -, failed⟩
      exact fun h => failed ⟨sent.clear h.1, h.2.1⟩
    · rintro reply after received ⟨queue, tails, kept, read, outcome⟩
      unfold expectStatus
      split
      · rename_i expects
        refine .of_eq rfl (.refl received.ready) ⟨read ▸ expects, queue, kept, ?_⟩
        rcases outcome with genuine | ⟨unclear, other⟩
        · exact .inl genuine
        · exact .inr ⟨unclear ∘ sent.clear, tails, other⟩
      · rename_i unexpected
        exact .of_eq rfl (.refl received.ready) fun h => unexpected (read.trans h.2.2)
  · cases failed

/-! ### Sending a command -/

/-- Outcome of sending a command in pieces to a chip with a session: it has opened
and was answered, the first response of which is read, or there is a failure. -/
def Delivered (chip : Chip) (session : Session) (command : Bytes) (tries : Nat) (clear : Prop) :
    Except Error Unit → Bus Chip → Prop
  | .ok (), after => ∃ packet counted queue,
      session.unprotect command = .ok (packet, counted) ∧
        after.transport.settled = { chip.opened counted packet with responses := queue } ∧
        (queue = (chip.opened counted packet).responses.tail ∨
          ¬clear ∧ queue = (chip.opened counted packet).responses)
  | .error _, _ => ¬(clear ∧ 0 < tries ∧
      ∃ packet counted, session.unprotect command = .ok (packet, counted))

theorem Delivered.weaker {chip : Chip} {session : Session} {command : Bytes} {tries : Nat}
    {clear clear' : Prop} {result : Except Error Unit} {after : Bus Chip}
    (delivered : Delivered chip session command tries clear' result after)
    (earlier : clear → clear') : Delivered chip session command tries clear result after := by
  cases result with
  | ok =>
    obtain ⟨packet, counted, queue, opens, same, tails⟩ := delivered
    exact ⟨packet, counted, queue, opens, same,
      tails.imp_right fun ⟨unclear, whole⟩ => ⟨unclear ∘ earlier, whole⟩⟩
  | error e => exact fun h => delivered ⟨earlier h.1, h.2⟩

/-- A command that is sent in pieces is opened if and only if it opens as a
whole. -/
theorem leads_sendChunks {session : Session} {chip : Chip} {chunks : List Bytes}
    (some : chunks ≠ [])
    (bounds : ∀ chunk ∈ chunks, chunk ≠ [] ∧ chunk.length ≤ Frame.maxData)
    (held : chip.session = .some session) (ready : bus.Ready)
    (same : bus.transport.settled = chip) :
    Leads (sendChunks c chunks) bus (Delivered chip session (chip.pending ++ chunks.flatten)
      c.readMaxTries.toNat bus.transport.wire.Clear) := by
  induction chunks generalizing bus chip with
  | nil => exact absurd rfl some
  | cons chunk rest ih =>
    obtain ⟨-, short⟩ := bounds chunk (List.mem_cons_self ..)
    have later := fun other member => bounds other (List.mem_cons_of_mem chunk member)
    rw [sendChunks_cons, List.flatten_cons, ← List.append_assoc]
    subst same
    by_cases last : rest = []
    · subst last
      obtain ⟨status, front, completes, expects⟩ := Chip.front_of_last held chunk
      rw [if_pos rfl, List.flatten_nil, List.append_nil]
      refine (leads_turn _ short Chip.length_nil_le front ready).bind ?_ ?_
      · rintro e after failed ⟨clear, tried, packet, counted, opens⟩
        exact failed ⟨clear, tried, expects packet counted opens⟩
      · rintro data after follows ⟨ok, queue, kept, outcome⟩
        obtain ⟨packet, counted, opens, served⟩ := completes ok
        rw [served] at kept outcome
        refine .of_eq (perform_pure () after) (.refl follows.ready)
          ⟨packet, counted, queue, opens, kept, ?_⟩
        rcases outcome with ⟨-, read⟩ | ⟨unclear, whole | read, -⟩
        · exact .inl read
        · exact .inr ⟨unclear, whole⟩
        · exact .inl read
    · have more : rest.flatten ≠ [] := by
        obtain ⟨first, rest, rfl⟩ := List.exists_cons_of_ne_nil last
        intro empty
        rw [List.flatten_cons, List.append_eq_nil_iff] at empty
        exact (later first (List.mem_cons_self ..)).1 empty.1
      obtain ⟨status, front, waits, expects⟩ := Chip.front_of_piece held chunk more
      rw [if_neg last]
      refine (leads_turn _ short Chip.length_nil_le front ready).bind ?_ ?_
      · rintro e after failed ⟨clear, tried, packet, counted, opens⟩
        exact failed ⟨clear, tried, expects packet counted opens⟩
      · rintro data after follows ⟨ok, queue, kept, -⟩
        rw [waits ok] at kept
        have still : Chip.session { bus.transport.settled.awaiting chunk with responses := queue } =
          .some session := held
        have behind := ih last later still follows.ready kept
        exact behind.mono fun result final outcome => outcome.weaker follows.clear

/-! ### Collecting a result -/

/-- What reading a response keeps, collecting a result keeps. -/
theorem collect_keeps {P : Chip → Prop}
    (unread : ∀ chip queue, P chip → P { chip with responses := queue }) (frames : Nat)
    (out : Bytes) (length : Nat) (held : bus.Sound ∧ P bus.transport.settled) :
    ((collect c frames out length).run bus).2.Sound ∧
      P ((collect c frames out length).run bus).2.transport.settled := by
  induction frames generalizing bus out length with
  | zero => exact held
  | succ frames ih =>
    have kept := keeps_receive (c := c) unread bus held
    rw [run_collect]
    rcases performed : perform (receive c) bus with ⟨_ | reply, after⟩
    all_goals rw [performed] at kept
    · exact kept
    · dsimp only
      split
      · split
        · exact kept
        · split
          · exact kept
          · exact ih (out.overlay length reply.data) (length + reply.data.length) kept
      · exact kept

/-- Nothing is collected if the first response is no result. -/
theorem collect_of_front {status : Status} {data : Bytes} (short : data.length ≤ Frame.maxData)
    (front : bus.transport.settled.front = Chip.frameResponse status data) (ready : bus.Ready)
    (other : status ≠ .resultCont ∧ status ≠ .resultOk) {frames : Nat} {out out' : Bytes}
    {length count : Nat} {after : Bus Chip} :
    (collect c frames out length).run bus ≠ (some (.ok count, out'), after) := by
  intro collected
  cases frames with
  | zero => cases collected
  | succ frames =>
    rw [Chip.frameResponse_eq short] at front
    obtain ⟨-, queue, -, -, read⟩ := leads_receive (c := c) short front ready rfl
    rw [run_collect] at collected
    rcases performed : perform (receive c) bus with ⟨_ | reply, between⟩
    · rw [performed] at collected
      cases collected
    · rw [performed] at collected read
      dsimp only at collected read
      rw [if_neg (by rw [read.1]; simp [other])] at collected
      cases collected

/-- On a wire without faults the result is collected as it was queued. -/
theorem collect_results {chunks : List Bytes} (some : chunks ≠ [])
    (short : ∀ chunk ∈ chunks, chunk.length ≤ Frame.maxData)
    (queued : bus.transport.settled.responses = Chip.resultFrames chunks) (ready : bus.Ready)
    (clear : bus.transport.wire.Clear) (tries : 0 < c.readMaxTries.toNat) {frames : Nat}
    (enough : chunks.length ≤ frames) {out front : Bytes}
    (room : front.length + chunks.flatten.length ≤ out.length)
    (written : out.take front.length = front) :
    ∃ out' after, (collect c frames out front.length).run bus =
        (.some (.ok (front.length + chunks.flatten.length), out'), after) ∧
      out'.length = out.length ∧
      out'.take (front.length + chunks.flatten.length) = front ++ chunks.flatten ∧
      Follows bus after ∧
      after.transport.settled = { bus.transport.settled with responses := [] } := by
  induction chunks generalizing bus frames out front with
  | nil => exact absurd rfl some
  | cons chunk rest ih =>
    obtain ⟨frames, rfl⟩ : ∃ more, frames = more + 1 :=
      Nat.exists_eq_succ_of_ne_zero (by rw [List.length_cons] at enough; omega)
    have small := short chunk (List.mem_cons_self ..)
    have first : bus.transport.settled.front =
        Frame.encode (Status.byte (if rest = [] then .resultOk else .resultCont)) chunk := by
      rw [Chip.front, queued, Chip.resultFrames, List.headD_cons, Chip.frameResponse_eq small]
    obtain ⟨follows, queue, -, same, outcome⟩ := leads_receive (c := c) small first ready rfl
    rw [run_collect]
    rcases performed : perform (receive c) bus with ⟨e | reply, after⟩
    · rw [performed] at outcome
      exact absurd ⟨clear, tries⟩ outcome
    · rw [performed] at follows same outcome
      obtain ⟨read, outcome⟩ := outcome
      obtain ⟨genuine, rfl⟩ := outcome.resolve_right fun unclear => unclear.1 clear
      rw [queued] at same
      dsimp only at same ⊢
      rw [read, genuine]
      rw [List.flatten_cons, List.length_append] at room
      rw [List.flatten_cons, List.length_append]
      have fits : front.length + chunk.length ≤ out.length := by omega
      have whole := Bytes.take_overlay_append fits written
      have size : (out.overlay front.length chunk).length = out.length :=
        Bytes.length_overlay fits
      by_cases last : rest = []
      · subst last
        rw [if_pos rfl, if_pos (.inr rfl), if_neg (by omega), if_pos rfl, List.flatten_nil,
          List.length_nil, List.append_nil, Nat.add_zero]
        exact ⟨_, after, rfl, size, whole, follows, same⟩
      · rw [if_neg last, if_pos (.inl rfl), if_neg (by omega), if_neg (by decide),
          ← List.length_append, ← List.append_assoc, ← Nat.add_assoc, ← List.length_append]
        rw [← List.length_append] at whole
        have fewer : rest.length ≤ frames := Nat.le_of_succ_le_succ enough
        obtain ⟨out', final, collected, length, taken, behind, empty⟩ := ih last
          (fun other member => short other (List.mem_cons_of_mem chunk member))
          (by rw [same]; rfl) follows.ready (follows.clear clear)
          fewer
          (by rw [size, List.length_append]; omega) whole
        refine ⟨out', final, collected, length.trans size, taken, follows.trans behind, ?_⟩
        rw [empty, same]

end Link

end SecureElement
