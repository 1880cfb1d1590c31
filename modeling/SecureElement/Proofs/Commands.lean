import SecureElement.Proofs.Operations

/-!
What executing a command does to the sessions.

A command that is refused does nothing. After that every failure ends the host's
session, so what has to be shown is that an exchange in which everything seems to
have gone well has counted one packet in each direction on both sides. The host
takes no response for a result that the chip did not send as one, so it notices
when the chip has given the session up.
-/

namespace SecureElement.Device

open Bus

variable [Primitives] {device after : Device Chip} {host : Session} {frames : Nat}
  {command : Command}

/-! ### Exchanges -/

/-- After an exchange that fails the bus is in order; after one that succeeds,
both parties have counted a packet in each direction. -/
def Exchanged (device : Device Chip) (host : Session) (result : Except Error Bytes)
    (after : Device Chip) : Prop :=
  after.bus.Sound ∧ after.state = device.state ∧ ∀ packet, result = .ok packet →
    ∃ chip, device.chip.session = some chip ∧ after.session = some host.counted ∧
      after.chip.session = some chip.counted ∧ after.chip.pending = []

/-- The host does not collect a result from a chip that has given the session
up. -/
theorem collect_counted {c : Config} {bus : Bus Chip} {chip : Chip} {counted : Session}
    {packet out out' : Bytes} {queue : List Bytes} {length count : Nat} {after : Bus Chip}
    (ready : bus.Ready)
    (same : bus.transport.settled = { chip.opened counted packet with responses := queue })
    (queued : queue = (chip.opened counted packet).responses.tail ∨
      queue = (chip.opened counted packet).responses)
    (collected : (Link.collect c frames out length).run bus = (some (.ok count, out'), after)) :
    (chip.opened counted packet).session =
      some { counted with sending := counted.sending.advance } := by
  obtain ⟨-, -, kept | dropped⟩ := Chip.opened_cases chip counted packet
  · exact kept
  · rw [dropped] at queued
    refine absurd collected ?_
    rcases queued with rfl | rfl
    · have front : bus.transport.settled.front = Chip.frameResponse .genErr [] := by
        rw [same, Chip.front, List.tail_cons, List.headD_cons]
      exact Link.collect_of_front Chip.length_nil_le front ready (by decide)
    · have front : bus.transport.settled.front = Chip.frameResponse .requestOk [] := by
        rw [same, Chip.front, List.headD_cons]
      exact Link.collect_of_front Chip.length_nil_le front ready (by decide)

/-- If a result is collected and opens, both parties have counted it. -/
theorem result_outcome {chip : Chip} {counted : Session} {packet : Bytes} {queue : List Bytes}
    (sound : device.bus.Sound)
    (same : device.chip.settled = { chip.opened counted packet with responses := queue })
    (queued : queue = (chip.opened counted packet).responses.tail ∨
      queue = (chip.opened counted packet).responses)
    (held : device.session = some host) {result : Except Error Bytes}
    (ran : attempt (collectResult frames >>= fun result => bounded (unprotectResult result))
      device = some (result, after)) :
    after.bus.Sound ∧ after.state = device.state ∧ ∀ packet, result = .ok packet →
      after.session = some { host with receiving := host.receiving.advance } ∧
      after.chip.session = some { counted with sending := counted.sending.advance } ∧
      after.chip.pending = [] := by
  have kept := Link.collect_keeps (c := device.config)
    (P := fun other => ∃ queue, other = { chip.opened counted packet with responses := queue })
    (by rintro _ queue' ⟨queue, rfl⟩; exact ⟨queue', rfl⟩) frames device.buffer 0
    ⟨sound, queue, same⟩
  rw [attempt_bind, attempt_collectResult] at ran
  unfold Link.receiveEncrypted at ran
  rcases collected : (Link.collect device.config frames device.buffer 0).run device.bus with
    ⟨_ | ⟨e | count, buffer⟩, bus⟩
  all_goals rw [collected] at ran kept
  · cases ran
  · cases ran
    exact ⟨kept.1, rfl, nofun⟩
  · obtain ⟨sound', queue', same'⟩ := kept
    have session := collect_counted sound.toReady same queued collected
    have pending := (Chip.opened_cases chip counted packet).2.1
    dsimp only [Except.map, mapError_ok] at ran
    rw [attempt_bounded] at ran
    have still : Device.session { device with bus, buffer } = some host := held
    rcases unprotectResult_cases still (buffer.take count) with ⟨e, refused⟩ | ⟨opened, accepted⟩
    · rw [refused] at ran
      cases ran
      exact ⟨sound', rfl, nofun⟩
    · rw [accepted] at ran
      cases ran
      have counted' : bus.transport.settled.session =
          some { counted with sending := counted.sending.advance } := by rw [same']; exact session
      have idle : bus.transport.settled.pending = [] := by rw [same']; exact pending
      exact ⟨sound', rfl, fun _ _ => ⟨rfl, counted', idle⟩⟩

theorem exchange_outcome (sound : device.Sound) (held : device.session = some host)
    {result : Except Error Bytes}
    (ran : attempt (exchange frames command) device = some (result, after)) :
    Exchanged device host result after := by
  obtain ⟨chip, session, pending⟩ := sound.paired host held
  unfold exchange at ran
  rcases attempt_bind_eq_some ran with ⟨e, failed, rfl⟩ | ⟨frame, counted, protected', rest⟩
  · rw [attempt_bounded] at failed
    rcases protectCommand_cases held command with
      ⟨_, buffer, same⟩ | ⟨_, buffer, -, same⟩
    all_goals rw [same] at failed; cases failed
    exact ⟨sound.bus, rfl, nofun⟩
  rw [attempt_bounded] at protected'
  rcases protectCommand_cases held command with
    ⟨_, buffer, same⟩ | ⟨_, buffer, some, same⟩
  all_goals rw [same] at protected'; cases protected'
  have kept := Link.sendChunks_sound (c := device.config) sound.bus
    fun chunk (member : chunk ∈ Frame.chunks frame) => (Frame.bounds_of_mem_chunks member).2
  obtain ⟨-, sent⟩ := Link.leads_sendChunks (c := device.config) (Frame.chunks_ne_nil some)
    (fun chunk member => Frame.bounds_of_mem_chunks member)
    (show device.chip.settled.session = .some chip from session) sound.bus.toReady rfl
  rw [attempt_bind, attempt_sendEncrypted] at rest
  rcases performed : perform (Link.sendChunks device.config (Frame.chunks frame)) device.bus with
    ⟨e | _, bus⟩
  all_goals
    dsimp only at rest
    rw [performed] at rest kept sent
    dsimp only [mapError_ok, mapError_error] at rest
  · cases rest
    exact ⟨kept, rfl, nofun⟩
  · obtain ⟨packet, counted, queue, opens, same, queued⟩ := sent
    obtain ⟨-, rfl, -⟩ := Session.unprotect_eq_ok_iff.mp opens
    obtain ⟨kept', state, counts⟩ := result_outcome kept same (queued.imp_right And.right) rfl rest
    refine ⟨kept', state, fun packet ok => ?_⟩
    obtain ⟨host', chip', idle⟩ := counts packet ok
    exact ⟨chip, session, host', chip', idle⟩

/-! ### Commands -/

/-- A command that is refused changes nothing, one that fails ends the host's
session, and one that does not is counted by both parties. -/
theorem execute_yields (sound : device.Sound) {result : Except Error command.Response}
    (ran : attempt (execute frames command) device = some (result, after)) :
    Yields none device after := by
  cases accepted : refusal? device command with
  | some e =>
    rw [attempt_execute_of_refusal accepted] at ran
    cases ran
    exact ⟨sound.bus, sound.state, .kept rfl rfl rfl⟩
  | none =>
    obtain ⟨host, held⟩ := session_of_refusal accepted
    rw [attempt_execute accepted] at ran
    rcases exchanged : attempt (exchange frames command) device with _ | ⟨e | packet, between⟩
    all_goals rw [exchanged] at ran
    · cases ran
    · obtain ⟨kept, -, -⟩ := exchange_outcome sound held exchanged
      cases ran
      exact ⟨kept, ⟨nofun, nofun⟩, .ended rfl⟩
    · obtain ⟨kept, state, counts⟩ := exchange_outcome sound held exchanged
      obtain ⟨chip, session, host', chip', idle⟩ := counts packet rfl
      cases ran
      refine ⟨kept, ?_, .counted held session host' chip' idle⟩
      dsimp only
      rw [state, sound.state, held, host']
      exact ⟨fun _ => rfl, fun _ => rfl⟩

end SecureElement.Device
