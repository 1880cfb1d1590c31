import SecureElement.Proofs.Agreement
import SecureElement.Proofs.Replies
import SecureElement.Proofs.Results

/-!
What serving a request does to the chip.

Whatever a request holds, every response in the queue stays a frame, the memory
stays valid and the certificate stays that of the static key (`Chip.Sound`). The
session is touched by few requests, and how is said of each of them.
-/

namespace SecureElement

namespace Chip

/-! ### Responses -/

theorem length_nil_le : ([] : Bytes).length ≤ Frame.maxData := Nat.zero_le _

/-- Every response is a frame. -/
def Framed (responses : List Bytes) : Prop :=
  ∀ response ∈ responses, ∃ (status : Status) (data : Bytes),
    data.length ≤ Frame.maxData ∧ response = Frame.encode status.byte data

theorem Framed.nil : Framed [] := nofun

theorem Framed.append {left right : List Bytes} (first : Framed left) (second : Framed right) :
    Framed (left ++ right) := by
  intro response member
  rcases List.mem_append.mp member with here | there
  · exact first response here
  · exact second response there

theorem Framed.one (status : Status) {data : Bytes} (short : data.length ≤ Frame.maxData) :
    Framed [frameResponse status data] := by
  intro response member
  rw [List.mem_singleton.mp member, frameResponse_eq short]
  exact ⟨status, data, short, rfl⟩

theorem Framed.tail {responses : List Bytes} (framed : Framed responses) :
    Framed responses.tail :=
  fun response member => framed response (List.mem_of_mem_tail member)

/-- What a poll clocks out is a frame. -/
theorem Framed.front {chip : Chip} (framed : Framed chip.responses) :
    ∃ (status : Status) (data : Bytes), data.length ≤ Frame.maxData ∧
      chip.front = Frame.encode status.byte data := by
  unfold Chip.front
  cases queued : chip.responses with
  | nil =>
    refine ⟨.noResp, [], length_nil_le, ?_⟩
    rw [List.headD_nil, frameResponse_eq length_nil_le]
  | cons response rest =>
    rw [queued] at framed
    exact framed response (List.mem_cons_self ..)

theorem front_respond (chip : Chip) (empty : chip.responses = []) (status : Status)
    (data : Bytes) : (chip.respond status data).front = frameResponse status data := by
  rw [front, respond, empty]
  rfl

/-- The frames of a result. -/
def resultFrames : List Bytes → List Bytes
  | [] => []
  | chunk :: rest =>
    frameResponse (if rest = [] then .resultOk else .resultCont) chunk :: resultFrames rest

theorem respondChunks_eq (chip : Chip) (chunks : List Bytes) :
    chip.respondChunks chunks =
      { chip with responses := chip.responses ++ resultFrames chunks } := by
  induction chunks generalizing chip with
  | nil => simp [respondChunks, resultFrames]
  | cons chunk rest ih => simp [respondChunks, resultFrames, ih, respond]

theorem Framed.results {chunks : List Bytes}
    (short : ∀ chunk ∈ chunks, chunk.length ≤ Frame.maxData) : Framed (resultFrames chunks) := by
  induction chunks with
  | nil => exact .nil
  | cons chunk rest ih =>
    have later := ih fun other member => short other (List.mem_cons_of_mem chunk member)
    exact (Framed.one _ (short chunk (List.mem_cons_self ..))).append later

theorem Framed.chunks (packet : Bytes) : Framed (resultFrames (Frame.chunks packet)) :=
  .results fun _ member => (Frame.bounds_of_mem_chunks member).2

/-! ### Soundness -/

variable [Primitives]

/-- What holds of the chip whatever it is asked. -/
structure Sound (chip : Chip) : Prop where
  framed : Framed chip.responses
  memory : chip.store.Valid
  certified : chip.certificate = certificateOf chip.publicKey

variable {chip : Chip}

/-- Soundness does not depend on the session or on the random source. -/
theorem Sound.like {other : Chip} (sound : chip.Sound)
    (responses : other.responses = chip.responses) (store : other.store = chip.store)
    (certificate : other.certificate = chip.certificate) (key : other.staticKey = chip.staticKey) :
    other.Sound := by
  refine ⟨responses ▸ sound.framed, store ▸ sound.memory, ?_⟩
  rw [certificate, sound.certified, publicKey, publicKey, key]

theorem Sound.unread (sound : chip.Sound) {responses : List Bytes} (framed : Framed responses) :
    Sound { chip with responses } :=
  ⟨framed, sound.memory, sound.certified⟩

theorem Sound.respond (sound : chip.Sound) (status : Status) {data : Bytes}
    (short : data.length ≤ Frame.maxData) : (chip.respond status data).Sound :=
  ⟨sound.framed.append (.one status short), sound.memory, sound.certified⟩

theorem Sound.getInfo (sound : chip.Sound) (data : Bytes) : (chip.getInfo data).Sound := by
  unfold Chip.getInfo
  split
  · split
    · exact sound.respond _ length_nil_le
    · dsimp only
      split
      · exact sound.respond _ length_nil_le
      · refine sound.respond _ (Nat.le_trans (List.length_take_le ..) (by decide))
  · exact sound.respond _ length_nil_le

theorem Sound.handshake (sound : chip.Sound) (data : Bytes) : (chip.handshake data).Sound := by
  unfold Chip.handshake
  dsimp only
  split
  · rename_i response keys answered
    have short : response.length ≤ Frame.maxData := by
      rw [Responder.length_of_answer answered]
      decide
    refine Sound.respond (sound.like ?_ ?_ ?_ ?_) _ short <;> rfl
  · refine Sound.respond (sound.like ?_ ?_ ?_ ?_) _ length_nil_le <;> rfl

theorem Sound.sendResult (sound : chip.Sound) (packet : Bytes) :
    (chip.sendResult packet).Sound := by
  unfold Chip.sendResult
  split
  · exact sound.respond _ length_nil_le
  · dsimp only
    split
    · refine Sound.respond (sound.like ?_ ?_ ?_ ?_) _ length_nil_le <;> rfl
    · rw [respondChunks_eq]
      exact ⟨sound.framed.append (.chunks _), sound.memory, sound.certified⟩

theorem execute_eq (chip : Chip) (packet : Bytes) :
    chip.execute packet =
      let executed := chip.store.execute chip.random packet
      { chip with store := executed.2.1, random := executed.2.2 }.sendResult executed.1 := rfl

theorem Sound.execute (sound : chip.Sound) (packet : Bytes) : (chip.execute packet).Sound := by
  have memory := Store.execute_valid sound.memory chip.random packet
  rw [execute_eq]
  refine Sound.sendResult ?_ _
  exact ⟨sound.framed, memory, sound.certified⟩

theorem Sound.openCommand (sound : chip.Sound) (session : Session) (frame : Bytes) :
    (chip.openCommand session frame).Sound := by
  unfold Chip.openCommand
  split
  · refine Sound.execute (Sound.respond (sound.like ?_ ?_ ?_ ?_) _ length_nil_le) _ <;> rfl
  · refine Sound.respond (sound.like ?_ ?_ ?_ ?_) _ length_nil_le <;> rfl

theorem Sound.encryptedCommand (sound : chip.Sound) (chunk : Bytes) :
    (chip.encryptedCommand chunk).Sound := by
  have other (pending : Bytes) : Sound { chip with pending } := sound.like rfl rfl rfl rfl
  unfold Chip.encryptedCommand
  split
  · exact (other []).respond _ length_nil_le
  · dsimp only
    split
    · exact (other _).respond _ length_nil_le
    · split
      · exact (other []).respond _ length_nil_le
      · exact (other []).openCommand _ _

theorem Sound.sleep (sound : chip.Sound) (data : Bytes) : (chip.sleep data).Sound := by
  unfold Chip.sleep
  split
  · exact sound.respond _ length_nil_le
  · split
    · refine Sound.respond (sound.like ?_ ?_ ?_ ?_) _ length_nil_le <;> rfl
    · exact sound.respond _ length_nil_le

theorem Sound.startup (sound : chip.Sound) (data : Bytes) : (chip.startup data).Sound := by
  unfold Chip.startup
  split
  · refine Sound.respond (sound.like ?_ ?_ ?_ ?_) _ length_nil_le <;> rfl
  · exact sound.respond _ length_nil_le

/-- Serving a request keeps the chip sound. -/
theorem Sound.served (sound : chip.Sound) (request : Frame.Request) :
    (chip.served request).Sound := by
  have emptied := sound.unread .nil
  unfold Chip.served Chip.serve
  split
  · exact emptied.getInfo _
  · exact emptied.handshake _
  · exact emptied.encryptedCommand _
  · refine Sound.respond (emptied.like ?_ ?_ ?_ ?_) _ length_nil_le <;> rfl
  · exact emptied.sleep _
  · exact emptied.startup _
  · exact emptied.respond _ length_nil_le

/-! ### Effects -/

/-- Asking for information changes nothing but the queue, which then holds the answer. -/
theorem served_getInfo (chip : Chip) (data : Bytes) :
    ∃ answer, chip.served ⟨RequestId.getInfo, data⟩ = { chip with responses := [answer] } := by
  change ∃ answer, { chip with responses := [] }.getInfo data = _
  unfold Chip.getInfo
  split
  · split
    · exact ⟨_, rfl⟩
    · dsimp only
      split
      · exact ⟨_, rfl⟩
      · exact ⟨_, rfl⟩
  · exact ⟨_, rfl⟩

/-- Light sleep changes nothing but the queue. -/
theorem served_sleep (chip : Chip) :
    chip.served ⟨RequestId.sleep, [SleepKind.sleep.byte]⟩ =
      { chip with responses := [frameResponse .requestOk []] } := rfl

/-- The chip when it has ended its session and says so. -/
def ended (chip : Chip) : Chip :=
  { chip.dropSession with responses := [frameResponse .requestOk []] }

theorem served_abort (chip : Chip) :
    chip.served ⟨RequestId.sessionAbort, []⟩ = chip.ended := rfl

theorem served_deepSleep (chip : Chip) :
    chip.served ⟨RequestId.sleep, [SleepKind.deepSleep.byte]⟩ = chip.ended := rfl

theorem served_startup (chip : Chip) (kind : StartupKind) :
    chip.served ⟨RequestId.startup, [kind.byte]⟩ = chip.ended := by
  cases kind <;> rfl

/-- The chip as it answers a handshake. -/
def responder (chip : Chip) : Responder := ⟨chip.suite, chip.staticKey, (chip.random.draw 32).1⟩

/-- The chip after a handshake that it answers. -/
def met (chip : Chip) (response : Bytes) (keys : SessionKeys) : Chip :=
  { chip.dropSession with
    random := (chip.random.draw 32).2
    session := some (Session.forChip chip.suite keys)
    responses := [frameResponse .requestOk response] }

theorem served_handshake (chip : Chip) {data response : Bytes} {keys : SessionKeys}
    (answered : chip.responder.answer data chip.store.pairingKey? = .ok (response, keys)) :
    chip.served ⟨RequestId.handshake, data⟩ = chip.met response keys := by
  change { chip with responses := [] }.handshake data = _
  unfold Chip.handshake
  dsimp only
  split
  · rename_i outcome
    cases answered.symm.trans outcome
    rfl
  · rename_i outcome
    cases answered.symm.trans outcome

/-- A handshake that the chip does not answer ends its session all the same. -/
theorem served_handshake_error (chip : Chip) {data : Bytes} {cause : HandshakeError}
    (refused : chip.responder.answer data chip.store.pairingKey? = .error cause) :
    chip.served ⟨RequestId.handshake, data⟩ =
      { chip.dropSession with
        random := (chip.random.draw 32).2
        responses := [frameResponse .handshakeErr []] } := by
  change { chip with responses := [] }.handshake data = _
  unfold Chip.handshake
  dsimp only
  split
  · rename_i outcome
    cases refused.symm.trans outcome
  · rfl

end Chip

end SecureElement
