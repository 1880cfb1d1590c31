import SecureElement.Proofs.Arrival
import SecureElement.Proofs.Entries

/-!
Who changes the chip's memory.

A chip-select window may carry any bytes in any number of transfers, and the
chip may be in any state. Its store is touched only when the window is closed and
was a request that completes an encrypted command which the session opens
(`Chip.Opens`); what the command does to the store is what it does to any store
(`Store.execute_changes`). So everything that is kept in the chip was put there by
who holds the keys of the session.
-/

namespace SecureElement.Chip

variable (chip : Chip)

/-! ### Transfers -/

/-- The chip after several transfers. -/
def clocked (chip : Chip) (regions : List Bytes) : Chip :=
  regions.foldl (fun chip region => (chip.clock region).2) chip

/-- What has come in in the window that is open, if one is. -/
def underway (chip : Chip) : Bytes :=
  if chip.window.selected then chip.window.received else []

/-- A transfer changes nothing but the wire. -/
theorem settled_clock (region : Bytes) : (chip.clock region).2.settled = chip.settled := by
  unfold clock
  split
  · rfl
  · dsimp only
    split
    · rfl
    · dsimp only
      split
      · unfold startPoll
        split <;> rfl
      · rfl

/-- The window stays open, and if it did not fail, what came in before is followed by
what was transferred. -/
theorem received_clock (region : Bytes) (selected : chip.window.selected = true) :
    (chip.clock region).2.window.selected = true ∧
      ((chip.clock region).2.window.failed = false → chip.window.failed = false ∧
        (chip.clock region).2.window.received = chip.window.received ++ region) := by
  unfold clock
  rw [if_neg (by simp [selected])]
  dsimp only
  split
  · exact ⟨selected, nofun⟩
  · dsimp only
    split
    · unfold startPoll
      split
      · exact ⟨selected, fun fine => ⟨fine, rfl⟩⟩
      · exact ⟨selected, fun fine => ⟨fine, rfl⟩⟩
    · exact ⟨selected, fun fine => ⟨fine, rfl⟩⟩

theorem settled_clocked (regions : List Bytes) :
    (chip.clocked regions).settled = chip.settled := by
  induction regions generalizing chip with
  | nil => rfl
  | cons region rest ih => exact (ih _).trans (settled_clock chip region)

theorem received_clocked (regions : List Bytes) (selected : chip.window.selected = true)
    (fine : (chip.clocked regions).window.failed = false) :
    chip.window.failed = false ∧
      (chip.clocked regions).window.received = chip.window.received ++ regions.flatten := by
  induction regions generalizing chip with
  | nil => exact ⟨fine, (List.append_nil _).symm⟩
  | cons region rest ih =>
    obtain ⟨selected', first⟩ := received_clock chip region selected
    obtain ⟨fine', whole⟩ := ih (chip.clock region).2 selected' fine
    obtain ⟨before, received⟩ := first fine'
    refine ⟨before, whole.trans ?_⟩
    rw [received, List.append_assoc, List.flatten_cons]

/-! ### Serving a request -/

theorem store_getInfo (data : Bytes) : (chip.getInfo data).store = chip.store := by
  unfold getInfo
  split
  · split
    · rfl
    · dsimp only
      split <;> rfl
  · rfl

theorem store_sleep (data : Bytes) : (chip.sleep data).store = chip.store := by
  unfold sleep
  split
  · rfl
  · split <;> rfl

theorem store_startup (data : Bytes) : (chip.startup data).store = chip.store := by
  unfold startup
  split <;> rfl

section

variable [Primitives]

/-- The bytes of a window are a request whose piece completes an encrypted command
that the session opens to `packet`, as the next one in order. -/
def Opens (received packet : Bytes) : Prop :=
  ∃ chunk rest session, chunk.length ≤ Frame.maxData ∧
    received = Frame.encode RequestId.encryptedCommand chunk ++ rest ∧
    chip.session = some session ∧
    session.unprotect (chip.pending ++ chunk) =
      .ok (packet, { session with receiving := session.receiving.advance })

variable {chip} in
/-- Bytes open to one packet at most. -/
theorem Opens.unique {received packet other : Bytes}
    (opens : chip.Opens received packet) (opens' : chip.Opens received other) :
    packet = other := by
  obtain ⟨chunk, rest, session, short, rfl, held, opened⟩ := opens
  obtain ⟨chunk', rest', session', short', same, held', opened'⟩ := opens'
  have parsed : Frame.parseRequest (Frame.encode RequestId.encryptedCommand chunk ++ rest) =
      .ok ⟨_, chunk⟩ := Frame.parseRequest_encode short rest
  rw [same, Frame.parseRequest_encode short'] at parsed
  cases parsed
  rw [held] at held'
  cases held'
  rw [opened] at opened'
  cases opened'
  rfl

theorem store_sendResult (packet : Bytes) :
    (chip.sendResult packet).store = chip.store := by
  unfold sendResult
  split
  · rfl
  · dsimp only
    split
    · rfl
    · rw [respondChunks_eq]

theorem store_handshake (data : Bytes) : (chip.handshake data).store = chip.store := by
  unfold handshake
  dsimp only
  split <;> rfl

/-- A piece of an encrypted command touches the store if it completes a command
that opens, and not otherwise. -/
theorem store_encryptedCommand (chunk : Bytes) :
    (chip.encryptedCommand chunk).store = chip.store ∨
      ∃ session packet, chip.session = some session ∧
        session.unprotect (chip.pending ++ chunk) =
          .ok (packet, { session with receiving := session.receiving.advance }) ∧
        (chip.encryptedCommand chunk).store = (chip.store.execute chip.random packet).2.1 := by
  unfold encryptedCommand
  split
  · exact .inl rfl
  · rename_i session held
    dsimp only
    split
    · exact .inl rfl
    · split
      · exact .inl rfl
      · unfold openCommand
        split
        · rename_i packet after opened
          obtain ⟨-, rfl, -⟩ := Session.unprotect_eq_ok_iff.mp opened
          refine .inr ⟨session, packet, held, opened, ?_⟩
          rw [execute_eq]
          dsimp only
          rw [store_sendResult]
          rfl
        · exact .inl rfl

/-- The bytes of a window touch the store if they open, and not otherwise. -/
theorem store_processRequest (received : Bytes) :
    (chip.processRequest received).store = chip.store ∨
      ∃ packet, chip.Opens received packet ∧
        (chip.processRequest received).store = (chip.store.execute chip.random packet).2.1 := by
  unfold processRequest
  dsimp only
  split
  · rename_i request parsed
    obtain ⟨short, rest, framed⟩ := Frame.parseRequest_eq_ok_iff.mp parsed
    obtain ⟨id, data⟩ := request
    unfold serve
    dsimp only at framed short ⊢
    split
    · exact .inl (store_getInfo _ _)
    · exact .inl (store_handshake _ _)
    · obtain kept | ⟨session, packet, held, opened, executed⟩ :=
        store_encryptedCommand { chip with responses := [] } data
      · exact .inl kept
      · exact .inr ⟨packet, ⟨data, rest, session, short, framed, held, opened⟩, executed⟩
    · exact .inl rfl
    · exact .inl (store_sleep _ _)
    · exact .inl (store_startup _ _)
    · exact .inl rfl
  · exact .inl rfl
  · exact .inl rfl

/-! ### Windows -/

/-- The chip after a chip-select window with several transfers. -/
def exchanged (chip : Chip) (regions : List Bytes) : Chip :=
  ((perform Transport.select chip).2.clocked regions).close

/-- A window touches the store when it is closed, if its bytes open, and not
otherwise. -/
theorem store_close : chip.close.store = chip.store ∨
    chip.window.selected = true ∧ chip.window.failed = false ∧
      ∃ packet, chip.Opens chip.window.received packet ∧
        chip.close.store = (chip.store.execute chip.random packet).2.1 := by
  unfold close
  split
  · exact .inl rfl
  · rename_i selected
    dsimp only
    split
    · exact .inl rfl
    · rename_i fine
      split
      · split <;> exact .inl rfl
      · exact .inl rfl
      · split
        · exact .inl rfl
        · obtain kept | executed := store_processRequest { chip with window := { chip.window with
              selected := false, received := [], poll := none, failed := false } }
              chip.window.received
          · exact .inl kept
          · exact .inr ⟨by simpa using selected, by simpa using fine, executed⟩

/-- A window that is open is not opened again. -/
theorem perform_select_of_open (selected : chip.window.selected = true) :
    perform (Transport.select : ExceptT TransportError (StateM Chip) Unit) chip =
      (.error (.bus "chip select already asserted"), chip) := by
  simp only [Transport.select, perform_bind, perform_get, selected]
  rfl

/-- An opened window, whether it was open before. -/
theorem select_opens :
    (perform Transport.select chip).2.settled = chip.settled ∧
      (perform Transport.select chip).2.window.selected = true ∧
      (perform Transport.select chip).2.window.received = chip.underway := by
  by_cases selected : chip.window.selected = true
  · rw [chip.perform_select_of_open selected, underway, if_pos selected]
    exact ⟨rfl, selected, rfl⟩
  · have closed : chip.window.selected = false := by simpa using selected
    rw [perform_select closed, underway, if_neg selected]
    exact ⟨rfl, rfl, rfl⟩

/-- A window touches the store if its bytes open, and not otherwise. -/
theorem store_exchanged (regions : List Bytes) :
    (chip.exchanged regions).store = chip.store ∨
      ∃ packet, chip.Opens (chip.underway ++ regions.flatten) packet ∧
        (chip.exchanged regions).store = (chip.store.execute chip.random packet).2.1 := by
  obtain ⟨settled, selected, received⟩ := select_opens chip
  generalize opened : (perform Transport.select chip).2 = window at settled selected received
  have apart : (window.clocked regions).settled = chip.settled :=
    (settled_clocked window regions).trans settled
  have store : (window.clocked regions).store = chip.store :=
    (congrArg Chip.store apart :)
  have random : (window.clocked regions).random = chip.random :=
    (congrArg Chip.random apart :)
  have session : (window.clocked regions).session = chip.session :=
    (congrArg Chip.session apart :)
  have pending : (window.clocked regions).pending = chip.pending :=
    (congrArg Chip.pending apart :)
  have closing := store_close (window.clocked regions)
  rw [exchanged, opened]
  rw [store, random] at closing
  obtain kept | ⟨-, fine, packet, opens, executed⟩ := closing
  · exact .inl kept
  · obtain ⟨-, whole⟩ := received_clocked window regions selected fine
    rw [whole, received] at opens
    unfold Opens at opens
    rw [session, pending] at opens
    exact .inr ⟨packet, opens, executed⟩

/-- A request that opens and that no fault keeps from the chip is executed. -/
theorem store_of_opens {region packet : Bytes} (closed : chip.window.selected = false)
    (sound : chip.faults.failTransfers = 0) (opens : chip.Opens region packet) :
    (chip.exchanged [region]).store = (chip.store.execute chip.random packet).2.1 := by
  obtain ⟨chunk, rest, session, short, rfl, held, opened⟩ := opens
  have long : 4 ≤ (Frame.encode RequestId.encryptedCommand chunk ++ rest).length := by
    rw [List.length_append, Frame.length_encode]
    unfold Frame.overhead
    omega
  generalize region_eq : Frame.encode RequestId.encryptedCommand chunk ++ rest = region at long
  have request : region ≠ [Bus.responseRequest] := by
    rintro rfl
    exact absurd long (by decide)
  have nonempty : region ≠ [] := List.ne_nil_of_length_pos (by omega)
  have window : chip.exchanged [region] =
      ((chip.onWire chip.wire.opened).clock region).2.close := by
    rw [exchanged, perform_select closed]
    rfl
  rw [window, clock_collect chip region rfl sound (fun poll => request poll.2),
    close_request nonempty, ← region_eq, processRequest_encode _ short]
  generalize Wire.closed _ = w
  have held : (chip.onWire w).session = some session := held
  have opened : session.unprotect ((chip.onWire w).pending ++ chunk) = _ := opened
  rw [served_of_whole held opened, Chip.opened, execute_eq]
  exact store_sendResult _ _

/-! ### Authorship -/

/-- What a window can do to the chip's memory, whatever state the chip is in and
whatever bytes the host sends. If the store changes, the bytes were a request that
completed an encrypted command which the session opened, the command succeeded, and
one entry changed: the one that the command names. A command that does not succeed
changes nothing. A counter changes only when it is set or counts down. -/
theorem store_changes_by_command (regions : List Bytes) :
    ((chip.exchanged regions).store ≠ chip.store →
      ∃ id data entry, chip.Opens (chip.underway ++ regions.flatten) (id :: data) ∧
        (chip.store.execute chip.random (id :: data)).1.head? = some ResultCode.ok.byte ∧
        entry.number = Bytes.ofLittleEndian (data.take 2) ∧
        Store.Change (chip.random.draw (Store.demand (id :: data))).1.val data id entry
          (chip.store.read entry) ((chip.exchanged regions).store.read entry) ∧
        chip.store.read entry ≠ (chip.exchanged regions).store.read entry ∧
        ∀ other, other ≠ entry →
          (chip.exchanged regions).store.read other = chip.store.read other) ∧
    (∀ packet, chip.Opens (chip.underway ++ regions.flatten) packet →
      (chip.store.execute chip.random packet).1.head? ≠ some ResultCode.ok.byte →
      (chip.exchanged regions).store = chip.store) ∧
    ∀ i : Fin 16, (chip.exchanged regions).store.counters.get i ≠ chip.store.counters.get i →
      ∃ id data, chip.Opens (chip.underway ++ regions.flatten) (id :: data) ∧
        ((id = CommandId.mCounterInit ∧ (chip.exchanged regions).store.counters.get i =
            some (UInt32.ofNat (Bytes.ofLittleEndian (data.drop 3)))) ∨
          id = CommandId.mCounterUpdate ∧ ∃ value, 0 < value ∧
            chip.store.counters.get i = some value ∧
            (chip.exchanged regions).store.counters.get i = some (value - 1)) := by
  have outcome := chip.store_exchanged regions
  generalize chip.underway ++ regions.flatten = received at outcome ⊢
  generalize (chip.exchanged regions).store = after at outcome ⊢
  refine ⟨fun changed => ?_, fun packet opens refused => ?_, fun i changed => ?_⟩
  · obtain kept | ⟨packet, opens, executed⟩ := outcome
    · exact absurd kept changed
    · rw [executed] at changed ⊢
      obtain ⟨success, id, data, entry, rfl, change⟩ := Store.execute_changes changed
      exact ⟨id, data, entry, opens, success, change⟩
  · obtain kept | ⟨other, opens', executed⟩ := outcome
    · exact kept
    · rw [executed, ← opens.unique opens', Store.execute_of_refused refused]
  · obtain kept | ⟨packet, opens, executed⟩ := outcome
    · exact absurd (congrArg (·.counters.get i) kept) changed
    · rw [executed] at changed ⊢
      obtain ⟨-, id, data, entry, rfl, -, change, -, others⟩ := Store.execute_changes
        fun same => changed (congrArg (·.counters.get i) same)
      obtain rfl : Entry.counter i = entry :=
        Decidable.byContradiction fun different => changed (others _ different)
      exact ⟨id, data, opens, change.counter⟩

end

/-- A new chip in a session whose keys are zeros. -/
def keyed : Chip :=
  { Chip.create .aes256Gcm ⟨fun i => UInt8.ofNat i, 0, none⟩ with
    session := some (Session.forChip .aes256Gcm ⟨Octets.replicate 32 0, Octets.replicate 32 0⟩) }

/-- A window in which the host of that session sets a counter changes the store, and
an encrypted command with success and one changed entry stands behind it. -/
theorem keyed_counter_set : ∃ region,
    keyed.Opens region (Command.mCounterInit 3 5).packet ∧
    (keyed.exchanged [region]).store ≠ keyed.store ∧
    ∃ id data entry, keyed.Opens region (id :: data) ∧
      entry.number = Bytes.ofLittleEndian (data.take 2) ∧
      keyed.store.read entry ≠ (keyed.exchanged [region]).store.read entry ∧
      ∀ other, other ≠ entry →
        (keyed.exchanged [region]).store.read other = keyed.store.read other := by
  have counts :
      (keyed.store.execute keyed.random (Command.mCounterInit 3 5).packet).2.1.counters[3] ≠
        keyed.store.counters[3] := by
    decide +kernel
  obtain ⟨cipher, tag, encrypted⟩ := Standard.exact.encrypts .aes256Gcm (Octets.replicate 32 0)
    (Session.nonce 0) [] (show (Command.mCounterInit 3 5).packet.length ≤ _ by decide)
  have size := Primitives.length_encrypt? encrypted
  have opened : (Session.forChip .aes256Gcm
      ⟨Octets.replicate 32 0, Octets.replicate 32 0⟩).unprotect (Session.sealed cipher tag) = _ :=
    Session.unprotect_sealed (by rw [size]; decide) (by decide) (Standard.exact.decrypts encrypted)
  have opens : keyed.Opens (Frame.encode RequestId.encryptedCommand (Session.sealed cipher tag))
      (Command.mCounterInit 3 5).packet :=
    ⟨_, [], _, by rw [Session.length_sealed, size]; decide, (List.append_nil _).symm, rfl, opened⟩
  have changed : (keyed.exchanged
      [Frame.encode RequestId.encryptedCommand (Session.sealed cipher tag)]).store ≠
        keyed.store := by
    rw [keyed.store_of_opens rfl rfl opens]
    exact fun same => counts (congrArg (·.counters[3]) same)
  obtain ⟨id, data, entry, authored, -, named, -, differs, others⟩ :=
    (keyed.store_changes_by_command _).1 changed
  rw [List.flatten_singleton] at authored
  exact ⟨_, opens, changed, id, data, entry, authored, named, differs, others⟩

end SecureElement.Chip
