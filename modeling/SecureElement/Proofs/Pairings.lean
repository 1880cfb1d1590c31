import SecureElement.Proofs.Inputs

/-!
The pairing slots, and how they gate the handshake.

Short of provisioning, whatever reaches a chip moves its pairing slots one way only: a
blank slot is written once, and a slot that was invalidated stays so (`after_moves`).
The chip answers a handshake if the request names a written slot, and refuses every
other one; in both cases what was left of an earlier session is gone
(`served_handshake_gates`).
-/

namespace SecureElement

/-! ### The life of a slot -/

namespace PairingEntry

/-- What may become of a pairing slot on the wire. -/
inductive Moves : PairingEntry → PairingEntry → Prop where
  | stay (entry : PairingEntry) : Moves entry entry
  | written (key : Key) : Moves .blank (.written key)
  | invalidated (entry : PairingEntry) : Moves entry .invalidated

variable {before between after : PairingEntry}

theorem Moves.trans (first : Moves before between) (then' : Moves between after) :
    Moves before after := by
  cases then' with
  | stay => exact first
  | invalidated => exact .invalidated before
  | written key =>
    cases first with
    | stay => exact .written key

/-- A slot that holds a key keeps it until the slot is invalidated. -/
theorem Moves.of_written {key : Key} (moves : Moves (.written key) after) :
    after = .written key ∨ after = .invalidated := by
  cases moves with
  | stay => exact .inl rfl
  | invalidated => exact .inr rfl

/-- A slot is invalidated for good. -/
theorem Moves.of_invalidated (moves : Moves .invalidated after) : after = .invalidated := by
  cases moves <;> rfl

end PairingEntry

open PairingEntry (Moves)

namespace Store

variable {store : Store} {slot : PairingSlot}

theorem Change.moves {drawn data : Bytes} {id : UInt8} {old new : PairingEntry}
    (change : Change drawn data id (.pairing slot) old new) : Moves old new := by
  cases change with
  | pairingKeyWrite => exact .written _
  | pairingKeyInvalidate => exact .invalidated _

/-- A command moves a slot one way. -/
theorem execute_moves [Primitives] (random : RandomSource) (packet : Bytes) :
    Moves (store.read (.pairing slot))
      ((store.execute random packet).2.1.read (.pairing slot)) := by
  by_cases kept : (store.execute random packet).2.1 = store
  · rw [kept]
    exact .stay _
  · obtain ⟨-, id, data, entry, -, -, change, -, others⟩ := execute_changes kept
    by_cases here : .pairing slot = entry
    · subst here
      exact change.moves
    · rw [others _ here]
      exact .stay _

end Store

namespace Chip

variable [Primitives] {chip : Chip} {slot : PairingSlot}

theorem close_moves (chip : Chip) (slot : PairingSlot) :
    Moves (chip.store.read (.pairing slot)) (chip.close.store.read (.pairing slot)) := by
  obtain kept | ⟨-, -, packet, -, executed⟩ := chip.store_close
  · rw [kept]
    exact .stay _
  · rw [executed]
    exact Store.execute_moves _ _

/-- An input moves a slot one way. -/
theorem Input.act_moves (chip : Chip) {input : Input} (spared : ¬input.Provisions)
    (slot : PairingSlot) :
    Moves (chip.store.read (.pairing slot)) ((input.act chip).store.read (.pairing slot)) := by
  have of_store {other : Chip} (same : other.store = chip.store) :
      Moves (chip.store.read (.pairing slot)) (other.store.read (.pairing slot)) := by
    rw [same]
    exact .stay _
  cases input with
  | init => exact of_store rfl
  | release => exact of_store rfl
  | select => exact of_store (congrArg Chip.store (select_opens chip).1 :)
  | transfer region => exact of_store (congrArg Chip.store (settled_clock chip region) :)
  | deselect => exact close_moves chip slot
  | wait duration => exact of_store rfl
  | draw count =>
    obtain ⟨random, drawn⟩ := exists_random chip count
    exact of_store (congrArg Chip.store drawn :)
  | turn knob =>
    cases knob with
    | provision => exact absurd trivial spared
    | _ => exact of_store rfl

/-- Short of provisioning, whatever reaches the chip moves a slot one way. -/
theorem after_moves (chip : Chip) {inputs : List Input}
    (spared : ∀ input ∈ inputs, ¬input.Provisions) (slot : PairingSlot) :
    Moves (chip.store.read (.pairing slot))
      ((chip.after inputs).store.read (.pairing slot)) :=
  after_induction (P := fun reached => Moves _ (reached.store.read (.pairing slot)))
    (fun reached _ member moves => moves.trans (Input.act_moves reached (spared _ member) slot))
    (.stay _)

/-! ### Handshakes -/

/-- Whether a handshake request names a slot that holds a key. -/
def Admits (chip : Chip) (data : Bytes) : Prop :=
  data.length = Handshake.requestLength ∧ ∃ slot key, data.getD 32 0 = PairingSlot.byte slot ∧
    chip.store.read (.pairing slot) = .written key

end Chip

theorem Store.pairingKey?_eq_some {store : Store} {slot : PairingSlot} {key : Key} :
    store.pairingKey? slot = some key ↔ store.read (.pairing slot) = .written key := by
  have same : store.read (.pairing slot) = store.pairing[slot] := rfl
  rw [same]
  unfold pairingKey?
  cases store.pairing[slot] <;> simp

section

variable [Primitives]

/-- Whether every transcript of a handshake has a tag. -/
def Handshake.Tags : Prop :=
  ∀ suite authentication transcript, ∃ tag,
    Handshake.tag suite authentication transcript = .ok tag

namespace Responder

variable (chip : Responder) {request : Bytes} {pairing : PairingSlot → Option Key}

/-- A request that names a slot with a key is answered. -/
theorem exists_answer (tags : Handshake.Tags) (size : request.length = Handshake.requestLength)
    {slot : PairingSlot} {key : Key} (named : request.getD 32 0 = slot.byte)
    (known : pairing slot = some key) :
    ∃ response keys, chip.answer request pairing = .ok (response, keys) := by
  obtain ⟨tag, made⟩ := tags chip.suite
    ((chip.sharedSecrets key (Octets.fit 32 request)).keys chip.suite).1
    ((chip.transcript key (Octets.fit 32 request) slot).hash chip.suite)
  unfold answer
  rw [if_neg (not_not_intro size), named, PairingSlot.ofByte_byte]
  simp only [bind, Except.bind, known, made]
  exact ⟨_, _, rfl⟩

end Responder

namespace Chip

/-- The chip answers a handshake if and only if it admits it. -/
theorem exists_answer_iff (tags : Handshake.Tags) (chip : Chip) (data : Bytes) :
    (∃ response keys, chip.responder.answer data chip.store.pairingKey? = .ok (response, keys)) ↔
      chip.Admits data := by
  constructor
  · rintro ⟨response, keys, answered⟩
    obtain ⟨size, slot, key, -, named, known, -⟩ := Responder.of_answer_eq_ok answered
    exact ⟨size, slot, key, PairingSlot.ofByte_eq_ok named, Store.pairingKey?_eq_some.mp known⟩
  · rintro ⟨size, slot, key, named, held⟩
    exact chip.responder.exists_answer tags size named (Store.pairingKey?_eq_some.mpr held)

/-- How a step answers a handshake request with `data`: with success and a new session
if and only if the request names a slot that holds a key, and with a refusal and no
session in every other case. Either way nothing is left of an earlier session. -/
structure Gates (chip : Chip) (data : Bytes) (step : Chip → Chip) : Prop where
  accepted : (∃ response keys, response.length = Handshake.responseLength ∧
      (step chip).responses = [frameResponse .requestOk response] ∧
      (step chip).session = some (Session.forChip chip.suite keys)) ↔ chip.Admits data
  refused : ((step chip).responses = [frameResponse .handshakeErr []] ∧
      (step chip).session = none) ↔ ¬chip.Admits data
  arriving : (step chip).pending = []
  forgets : ∀ session pending, step { chip with session, pending } = step chip

/-- A handshake is gated by the pairing slots. -/
theorem served_handshake_gates (tags : Handshake.Tags) (chip : Chip) (data : Bytes) :
    chip.Gates data (·.served ⟨RequestId.handshake, data⟩) := by
  have admits := exists_answer_iff tags chip data
  have forgets (session : Option Session) (pending : Bytes) :
      ({ chip with session, pending } : Chip).served ⟨RequestId.handshake, data⟩ =
        chip.served ⟨RequestId.handshake, data⟩ := rfl
  rcases answered : chip.responder.answer data chip.store.pairingKey? with cause | ⟨response, keys⟩
  · have refused : ¬chip.Admits data := by
      rw [← admits]
      rintro ⟨response, keys, ok⟩
      cases answered.symm.trans ok
    have served := chip.served_handshake_error answered
    refine ⟨iff_of_false ?_ refused, iff_of_true ?_ refused, ?_, forgets⟩
    · rintro ⟨response, keys, -, -, session⟩
      rw [served] at session
      cases session
    · rw [served]
      exact ⟨rfl, rfl⟩
    · rw [served]
      rfl
  · have admitted := admits.mp ⟨response, keys, answered⟩
    have served := chip.served_handshake answered
    refine ⟨iff_of_true ?_ admitted, iff_of_false ?_ (not_not_intro admitted), ?_, forgets⟩
    · rw [served]
      exact ⟨response, keys, Responder.length_of_answer answered, rfl, rfl⟩
    · rintro ⟨-, session⟩
      rw [served] at session
      cases session
    · rw [served]
      rfl

variable {chip : Chip} {data : Bytes}

omit [Primitives] in
/-- What only moves the wire does not matter for a handshake. -/
theorem Gates.onWire {serve step : Chip → Chip} {w : Wire} (gates : chip.Gates data serve)
    (same : ∀ session pending, step { chip with session, pending } =
      (serve { chip with session, pending }).onWire w) : chip.Gates data step := by
  have here : step chip = (serve chip).onWire w := same chip.session chip.pending
  obtain ⟨accepted, refused, arriving, forgets⟩ := gates
  refine ⟨?_, ?_, ?_, fun session pending => ?_⟩
  · rw [here]
    exact accepted
  · rw [here]
    exact refused
  · rw [here]
    exact arriving
  · rw [same, forgets, here]

/-- A handshake request whose window is closed is gated. -/
theorem close_gates (tags : Handshake.Tags) (selected : chip.window.selected = true)
    (fine : chip.window.failed = false) (silent : chip.window.poll = none)
    (parsed : Frame.parseRequest chip.window.received = .ok ⟨RequestId.handshake, data⟩) :
    chip.Gates data close :=
  (served_handshake_gates tags chip data).onWire (w := chip.wire.closed) fun session pending =>
    close_of_request { chip with session, pending } selected fine silent parsed

/-- A handshake request that arrives as a whole is gated, however it is cut into
transfers. -/
theorem exchanged_gates (tags : Handshake.Tags) {regions : List Bytes}
    (closed : chip.window.selected = false) (sound : chip.faults.failTransfers = 0)
    (polls : ¬Polls regions)
    (parsed : Frame.parseRequest regions.flatten = .ok ⟨RequestId.handshake, data⟩) :
    chip.Gates data (·.exchanged regions) :=
  (served_handshake_gates tags chip data).onWire
    (w := (chip.wire.opened.gathered regions).closed) fun session pending =>
    exchanged_request { chip with session, pending } closed sound polls parsed

/-- The pairing slots of a chip, short of provisioning. Whatever reached the chip, each
slot moved one way, and a handshake that names a slot which was invalidated is not
admitted again; and every handshake request that then comes in, whether in a window
that was open or in a new one, is gated by the slots. -/
theorem pairing_slots_gate (tags : Handshake.Tags) (chip : Chip) {inputs : List Input}
    (spared : ∀ input ∈ inputs, ¬input.Provisions) :
    (∀ slot, Moves (chip.store.read (.pairing slot))
      ((chip.after inputs).store.read (.pairing slot))) ∧
    (∀ (slot : PairingSlot) data, chip.store.read (.pairing slot) = .invalidated →
      data.getD 32 0 = slot.byte → ¬(chip.after inputs).Admits data) ∧
    (∀ data, (chip.after inputs).window.selected = true →
      (chip.after inputs).window.failed = false → (chip.after inputs).window.poll = none →
      Frame.parseRequest (chip.after inputs).window.received =
        .ok ⟨RequestId.handshake, data⟩ →
      (chip.after inputs).Gates data close) ∧
    ∀ regions data, (chip.after inputs).window.selected = false →
      (chip.after inputs).faults.failTransfers = 0 → ¬Polls regions →
      Frame.parseRequest regions.flatten = .ok ⟨RequestId.handshake, data⟩ →
      (chip.after inputs).Gates data (·.exchanged regions) := by
  refine ⟨after_moves chip spared, ?_, fun _ => close_gates tags, fun _ _ => exchanged_gates tags⟩
  rintro slot data invalidated named ⟨-, other, key, named', held⟩
  obtain rfl : slot = other := PairingSlot.byte_injective (named.symm.trans named')
  have moves := after_moves chip spared slot
  rw [invalidated] at moves
  rw [moves.of_invalidated] at held
  cases held

end Chip

end

namespace Chip

/-- A chip in a session, one of whose pairing slots was invalidated. -/
def retired (slot : PairingSlot) : Chip :=
  { keyed with store := keyed.store.write (.pairing slot) .invalidated }

/-- After a window with noise, a handshake in two transfers that names the slot of the
default key is gated and admitted, and one that names the invalidated slot is not. -/
theorem retired_slots_gate :
    let reached := (retired 2).after [.select, .transfer [1, 2, 3], .turn (.busyPolls 2), .deselect]
    let request (slot : PairingSlot) := List.replicate 32 9 ++ [slot.byte]
    reached.Admits (request 0) ∧ ¬reached.Admits (request 2) ∧
      ∀ slot : PairingSlot, reached.Gates (request slot) (·.exchanged
        [(Frame.encode RequestId.handshake (request slot)).take 5,
          (Frame.encode RequestId.handshake (request slot)).drop 5]) := by
  have tags : Handshake.Tags := Handshake.tag_eq_ok Standard.exact.toTotal
  have spared : ∀ input ∈ [Input.select, .transfer [1, 2, 3], .turn (.busyPolls 2), .deselect],
      ¬input.Provisions := by
    simp [Input.Provisions, Knob.Provisions]
  obtain ⟨-, revoked, -, gates⟩ := pairing_slots_gate tags (retired 2) spared
  refine ⟨⟨rfl, 0, defaultPairingKey, rfl, rfl⟩, revoked 2 _ rfl rfl, fun slot => ?_⟩
  refine gates _ _ rfl rfl ?_ ?_
  · revert slot
    decide
  · have short : (List.replicate 32 9 ++ [slot.byte]).length ≤ Frame.maxData :=
      show 33 ≤ Frame.maxData by decide
    rw [List.flatten_cons, List.flatten_singleton, List.take_append_drop]
    exact List.append_nil (Frame.encode _ _) ▸ Frame.parseRequest_encode short []

end Chip

end SecureElement
