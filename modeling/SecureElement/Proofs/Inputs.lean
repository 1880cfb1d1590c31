import SecureElement.Proofs.Authorship
import SecureElement.Proofs.Runs

/-!
What reaches a chip from outside.

A chip is driven by the calls of a transport, in any order and with any bytes, and by
its knobs (`Chip.Input`); windows may be left open, opened twice or broken. Whatever
reaches it, the chip stays sound (`Chip.sound_after`). A window that arrives as a whole
and does not begin as a poll is the request that its bytes are, however they were cut
into transfers (`Chip.exchanged_request`).
-/

namespace SecureElement

/-- Whether a knob puts a pairing key into the chip. -/
def Knob.Provisions : Knob → Prop
  | .provision _ _ => True
  | _ => False

namespace Chip

/-- A call that the chip gets as a transport, or a turn of a knob. -/
inductive Input where
  | init
  | release
  | select
  | transfer (region : Bytes)
  | deselect
  | wait (duration : UInt32)
  | draw (count : Nat)
  | turn (knob : Knob)

/-- Whether an input puts a pairing key into the chip, past the wire. -/
def Input.Provisions : Input → Prop
  | .turn knob => knob.Provisions
  | _ => False

section

variable [Primitives]

/-- The chip after an input. -/
def Input.act (chip : Chip) : Input → Chip
  | init => (perform Transport.init chip).2
  | release => (perform Transport.release chip).2
  | select => (perform Transport.select chip).2
  | transfer region => (chip.clock region).2
  | deselect => chip.close
  | wait duration => (Transport.delay duration chip).2
  | draw count => (perform (Transport.random count) chip).2
  | turn knob => knob.turn chip

/-- The chip after several inputs. -/
def after (chip : Chip) (inputs : List Input) : Chip :=
  inputs.foldl Input.act chip

/-- What each of several inputs keeps, all of them keep. -/
theorem after_induction {P : Chip → Prop} {inputs : List Input}
    (kept : ∀ chip, ∀ input ∈ inputs, P chip → P (input.act chip)) {chip : Chip} (held : P chip) :
    P (chip.after inputs) := by
  induction inputs generalizing chip with
  | nil => exact held
  | cons input rest ih =>
    exact ih (fun chip other member => kept chip other (List.mem_cons_of_mem input member))
      (kept chip input (List.mem_cons_self ..) held)

/-- Drawing random bytes changes nothing but the random source. -/
theorem exists_random (chip : Chip) (count : Nat) :
    ∃ random, (perform (Transport.random (σ := Chip) count) chip).2 = { chip with random } := by
  rcases drawn : chip.random.tryDraw count with ⟨reason | bytes, random⟩
  · exact ⟨random, congrArg Prod.snd (perform_random_error drawn)⟩
  · exact ⟨random, congrArg Prod.snd (perform_random drawn)⟩

/-! ### Soundness -/

variable {chip : Chip}

theorem Sound.of_settled_eq {other : Chip} (sound : chip.Sound)
    (same : other.settled = chip.settled) : other.Sound :=
  sound.like (congrArg responses same :) (congrArg store same :) (congrArg certificate same :)
    (congrArg staticKey same :)

theorem Sound.processRequest (sound : chip.Sound) (received : Bytes) :
    (chip.processRequest received).Sound := by
  unfold Chip.processRequest
  dsimp only
  split
  · exact sound.served _
  · exact (sound.unread .nil).respond _ length_nil_le
  · exact (sound.unread .nil).respond _ length_nil_le

theorem Sound.close (sound : chip.Sound) : chip.close.Sound := by
  have closed : Sound { chip with window := { chip.window with
      selected := false, received := [], poll := none, failed := false } } :=
    sound.like rfl rfl rfl rfl
  unfold Chip.close
  split
  · exact sound
  · dsimp only
    split
    · exact closed
    · split
      · split
        · exact closed.unread sound.framed.tail
        · exact closed
      · exact closed
      · split
        · exact closed
        · exact closed.processRequest _

theorem Sound.act (sound : chip.Sound) (input : Input) : (input.act chip).Sound := by
  cases input with
  | init => exact sound.like rfl rfl rfl rfl
  | release => exact sound.like rfl rfl rfl rfl
  | select => exact sound.of_settled_eq (select_opens chip).1
  | transfer region => exact sound.of_settled_eq (settled_clock chip region)
  | deselect => exact sound.close
  | wait duration => exact sound.like rfl rfl rfl rfl
  | draw count =>
    obtain ⟨random, drawn⟩ := exists_random chip count
    exact (sound.like rfl rfl rfl rfl : Sound { chip with random }).of_settled_eq
      (congrArg settled drawn)
  | turn knob => exact sound.turn knob

/-- A chip stays sound whatever reaches it. -/
theorem sound_after (suite : CipherSuite) (random : RandomSource) (inputs : List Input) :
    ((create suite random).after inputs).Sound :=
  after_induction (fun _ input _ sound => sound.act input) (Device.create_sound suite random)

end

/-! ### Requests in several transfers -/

/-- The first bytes of a window ask for the chip status. -/
def Polls (regions : List Bytes) : Prop :=
  regions.find? (· ≠ []) = some [Bus.responseRequest]

instance (regions : List Bytes) : Decidable (Polls regions) :=
  inferInstanceAs (Decidable (_ = _))

/-- The wire after several transfers of a request. -/
def Wire.gathered (w : Wire) (regions : List Bytes) : Wire :=
  regions.foldl Wire.collected w

theorem Wire.gathered_window (w : Wire) (regions : List Bytes) :
    (w.gathered regions).window =
      { w.window with received := w.window.received ++ regions.flatten } := by
  induction regions generalizing w with
  | nil => simp [gathered]
  | cons region rest ih =>
    refine (ih (w.collected region)).trans ?_
    simp [collected]

/-- Transfers that are no poll are collected. -/
theorem clocked_request (chip : Chip) {w : Wire} {regions : List Bytes}
    (selected : w.window.selected = true) (sound : w.failTransfers = 0)
    (request : w.window.received ≠ [] ∨ ¬Polls regions) :
    (chip.onWire w).clocked regions = chip.onWire (w.gathered regions) := by
  induction regions generalizing w with
  | nil => rfl
  | cons region rest ih =>
    have collecting : ¬(w.window.received = [] ∧ region = [Bus.responseRequest]) := by
      rintro ⟨empty, rfl⟩
      exact request.elim (· empty) (· rfl)
    have first := congrArg Prod.snd (clock_collect chip region selected sound collecting)
    have later : (w.collected region).window.received ≠ [] ∨ ¬Polls rest := by
      by_cases empty : region = []
      · subst empty
        simpa [Wire.collected, Polls] using request
      · exact .inl (List.append_ne_nil_of_right_ne_nil _ empty)
    refine (congrArg (·.clocked rest) first).trans ?_
    exact ih (w := w.collected region) selected sound later

variable [Primitives]

/-- A window in which a request came in is served when it is closed. -/
theorem close_of_request (chip : Chip) {request : Frame.Request}
    (selected : chip.window.selected = true) (fine : chip.window.failed = false)
    (silent : chip.window.poll = none)
    (parsed : Frame.parseRequest chip.window.received = .ok request) :
    chip.close = (chip.served request).onWire chip.wire.closed := by
  have some : chip.window.received ≠ [] := by
    intro empty
    rw [empty] at parsed
    cases parsed
  unfold close
  simp only [selected, fine, silent, processRequest, parsed, if_neg some]
  exact serve_onWire { chip with responses := [] } chip.wire.closed request

/-- A window that arrives as a whole is the request that its bytes are. -/
theorem exchanged_request (chip : Chip) {regions : List Bytes} {request : Frame.Request}
    (closed : chip.window.selected = false) (sound : chip.faults.failTransfers = 0)
    (polls : ¬Polls regions) (parsed : Frame.parseRequest regions.flatten = .ok request) :
    chip.exchanged regions =
      (chip.served request).onWire (chip.wire.opened.gathered regions).closed := by
  have clocked := clocked_request chip (w := chip.wire.opened) rfl sound (.inr polls)
  have window : (chip.wire.opened.gathered regions).window =
      ⟨true, regions.flatten, [], none, false⟩ :=
    Wire.gathered_window chip.wire.opened regions
  rw [exchanged, perform_select closed, clocked]
  generalize chip.wire.opened.gathered regions = w at window
  have gathered : (chip.onWire w).window = ⟨true, regions.flatten, [], none, false⟩ := window
  rw [close_of_request (chip.onWire w) (congrArg Window.selected gathered :)
    (congrArg Window.failed gathered :) (congrArg Window.poll gathered :)
    (by rw [gathered]; exact parsed)]
  exact (congrArg (onWire · w.closed) (serve_onWire { chip with responses := [] } w request)).trans
    rfl

end Chip

end SecureElement
