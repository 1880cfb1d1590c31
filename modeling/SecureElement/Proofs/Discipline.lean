import SecureElement.Proofs.Responses
import SecureElement.Proofs.Uses
import SecureElement.Transport.Traced

/-!
Chip-select discipline.

A transport is watched by a record of its calls and of how each went (`Watched`); the
record changes nothing of what the stack does (`Watched.coupled_unwatched`). However a
transport is used and however its calls go, the calls are those of whole windows, with
calls that stand apart in between (`Disciplined`): a window that was opened has one to
three transfers and is then closed, and nothing follows where it could not be opened.
A chip that starts outside a window is thus never selected twice, and no bytes are
exchanged with it outside a window.
-/

namespace SecureElement

/-! ### Calls and how they went -/

/-- Whether a call exchanges bytes. -/
def Call.Transfers : Call → Prop
  | transfer .. => True
  | _ => False

/-- Whether a call has nothing to do with windows. -/
def Call.Apart : Call → Prop
  | init | release | delay _ | random _ => True
  | _ => False

/-- A call to a transport and how it went. -/
structure Called where
  call : Call
  result : Except TransportError Unit

/-- Calls that stand on their own: one that has nothing to do with windows, one that
could not open a window, or those of a whole window. -/
inductive Part : List Called → Prop
  | apart {call : Call} (apart : call.Apart) (result : Except TransportError Unit) :
      Part [⟨call, result⟩]
  | refused (cause : TransportError) : Part [⟨.select, .error cause⟩]
  | window {exchanges : List Called} (transfers : ∀ called ∈ exchanges, called.call.Transfers)
      (some : 1 ≤ exchanges.length) (few : exchanges.length ≤ 3)
      (result : Except TransportError Unit) :
      Part (⟨.select, .ok ()⟩ :: exchanges ++ [⟨.deselect, result⟩])

/-- Calls that are made of such parts. -/
def Disciplined (calls : List Called) : Prop :=
  ∃ parts : List (List Called), (∀ part ∈ parts, Part part) ∧ parts.flatten = calls

/-- What has been called in a phase: in a window, it was opened, and the exchanges
followed. -/
def Underway (calls : List Called) : Phase → Prop
  | .outside => Disciplined calls
  | .inside count => ∃ earlier exchanges, Disciplined earlier ∧
      calls = earlier ++ ⟨.select, .ok ()⟩ :: exchanges ∧ exchanges.length = count ∧ count ≤ 3 ∧
      ∀ called ∈ exchanges, called.call.Transfers

theorem disciplined_nil : Disciplined [] := ⟨[], nofun, rfl⟩

section

variable {calls : List Called}

theorem Disciplined.append {part : List Called} (disciplined : Disciplined calls)
    (last : Part part) : Disciplined (calls ++ part) := by
  obtain ⟨parts, each, rfl⟩ := disciplined
  refine ⟨parts ++ [part], List.forall_mem_append.mpr ⟨each, ?_⟩, ?_⟩
  · exact List.forall_mem_singleton.mpr last
  · rw [List.flatten_append, List.flatten_singleton]

theorem Underway.select (disciplined : Disciplined calls) :
    Underway (calls ++ [⟨.select, .ok ()⟩]) (.inside 0) :=
  ⟨calls, [], disciplined, rfl, rfl, Nat.zero_le 3, nofun⟩

theorem Underway.transfer {count : Nat} (few : count < 3) {called : Called}
    (transfers : called.call.Transfers) (underway : Underway calls (.inside count)) :
    Underway (calls ++ [called]) (.inside (count + 1)) := by
  obtain ⟨earlier, exchanges, disciplined, rfl, rfl, -, each⟩ := underway
  refine ⟨earlier, exchanges ++ [called], disciplined, ?_, List.length_append, few, ?_⟩
  · rw [List.append_assoc, List.cons_append]
  · exact List.forall_mem_append.mpr ⟨each, List.forall_mem_singleton.mpr transfers⟩

theorem Underway.deselect {count : Nat} (underway : Underway calls (.inside (count + 1)))
    (result : Except TransportError Unit) : Disciplined (calls ++ [⟨.deselect, result⟩]) := by
  obtain ⟨earlier, exchanges, disciplined, rfl, length, few, each⟩ := underway
  rw [List.append_assoc]
  exact disciplined.append (.window each (by omega) (by omega) result)

end

/-! ### Watched transports -/

/-- A transport, the calls that it received and how they went, the latest last. -/
structure Watched (σ : Type) where
  transport : σ
  calls : List Called

namespace Watched

variable {σ α : Type}

/-- Enters a call and how it went. -/
def enter (watched : Watched σ) (call : Call) (result : Except TransportError Unit)
    (transport : σ) : Watched σ :=
  ⟨transport, watched.calls ++ [⟨call, result⟩]⟩

/-- Passes a call on and enters it. -/
def watch (call : Call) (act : ExceptT TransportError (StateM σ) α) :
    ExceptT TransportError (StateM (Watched σ)) α :=
  ExceptT.mk fun watched =>
    let (result, transport) := act.run.run watched.transport
    (result, watched.enter call (result.map fun _ => ()) transport)

instance [Transport σ] : Transport (Watched σ) where
  init := watch .init Transport.init
  release := watch .release Transport.release
  select := watch .select Transport.select
  deselect := watch .deselect Transport.deselect
  exchange offset region timeout := fun watched =>
    let ((result, incoming), transport) :=
      Transport.exchange offset region timeout watched.transport
    ((result, incoming), watched.enter (.transfer offset timeout region) result transport)
  delay duration := fun watched =>
    let transport := (Transport.delay duration watched.transport).2
    ((), watched.enter (.delay duration) (.ok ()) transport)
  random count := watch (.random count) (Transport.random count)
  entropy watched := Transport.entropy watched.transport
  length_exchange offset region timeout watched :=
    Transport.length_exchange offset region timeout watched.transport

/-- A change that is no call, and leaves the record as it is. -/
def Beside (elsewhere : σ → σ → Prop) (before after : Watched σ) : Prop :=
  elsewhere before.transport after.transport ∧ after.calls = before.calls

theorem perform_watch (call : Call) (act : ExceptT TransportError (StateM σ) α)
    (watched : Watched σ) :
    perform (watch call act) watched = ((perform act watched.transport).1,
      watched.enter call ((perform act watched.transport).1.map fun _ => ())
        (perform act watched.transport).2) :=
  rfl

theorem coupled_watch (call : Call) (act : ExceptT TransportError (StateM σ) α) :
    Coupled (fun transport watched => watched.transport = transport)
      (fun transport watched => watched.transport = transport)
      (fun transport watched => watched.transport = transport) act (watch call act) := by
  rintro _ watched rfl
  refine ⟨rfl, ?_⟩
  split <;> rfl

/-- A transport behaves the same whether it is watched or not. -/
theorem coupled_unwatched [Transport σ] :
    Transport.FullyCoupled fun _ (transport : σ) (watched : Watched σ) =>
      watched.transport = transport where
  init := coupled_watch _ _
  release := coupled_watch _ _
  select := coupled_watch _ _
  exchange _ _ _ _ := by
    rintro _ watched rfl
    exact ⟨rfl, rfl⟩
  deselect _ := coupled_watch _ _
  delay _ := by
    rintro _ watched rfl
    rfl
  random _ := coupled_watch _ _
  entropy := by
    rintro _ watched rfl
    rfl

/-- What has been entered behind `start` has a property. -/
def Since (start : List Called) (P : List Called → Prop) (watched : Watched σ) : Prop :=
  ∃ calls, watched.calls = start ++ calls ∧ P calls

variable {start : List Called} {P Q : List Called → Prop} {watched : Watched σ}

theorem Since.enter (since : Since start P watched) {call : Call}
    {result : Except TransportError Unit} (transport : σ)
    (longer : ∀ {calls}, P calls → Q (calls ++ [⟨call, result⟩])) :
    Since start Q (watched.enter call result transport) := by
  obtain ⟨calls, entered, held⟩ := since
  refine ⟨calls ++ [⟨call, result⟩], ?_, longer held⟩
  rw [Watched.enter, entered, List.append_assoc]

/-- The calls that the stack makes add up to whole windows. -/
theorem maintains_discipline [Transport σ] (start : List Called) :
    Transport.Maintains fun phase (watched : Watched σ) =>
      Since start (Underway · phase) watched where
  init _ since := since.enter _ fun disciplined => disciplined.append (.apart (by trivial) _)
  release _ since := since.enter _ fun disciplined => disciplined.append (.apart (by trivial) _)
  select watched since := by
    rw [show perform Transport.select watched = _ from perform_watch .select _ watched]
    -- A window begins only where the call went well.
    rcases perform (Transport.select (σ := σ)) watched.transport with ⟨cause | _, transport⟩
    · exact since.enter transport fun disciplined => disciplined.append (.refused cause)
    · exact since.enter transport .select
  exchange few _ _ _ _ since := since.enter _ (.transfer few trivial)
  deselect _ since := since.enter _ fun underway => underway.deselect _
  delay _ _ since := since.enter _ fun disciplined => disciplined.append (.apart (by trivial) _)
  random _ _ since := since.enter _ fun disciplined => disciplined.append (.apart (by trivial) _)

end Watched

/-! ### The chip -/

/-- Whether a call ran into chip select: it came to a chip that was selected already, or
to one that was not. -/
def Called.Clashes : Called → Prop
  | ⟨.select, result⟩ => result = .error (.bus "chip select already asserted")
  | ⟨.transfer .., result⟩ => result = .error (.bus "transfer without chip select")
  | _ => False

namespace Chip

variable [Primitives]

/-- The chip is selected inside a window and not outside. -/
def InPhase (chip : Chip) : Phase → Prop
  | .outside => chip.window.selected = false
  | .inside _ => chip.window.selected = true

theorem selected_close (chip : Chip) : chip.close.window.selected = false := by
  unfold close
  split
  · assumption
  · dsimp only
    split
    · rfl
    · split
      · split <;> rfl
      · rfl
      · split
        · rfl
        · exact congrArg (·.window.selected) (wire_processRequest _ _)

omit [Primitives] in
theorem result_clock (chip : Chip) (region : Bytes) (selected : chip.window.selected = true) :
    (chip.clock region).1.1 ≠ .error (.bus "transfer without chip select") := by
  unfold clock
  rw [if_neg (by simp [selected])]
  dsimp only
  split <;> simp

/-- The chip is in the phase of the stack, which does not run into its chip select. -/
theorem maintains_selected (start : List Called) :
    Transport.Maintains fun phase (watched : Watched Chip) => watched.transport.InPhase phase ∧
      watched.Since start fun calls => ∀ called ∈ calls, ¬called.Clashes := by
  have one {calls : List Called} {called : Called} (fine : ¬called.Clashes)
      (held : ∀ other ∈ calls, ¬other.Clashes) : ∀ other ∈ calls ++ [called], ¬other.Clashes :=
    List.forall_mem_append.mpr ⟨held, List.forall_mem_singleton.mpr fine⟩
  constructor
  case init => exact fun _ held => ⟨held.1, held.2.enter _ (one id)⟩
  case release => exact fun _ held => ⟨held.1, held.2.enter _ (one id)⟩
  case select =>
    rintro ⟨chip, calls⟩ ⟨closed, since⟩
    rw [show perform Transport.select (Watched.mk chip calls) = _ from
      Watched.perform_watch .select _ _, perform_select closed]
    exact ⟨rfl, since.enter _ (one nofun)⟩
  case exchange =>
    rintro count - offset region timeout ⟨chip, calls⟩ ⟨selected, since⟩
    exact ⟨(received_clock chip region selected).1,
      since.enter _ (one (result_clock chip region selected))⟩
  case deselect =>
    rintro count ⟨chip, calls⟩ ⟨-, since⟩
    exact ⟨selected_close chip, since.enter _ (one id)⟩
  case delay => exact fun _ _ held => ⟨held.1, held.2.enter _ (one id)⟩
  case random =>
    rintro count ⟨chip, calls⟩ ⟨closed, since⟩
    obtain ⟨random, drawn⟩ := exists_random chip count
    refine ⟨?_, since.enter _ (one id)⟩
    change (perform (Transport.random (σ := Chip) count) chip).2.window.selected = false
    rw [drawn]
    exact closed

/-- A turn of a knob. -/
def Turned (chip other : Chip) : Prop := ∃ knob : Knob, other = knob.turn chip

omit [Primitives] in
theorem InPhase.turned {chip other : Chip} (turned : chip.Turned other) {phase : Phase}
    (held : chip.InPhase phase) : other.InPhase phase := by
  obtain ⟨knob, rfl⟩ := turned
  cases knob <;> exact held

end Chip

/-! ### Discipline -/

/-- **Chip select is used with discipline.** Any use of any transport can be watched, with
the same effect. What is entered then, whatever each call does, is whole windows and calls
apart from them. With a chip that is not selected at first, no call runs into its chip
select, and it is not selected afterwards. -/
theorem chip_select_disciplined [Primitives] :
    (∀ {σ : Type} [Transport σ] {elsewhere : σ → σ → Prop} {before after : σ},
      Used elsewhere before after → ∀ start, ∃ calls,
        Used (Watched.Beside elsewhere) ⟨before, start⟩ ⟨after, calls⟩) ∧
    (∀ {σ : Type} [Transport σ] {elsewhere : σ → σ → Prop} {before after : Watched σ},
      Used (Watched.Beside elsewhere) before after →
        ∃ calls, after.calls = before.calls ++ calls ∧ Disciplined calls) ∧
    ∀ {before after : Watched Chip}, before.transport.window.selected = false →
      Used (Watched.Beside Chip.Turned) before after →
        after.transport.window.selected = false ∧
          ∃ calls, after.calls = before.calls ++ calls ∧ ∀ called ∈ calls, ¬called.Clashes := by
  refine ⟨fun {σ _ elsewhere before after} used start => ?_, fun {_ _ _ before _} used => ?_,
    fun {before _} closed used => ?_⟩
  · have beside {transport after : σ} {watched : Watched σ} (change : elsewhere transport after)
        (same : watched.transport = transport) :
        ∃ after', watched.Beside elsewhere after' ∧ after'.transport = after :=
      ⟨⟨after, watched.calls⟩, ⟨same ▸ change, rfl⟩, rfl⟩
    have related : (Watched.mk before start).transport = before := rfl
    obtain ⟨⟨_, calls⟩, watched, rfl⟩ := used.coupled Watched.coupled_unwatched beside related
    exact ⟨calls, watched⟩
  · refine used.maintains (Watched.maintains_discipline before.calls) ?_ ?_
    · rintro _ _ ⟨-, unchanged⟩ ⟨calls, entered, underway⟩
      exact ⟨calls, unchanged.trans entered, underway⟩
    · exact ⟨[], (List.append_nil _).symm, disciplined_nil⟩
  · refine used.maintains (Chip.maintains_selected before.calls) ?_ ?_
    · rintro _ _ ⟨turned, unchanged⟩ ⟨phase, calls, entered, fine⟩
      exact ⟨phase.turned turned, calls, unchanged.trans entered, fine⟩
    · exact ⟨closed, [], (List.append_nil _).symm, nofun⟩

/-- A new chip on which nothing has been called. -/
def uncalled : Watched Chip := ⟨Chip.create .aes256Gcm ⟨fun i => UInt8.ofNat i, 0, none⟩, []⟩

/-- The chip after it was put to sleep. -/
def asleep : Watched Chip :=
  ((Link.Operation.sleep .sleep).run {} ⟨uncalled, List.replicate Frame.maxLength 0⟩).2.transport

/-- The request and the poll for its response are each a window. -/
theorem asleep_disciplined :
    uncalled.transport.window.selected = false ∧
      asleep.calls.map (·.call) = [.select, .transfer 0 70 [0x01, 0x20, 0x05, 0xC0, 0x0A],
        .deselect, .select, .transfer 0 70 [0xAA], .transfer 1 70 [0, 0], .transfer 3 70 [0, 0],
        .deselect] ∧
      Disciplined asleep.calls ∧ asleep.transport.window.selected = false ∧
      ∀ called ∈ asleep.calls, ¬called.Clashes := by
  have used : Used (Watched.Beside Chip.Turned) uncalled asleep :=
    Used.unused.link (List.replicate Frame.maxLength 0) {} (.sleep .sleep)
  obtain ⟨calls, entered, disciplined⟩ := chip_select_disciplined.2.1 used
  obtain ⟨closed, others, entered', fine⟩ := chip_select_disciplined.2.2 rfl used
  obtain rfl : asleep.calls = calls := entered
  obtain rfl : asleep.calls = others := entered'
  exact ⟨rfl, by decide +kernel, disciplined, closed, fine⟩

end SecureElement
