import SecureElement.Proofs.Exchange
import SecureElement.Proofs.Unseen

/-!
Two transports side by side.

A relation between the states of two transports couples them if it outlasts every call
that the stack makes, and the calls have the same results (`Transport.Coupled`). Which
calls the stack makes depends on where it is with respect to chip-select windows
(`Phase`): it selects outside a window only, it exchanges bytes up to three times inside
one, and it deselects after the first exchange. Each action on the bus is led through
its phases here once; whatever is built on it then has the same results over coupled
transports, and ends outside a window with the states related.

With two copies of one transport, a coupling is an invariant (`Transport.Maintains`).
-/

namespace SecureElement

/-! ### Actions side by side -/

/-- Monads whose outcomes are compared by what they hold. -/
class Compares (m : Type → Type) [Monad m] where
  /-- What both hold is related. -/
  Both {α β : Type} (R : α → β → Prop) : m α → m β → Prop
  pure {α β : Type} {R : α → β → Prop} {a : α} {b : β} (related : R a b) :
    Both R (pure a) (pure b)
  bind {α β γ δ : Type} {R : α → β → Prop} {S : γ → δ → Prop} {x : m α} {y : m β}
    {f : α → m γ} {g : β → m δ} (first : Both R x y)
    (rest : ∀ a b, R a b → Both S (f a) (g b)) : Both S (x >>= f) (y >>= g)

instance : Compares Id where
  Both R x y := R x y
  pure related := related
  bind first rest := rest _ _ first

instance : Compares Option where
  Both := Option.Rel
  pure related := .some related
  bind first rest := by
    cases first with
    | some related => exact rest _ _ related
    | none => exact .none

section

variable {ε s t α β : Type} {m : Type → Type} [Monad m] [Compares m]

/-- The same result twice, with the states related as the result has it. -/
def Ends (Q E : s → t → Prop) (left : Except ε α × s) (right : Except ε α × t) : Prop :=
  left.1 = right.1 ∧ match left.1 with
    | .ok _ => Q left.2 right.2
    | .error _ => E left.2 right.2

theorem Ends.same {P : s → t → Prop} {left : Except ε α × s} {right : Except ε α × t}
    (ends : Ends P P left right) : left.1 = right.1 ∧ P left.2 right.2 := by
  refine ⟨ends.1, ?_⟩
  have ended := ends.2
  split at ended <;> exact ended

/-- From states related by `P`, two actions have the same result, and the states after
them are related by `Q`, or by `E` if they fail. -/
def Coupled (P Q E : s → t → Prop) (left : ExceptT ε (StateT s m) α)
    (right : ExceptT ε (StateT t m) α) : Prop :=
  ∀ before before', P before before' →
    Compares.Both (Ends Q E) (left.run.run before) (right.run.run before')

namespace Coupled

variable {P Q M E F : s → t → Prop} {left other : ExceptT ε (StateT s m) α}
  {right other' : ExceptT ε (StateT t m) α}

theorem pure {a : α} (related : ∀ before before', P before before' → Q before before') :
    Coupled P Q E (pure a : ExceptT ε (StateT s m) α) (pure a) :=
  fun before before' held => Compares.pure ⟨rfl, related before before' held⟩

theorem throw {e : ε} (related : ∀ before before', P before before' → E before before') :
    Coupled P Q E (throw e : ExceptT ε (StateT s m) α) (throw e) :=
  fun before before' held => Compares.pure ⟨rfl, related before before' held⟩

theorem ite {p : Prop} [Decidable p] (first : p → Coupled P Q E left right)
    (second : ¬p → Coupled P Q E other other') :
    Coupled P Q E (if p then left else other) (if p then right else other') := by
  split
  · exact first ‹_›
  · exact second ‹_›

variable [LawfulMonad m]

theorem bind {next : α → ExceptT ε (StateT s m) β} {next' : α → ExceptT ε (StateT t m) β}
    (first : Coupled P M E left right) (rest : ∀ a, Coupled M Q E (next a) (next' a)) :
    Coupled P Q E (left >>= next) (right >>= next') := by
  intro before before' held
  rw [run_run_bind, run_run_bind]
  refine Compares.bind (first before before' held) ?_
  rintro ⟨result, after⟩ ⟨_, after'⟩ ⟨⟨⟩, ended⟩
  cases result with
  | ok a => exact rest a after after' ended
  | error e => exact Compares.pure ⟨rfl, ended⟩

theorem tryCatch {handler : ε → ExceptT ε (StateT s m) α}
    {handler' : ε → ExceptT ε (StateT t m) α} (first : Coupled P Q F left right)
    (rest : ∀ e, Coupled F Q E (handler e) (handler' e)) :
    Coupled P Q E (tryCatch left handler) (tryCatch right handler') := by
  intro before before' held
  rw [run_run_tryCatch, run_run_tryCatch]
  refine Compares.bind (first before before' held) ?_
  rintro ⟨result, after⟩ ⟨_, after'⟩ ⟨⟨⟩, ended⟩
  cases result with
  | ok a => exact Compares.pure ⟨rfl, ended⟩
  | error e => exact rest e after after' ended

/-- What follows from a look at the two states, which are related. -/
theorem get {next : s → ExceptT ε (StateT s m) β} {next' : t → ExceptT ε (StateT t m) β}
    (rest : ∀ before before', P before before' → Coupled P Q E (next before) (next' before')) :
    Coupled P Q E (get >>= next) (get >>= next') := by
  intro before before' held
  rw [run_run_bind, run_run_get, pure_bind, run_run_bind, run_run_get, pure_bind]
  exact rest before before' held before before' held

theorem modify {change : s → s} {change' : t → t}
    (related : ∀ before before', P before before' → Q (change before) (change' before')) :
    Coupled P Q E (modify change : ExceptT ε (StateT s m) PUnit) (modify change') := by
  intro before before' held
  rw [run_run_modify, run_run_modify]
  exact Compares.pure ⟨rfl, related before before' held⟩

omit [LawfulMonad m] in
/-- What is known besides the relation may be used. -/
theorem of_and {p : Prop} (known : p → Coupled P Q E left right) :
    Coupled (fun before before' => P before before' ∧ p) Q E left right :=
  fun before before' held => known held.2 before before' held.1

/-- What follows a failure is not run. -/
theorem throw_bind {e : ε} {next : α → ExceptT ε (StateT s m) β}
    {next' : α → ExceptT ε (StateT t m) β}
    (related : ∀ before before', P before before' → E before before') :
    Coupled P Q E (MonadExcept.throw e >>= next) (MonadExcept.throw e >>= next') :=
  .bind (M := fun _ _ => False) (.throw related) fun _ _ _ => False.elim

end Coupled

end

/-- What a coupling says of actions that always have an outcome. -/
theorem Coupled.perform {ε s t α : Type} {P Q E : s → t → Prop} {left : ExceptT ε (StateM s) α}
    {right : ExceptT ε (StateM t) α} (coupled : Coupled P Q E left right) {before : s}
    {before' : t} (held : P before before') :
    Ends Q E (SecureElement.perform left before) (SecureElement.perform right before') :=
  coupled before before' held

/-- What a coupling says of an action that has an outcome. -/
theorem Coupled.attempt {ε s t α : Type} {P Q E : s → t → Prop}
    {left : ExceptT ε (StateT s Option) α} {right : ExceptT ε (StateT t Option) α}
    (coupled : Coupled P Q E left right) {before : s} {before' : t} (held : P before before')
    {ended : Except ε α × s} (ran : SecureElement.attempt left before = some ended) :
    ∃ ended', SecureElement.attempt right before' = some ended' ∧ Ends Q E ended ended' := by
  have both : Option.Rel (Ends Q E) (SecureElement.attempt left before)
    (SecureElement.attempt right before') := coupled before before' held
  rw [ran] at both
  generalize SecureElement.attempt right before' = outcome at both
  cases both with
  | some ends => exact ⟨_, rfl, ends⟩

/-- The state has `Q` after success and `E` after a failure. -/
def Leaves {ε s α : Type} (Q E : s → Prop) (ended : Except ε α × s) : Prop :=
  match ended.1 with
  | .ok _ => Q ended.2
  | .error _ => E ended.2

theorem Leaves.of_both {ε s α : Type} {P : s → Prop} {ended : Except ε α × s} (held : P ended.2) :
    Leaves P P ended := by
  unfold Leaves
  split <;> exact held

/-- An action side by side with itself. -/
theorem Coupled.itself {ε s α : Type} {P Q E : s → Prop} {act : ExceptT ε (StateM s) α}
    (leaves : ∀ state, P state → Leaves Q E (SecureElement.perform act state)) :
    Coupled (fun left right => left = right ∧ P left) (fun left right => left = right ∧ Q left)
      (fun left right => left = right ∧ E left) act act := by
  rintro state _ ⟨rfl, held⟩
  have ended := leaves state held
  change Ends _ _ (SecureElement.perform act state) (SecureElement.perform act state)
  generalize SecureElement.perform act state = after at ended
  rcases after with ⟨_ | _, after⟩
  all_goals exact ⟨rfl, rfl, ended⟩

/-! ### Transports side by side -/

/-- Where the stack is: outside the chip-select windows, or inside one after so many
exchanges. -/
inductive Phase where
  | outside
  | inside (exchanges : Nat)

namespace Transport

/-- A relation between the states of two transports that outlasts the calls of the
link, which have the same results. -/
structure Coupled {σ τ : Type} [Transport σ] [Transport τ] (R : Phase → σ → τ → Prop) : Prop where
  select : SecureElement.Coupled (R .outside) (R (.inside 0)) (R .outside)
    (select : ExceptT TransportError (StateM σ) Unit) select
  exchange {count : Nat} (few : count < 3) (offset : Nat) (region : Bytes) (timeout : UInt32)
    (left : σ) (right : τ) (related : R (.inside count) left right) :
    (exchange offset region timeout left).1 = (exchange offset region timeout right).1 ∧
      R (.inside (count + 1)) (exchange offset region timeout left).2
        (exchange offset region timeout right).2
  deselect (count : Nat) : SecureElement.Coupled (R (.inside (count + 1))) (R .outside)
    (R .outside) (deselect : ExceptT TransportError (StateM σ) Unit) deselect
  delay (duration : UInt32) (left : σ) (right : τ) (related : R .outside left right) :
    R .outside (delay duration left).2 (delay duration right).2
  random (count : Nat) : SecureElement.Coupled (R .outside) (R .outside) (R .outside)
    (random count : ExceptT TransportError (StateM σ) (Octets count)) (random count)
  entropy (left : σ) (right : τ) (related : R .outside left right) :
    entropy left = entropy right

/-- One that also outlasts that the transports are taken into use and given up. -/
structure FullyCoupled {σ τ : Type} [Transport σ] [Transport τ] (R : Phase → σ → τ → Prop) : Prop
    extends Coupled R where
  init : SecureElement.Coupled (R .outside) (R .outside) (R .outside)
    (init : ExceptT TransportError (StateM σ) Unit) init
  release : SecureElement.Coupled (R .outside) (R .outside) (R .outside)
    (release : ExceptT TransportError (StateM σ) Unit) release

/-- A property of the states of a transport that outlasts the calls of the stack. -/
structure Maintains {σ : Type} [Transport σ] (I : Phase → σ → Prop) : Prop where
  init (state : σ) (held : I .outside state) : I .outside (perform init state).2
  release (state : σ) (held : I .outside state) : I .outside (perform release state).2
  select (state : σ) (held : I .outside state) :
    Leaves (I (.inside 0)) (I .outside) (perform select state)
  exchange {count : Nat} (few : count < 3) (offset : Nat) (region : Bytes) (timeout : UInt32)
    (state : σ) (held : I (.inside count) state) :
    I (.inside (count + 1)) (exchange offset region timeout state).2
  deselect {count : Nat} (state : σ) (held : I (.inside (count + 1)) state) :
    I .outside (perform deselect state).2
  delay (duration : UInt32) (state : σ) (held : I .outside state) :
    I .outside (delay duration state).2
  random (count : Nat) (state : σ) (held : I .outside state) :
    I .outside (perform (random count) state).2

/-- A property that a transport maintains couples it with itself. -/
theorem Maintains.coupled {σ : Type} [Transport σ] {I : Phase → σ → Prop}
    (maintains : Maintains I) : Coupled fun phase left right => left = right ∧ I phase left where
  select := .itself maintains.select
  exchange few offset region timeout := by
    rintro state _ ⟨rfl, held⟩
    exact ⟨rfl, rfl, maintains.exchange few offset region timeout state held⟩
  deselect count := .itself fun state held => .of_both (maintains.deselect state held)
  delay duration := by
    rintro state _ ⟨rfl, held⟩
    exact ⟨rfl, maintains.delay duration state held⟩
  random count := .itself fun state held => .of_both (maintains.random count state held)
  entropy := by
    rintro state _ ⟨rfl, -⟩
    rfl

theorem Maintains.fullyCoupled {σ : Type} [Transport σ] {I : Phase → σ → Prop}
    (maintains : Maintains I) :
    FullyCoupled fun phase left right => left = right ∧ I phase left where
  toCoupled := maintains.coupled
  init := .itself fun state held => .of_both (maintains.init state held)
  release := .itself fun state held => .of_both (maintains.release state held)

end Transport

/-! ### The bus -/

namespace Bus

/-! ### The rest of a window -/

section

variable {σ : Type} [Transport σ] (c : Config)

/-- The end of a read, when the length of the frame is known. -/
def readRest (length : UInt8) : BusM σ Nat := do
  if Frame.maxData < length.toNat then
    abandon (.frame (.length length.toNat))
  modifyFrame fun frame => frame.overlay 3 (List.replicate (length.toNat + 2) 0)
  transferOrClose c 3 (length.toNat + 2)
  lift Transport.deselect
  return length.toNat + 5

theorem readFrame_eq : readFrame (σ := σ) c = (do
    modifyFrame fun frame => frame.overlay 1 [0, 0]
    transferOrClose c 1 2
    readRest c ((← get).frame.getD 1 0)) := rfl

/-- The end of a poll, when the chip status is known. -/
def pollRest (status : UInt8) : BusM σ (Option Nat) :=
  if status &&& alarmBit ≠ 0 then
    abandon (.protocol .chipAlarm)
  else if status &&& startupBit ≠ 0 then
    abandon (.protocol .chipInStartup)
  else if status &&& readyBit = 0 then do
    lift Transport.deselect
    return none
  else do
    return some (← readFrame c)

theorem poll_eq : poll (σ := σ) c = (do
    modifyFrame fun frame => frame.overlay 0 [responseRequest]
    lift Transport.select
    transferOrClose c 0 1
    pollRest c ((← get).frame.getD 0 0)) := rfl

end

/-! ### Polls side by side -/

/-- A relation between two buses that outlasts the actions of a poll, as long as they touch
the first `room` bytes only. -/
structure Tracks {σ τ : Type} [Transport σ] [Transport τ] (c : Config) (room : Nat)
    (P : Phase → Bus σ → Bus τ → Prop) : Prop where
  overlay {phase : Phase} {offset : Nat} {piece : Bytes} (fits : offset + piece.length ≤ room)
    (left : Bus σ) (right : Bus τ) (related : P phase left right) :
    P phase { left with frame := left.frame.overlay offset piece }
      { right with frame := right.frame.overlay offset piece }
  byte {phase : Phase} {index : Nat} (inside : index < room) (left : Bus σ) (right : Bus τ)
    (related : P phase left right) : left.frame.getD index 0 = right.frame.getD index 0
  select : Coupled (P .outside) (P (.inside 0)) (P .outside)
    (lift Transport.select : BusM σ Unit) (lift Transport.select)
  transfer {count offset length : Nat} (few : count < 3) (fits : offset + length ≤ room) :
    Coupled (P (.inside count)) (P (.inside (count + 1))) (P (.inside (count + 1)))
      (transfer c offset length : BusM σ Unit) (transfer c offset length)
  deselect (count : Nat) : Coupled (P (.inside (count + 1))) (P .outside) (P .outside)
    (lift Transport.deselect : BusM σ Unit) (lift Transport.deselect)
  delay (duration : UInt32) : Coupled (P .outside) (P .outside) (P .outside)
    (delay duration : BusM σ Unit) (delay duration)

section

variable {σ τ α : Type} [Transport σ] [Transport τ] {c : Config} {room : Nat}
  {P : Phase → Bus σ → Bus τ → Prop} (tracks : Tracks c room P)
include tracks

theorem tracked_overlay {phase : Phase} {E : Bus σ → Bus τ → Prop} {offset : Nat} {piece : Bytes}
    (fits : offset + piece.length ≤ room) :
    Coupled (P phase) (P phase) E (modifyFrame fun frame => frame.overlay offset piece)
      (modifyFrame fun frame => frame.overlay offset piece) :=
  .modify (tracks.overlay fits)

/-- A look at a byte. -/
theorem tracked_look {phase : Phase} {Q E : Bus σ → Bus τ → Prop} {index : Nat}
    (inside : index < room) {next : UInt8 → BusM σ α} {next' : UInt8 → BusM τ α}
    (rest : ∀ byte, Coupled (P phase) Q E (next byte) (next' byte)) :
    Coupled (P phase) Q E (do next ((← get).frame.getD index 0))
      (do next' ((← get).frame.getD index 0)) := by
  refine .get fun left right related => ?_
  rw [tracks.byte inside left right related]
  exact rest _

theorem tracked_abandon {Q : Bus σ → Bus τ → Prop} (count : Nat) (e : Error) :
    Coupled (P (.inside (count + 1))) Q (P .outside) (abandon e : BusM σ α) (abandon e) := by
  have closed : Coupled (P (.inside (count + 1))) (P .outside) (P .outside)
      (closeQuietly : BusM σ Unit) closeQuietly :=
    .tryCatch (tracks.deselect count) fun _ => .pure fun _ _ related => related
  exact .bind closed fun _ => .throw fun _ _ related => related

theorem tracked_transferOrClose {count offset length : Nat} (few : count < 3)
    (fits : offset + length ≤ room) :
    Coupled (P (.inside count)) (P (.inside (count + 1))) (P .outside)
      (transferOrClose c offset length : BusM σ Unit) (transferOrClose c offset length) :=
  .tryCatch (tracks.transfer few fits) fun e => tracked_abandon tracks count e

variable (long : Frame.maxLength ≤ room)
include long

theorem tracked_readRest (length : UInt8) :
    Coupled (P (.inside 2)) (P .outside) (P .outside) (readRest c length : BusM σ Nat)
      (readRest c length) := by
  have limit : Frame.maxLength = Frame.maxData + 5 := rfl
  refine .ite (fun _ => .bind (M := fun _ _ => False) (tracked_abandon tracks 1 _)
    fun _ _ _ => False.elim) fun short => ?_
  refine .bind (tracked_overlay tracks (by rw [List.length_replicate]; omega)) fun _ => ?_
  refine .bind (tracked_transferOrClose tracks (by decide) (by omega)) fun _ => ?_
  exact .bind (tracks.deselect 2) fun _ => .pure fun _ _ related => related

theorem tracked_readFrame :
    Coupled (P (.inside 1)) (P .outside) (P .outside) (readFrame c : BusM σ Nat)
      (readFrame c) := by
  rw [readFrame_eq, readFrame_eq]
  refine .bind (tracked_overlay tracks (Nat.le_trans (by decide) long)) fun _ => ?_
  refine .bind (tracked_transferOrClose tracks (by decide) (Nat.le_trans (by decide) long))
    fun _ => ?_
  exact tracked_look tracks (Nat.lt_of_lt_of_le (by decide) long) fun length =>
    tracked_readRest tracks long length

theorem tracked_pollRest (status : UInt8) :
    Coupled (P (.inside 1)) (P .outside) (P .outside) (pollRest c status : BusM σ (Option Nat))
      (pollRest c status) := by
  refine .ite (fun _ => tracked_abandon tracks 0 _) fun _ => ?_
  refine .ite (fun _ => tracked_abandon tracks 0 _) fun _ => ?_
  refine .ite (fun _ => ?_) fun _ => ?_
  · exact .bind (tracks.deselect 0) fun _ => .pure fun _ _ related => related
  · exact .bind (tracked_readFrame tracks long) fun _ => .pure fun _ _ related => related

theorem tracked_poll :
    Coupled (P .outside) (P .outside) (P .outside) (poll c : BusM σ (Option Nat)) (poll c) := by
  rw [poll_eq, poll_eq]
  refine .bind (tracked_overlay tracks (Nat.le_trans (by decide) long)) fun _ => ?_
  refine .bind tracks.select fun _ => ?_
  refine .bind (tracked_transferOrClose tracks (by decide) (Nat.le_trans (by decide) long))
    fun _ => ?_
  exact tracked_look tracks (Nat.lt_of_lt_of_le (by decide) long) fun status =>
    tracked_pollRest tracks long status

theorem tracked_pollUpTo (tries : Nat) :
    Coupled (P .outside) (P .outside) (P .outside) (pollUpTo c tries : BusM σ Nat)
      (pollUpTo c tries) := by
  induction tries with
  | zero => exact .throw fun _ _ related => related
  | succ tries ih =>
    refine .bind (tracked_poll tracks long) fun found => ?_
    cases found with
    | some length => exact .pure fun _ _ related => related
    | none => exact .bind (tracks.delay _) fun _ => ih

end

/-! ### The same buffer -/

variable {σ τ α : Type}

/-- Two buses with the same buffer, of a fixed length, and with related transports. -/
structure Alike (R : Phase → σ → τ → Prop) (size : Nat) (phase : Phase) (left : Bus σ)
    (right : Bus τ) : Prop where
  frame : left.frame = right.frame
  length : left.frame.length = size
  transport : R phase left.transport right.transport

theorem Alike.of_related {R : Phase → σ → τ → Prop} {phase : Phase} {left : σ} {right : τ}
    (related : R phase left right) (frame : Bytes) :
    Alike R frame.length phase ⟨left, frame⟩ ⟨right, frame⟩ :=
  ⟨rfl, rfl, related⟩

/-- Actions that begin and end between two windows, side by side. -/
abbrev Between (R : Phase → σ → τ → Prop) (size : Nat) (left : BusM σ α) (right : BusM τ α) :
    Prop :=
  Coupled (Alike R size .outside) (Alike R size .outside) (Alike R size .outside) left right

variable {R : Phase → σ → τ → Prop} {size : Nat} {phase phase' phase'' : Phase}

theorem coupled_lift {act : ExceptT TransportError (StateM σ) α}
    {act' : ExceptT TransportError (StateM τ) α}
    (coupled : Coupled (R phase) (R phase') (R phase'') act act') :
    Coupled (Alike R size phase) (Alike R size phase') (Alike R size phase'')
      (lift act) (lift act') := by
  rintro ⟨left, frame⟩ ⟨right, _⟩ ⟨⟨⟩, length, related⟩
  obtain ⟨same, ended⟩ := coupled left right related
  change Ends _ _ ((act.run.run left).1.mapError Error.transport, Bus.mk (act.run.run left).2 frame)
    ((act'.run.run right).1.mapError Error.transport, Bus.mk (act'.run.run right).2 frame)
  rw [← same]
  cases result : (act.run.run left).1 with
  | ok a =>
    rw [result] at ended
    exact ⟨rfl, rfl, length, ended⟩
  | error cause =>
    rw [result] at ended
    exact ⟨rfl, rfl, length, ended⟩

theorem coupled_modifyFrame {E : Bus σ → Bus τ → Prop} {change : Bytes → Bytes}
    (kept : ∀ frame : Bytes, frame.length = size → (change frame).length = size) :
    Coupled (Alike R size phase) (Alike R size phase) E (modifyFrame change)
      (modifyFrame change) := by
  refine .modify fun left right alike => ⟨congrArg change alike.frame, kept _ alike.length, ?_⟩
  exact alike.transport

/-- Behind a check of bounds the bounds hold. -/
theorem coupled_checkBounds (offset length : Nat) :
    Coupled (Alike R size .outside)
      (fun left right => Alike R size .outside left right ∧
        offset + length ≤ min Frame.maxLength size)
      (Alike R size .outside) (checkBounds offset length : BusM σ Unit)
      (checkBounds offset length) := by
  refine .get fun left right alike => ?_
  rw [← alike.frame]
  cases checked : Transport.checkBounds left.frame offset length with
  | error cause => exact .throw fun _ _ alike => alike
  | ok =>
    have inside := Transport.checkBounds_eq_ok_iff.mp checked
    refine .pure fun _ _ alike' => ⟨alike', ?_⟩
    rw [← alike.length]
    omega

/-- An exchange of a part of the buffer, within its bounds. -/
theorem run_transfer_of_inside [Transport σ] (c : Config) {offset length : Nat} {bus : Bus σ}
    (inside : offset + length ≤ min Frame.maxLength bus.frame.length) :
    (transfer c offset length).run.run bus =
      let exchanged := Transport.exchange offset (bus.frame.slice offset length)
        c.transferTimeout bus.transport
      (exchanged.1.1.mapError .transport,
        ⟨exchanged.2, bus.frame.overlay offset exchanged.1.2⟩) := by
  have checked : Transport.checkBounds bus.frame offset length = .ok () :=
    Transport.checkBounds_eq_ok_iff.mpr (by omega)
  change (let transferred :=
      Transport.transfer bus.frame offset length c.transferTimeout bus.transport;
    (transferred.1.1.mapError Error.transport, Bus.mk transferred.2 transferred.1.2)) = _
  simp only [Transport.transfer, checked, bind, StateT.bind]
  rfl

variable [Transport σ] [Transport τ] (coupled : Transport.Coupled R) (c : Config)
include coupled

theorem coupled_transfer {count offset length : Nat} (few : count < 3)
    (inside : offset + length ≤ min Frame.maxLength size) :
    Coupled (Alike R size (.inside count)) (Alike R size (.inside (count + 1)))
      (Alike R size (.inside (count + 1))) (transfer c offset length : BusM σ Unit)
      (transfer c offset length) := by
  rintro ⟨left, frame⟩ ⟨right, _⟩ ⟨⟨⟩, length_eq, related⟩
  obtain ⟨same, ended⟩ := coupled.exchange few offset (frame.slice offset length)
    c.transferTimeout left right related
  have fits : offset + length ≤ min Frame.maxLength frame.length := length_eq ▸ inside
  have kept := Transport.length_exchange offset (frame.slice offset length) c.transferTimeout left
  rw [Bytes.length_slice (by omega)] at kept
  have whole : (frame.overlay offset (Transport.exchange offset (frame.slice offset length)
      c.transferTimeout left).1.2).length = size :=
    (Bytes.length_overlay (by omega)).trans length_eq
  rw [run_transfer_of_inside c fits, run_transfer_of_inside c fits]
  dsimp only
  rw [← same]
  refine ⟨rfl, ?_⟩
  split
  all_goals exact ⟨rfl, whole, ended⟩

theorem coupled_deselect (count : Nat) :
    Coupled (Alike R size (.inside (count + 1))) (Alike R size .outside) (Alike R size .outside)
      (lift Transport.deselect : BusM σ Unit) (lift Transport.deselect) :=
  coupled_lift (coupled.deselect count)

theorem coupled_delay (duration : UInt32) :
    Between R size (delay duration : BusM σ Unit) (delay duration) := by
  refine coupled_lift fun left right related => ⟨rfl, ?_⟩
  exact coupled.delay duration left right related

theorem coupled_random (count : Nat) :
    Between R size (random count : BusM σ (Octets count)) (random count) :=
  coupled_lift (coupled.random count)

theorem alike_tracks : Tracks c (min Frame.maxLength size) (Alike R size) where
  overlay := by
    intro phase offset piece fits left right alike
    have inside : offset + piece.length ≤ left.frame.length := by
      rw [alike.length]
      omega
    exact ⟨congrArg (·.overlay offset piece) alike.frame,
      (Bytes.length_overlay inside).trans alike.length, alike.transport⟩
  byte _ left right alike := by rw [alike.frame]
  select := coupled_lift coupled.select
  transfer := coupled_transfer coupled c
  deselect := coupled_deselect coupled
  delay := coupled_delay coupled

theorem coupled_write (length : Nat) :
    Between R size (write c length : BusM σ Unit) (write c length) := by
  refine .ite (fun _ => .throw_bind fun _ _ alike => alike) fun _ => ?_
  refine .bind (coupled_checkBounds 0 length) fun _ => .of_and fun inside => ?_
  refine .bind (coupled_lift coupled.select) fun _ => ?_
  refine .bind (tracked_transferOrClose (alike_tracks coupled c) (by decide) inside) fun _ => ?_
  refine .bind (coupled_deselect coupled 0) fun _ => ?_
  exact .ite (fun _ => coupled_delay coupled _) fun _ => .pure fun _ _ alike => alike

variable (room : Frame.maxLength ≤ size)
include room

theorem coupled_poll :
    Between R size (poll c : BusM σ (Option Nat)) (poll c) :=
  tracked_poll (alike_tracks coupled c) (Nat.le_min.mpr ⟨Nat.le_refl _, room⟩)

theorem coupled_pollUpTo (tries : Nat) :
    Between R size (pollUpTo c tries : BusM σ Nat) (pollUpTo c tries) :=
  tracked_pollUpTo (alike_tracks coupled c) (Nat.le_min.mpr ⟨Nat.le_refl _, room⟩) tries

omit room in
theorem coupled_read :
    Between R size (read c : BusM σ Nat) (read c) := by
  refine .bind (coupled_checkBounds 0 Frame.maxLength) fun _ => .of_and fun inside => ?_
  exact coupled_pollUpTo coupled c (by omega) _

end Bus

/-! ### The link -/

namespace Link

open Bus

variable {σ τ α : Type} {R : Phase → σ → τ → Prop} {size : Nat}

theorem coupled_expectStatus (reply : Frame.Reply) (expected : Status) :
    Between R size (expectStatus reply expected : BusM σ Unit) (expectStatus reply expected) :=
  .ite (fun _ => .pure fun _ _ alike => alike) fun _ => .throw fun _ _ alike => alike

variable [Transport σ] [Transport τ] (coupled : Transport.Coupled R) (c : Config)
include coupled

theorem coupled_withRetries {attempt : BusM σ α} {attempt' : BusM τ α}
    (once : Between R size attempt attempt') (retries : Nat) :
    Between R size (withRetries c attempt retries) (withRetries c attempt' retries) := by
  induction retries with
  | zero => exact once
  | succ retries ih =>
    exact .tryCatch once fun e => .ite (fun _ => .bind (coupled_delay coupled _) fun _ => ih)
      fun _ => .throw fun _ _ alike => alike

theorem coupled_sendOnce (id : UInt8) (data : Bytes) :
    Between R size (sendOnce c id data : BusM σ Unit) (sendOnce c id data) := by
  refine .get fun left right alike => ?_
  rw [← alike.frame]
  cases built : Frame.buildRequest left.frame id data with
  | error cause => exact .throw fun _ _ alike => alike
  | ok outcome =>
    refine .bind (coupled_modifyFrame fun _ _ => ?_) fun _ => coupled_write coupled c outcome.1
    exact (Frame.length_of_build built).trans alike.length

theorem coupled_send (id : UInt8) (data : Bytes) :
    Between R size (send c id data : BusM σ Unit) (send c id data) :=
  coupled_withRetries coupled c (coupled_sendOnce coupled c id data) _

theorem coupled_receive : Between R size (receive c : BusM σ Frame.Reply) (receive c) := by
  refine .bind (coupled_withRetries coupled c (coupled_read coupled c) _) fun length => ?_
  refine .get fun left right alike => ?_
  rw [← alike.frame]
  cases Frame.parseResponse (left.frame.take length) with
  | error cause => exact .throw fun _ _ alike => alike
  | ok reply => exact .pure fun _ _ alike => alike

theorem coupled_turn (id : UInt8) (data : Bytes) (expected : Status) :
    Between R size (turn c id data expected : BusM σ Bytes) (turn c id data expected) := by
  refine .bind (coupled_send coupled c id data) fun _ => ?_
  refine .bind (coupled_receive coupled c) fun reply => ?_
  exact .bind (coupled_expectStatus reply expected) fun _ => .pure fun _ _ alike => alike

theorem coupled_transceive (id : UInt8) (data : Bytes) :
    Between R size (transceive c id data : BusM σ Bytes) (transceive c id data) :=
  coupled_turn coupled c id data .requestOk

/-- A request whose answer is not used. -/
theorem coupled_request (id : UInt8) (data : Bytes) :
    Between R size (transceive c id data >>= fun _ => pure () : BusM σ Unit)
      (transceive c id data >>= fun _ => pure ()) :=
  .bind (coupled_transceive coupled c id data) fun _ => .pure fun _ _ alike => alike

theorem coupled_sendChunks (chunks : List Bytes) :
    Between R size (sendChunks c chunks : BusM σ Unit) (sendChunks c chunks) := by
  induction chunks with
  | nil => exact .pure fun _ _ alike => alike
  | cons chunk rest ih =>
    rw [sendChunks_cons, sendChunks_cons]
    exact .bind (coupled_turn coupled c _ chunk _) fun _ => ih

/-- Results are collected alike. -/
theorem collect_alike (frames : Nat) (out : Bytes) (length : Nat) {left : Bus σ} {right : Bus τ}
    (alike : Alike R size .outside left right) :
    ((collect c frames out length).run left).1 = ((collect c frames out length).run right).1 ∧
      Alike R size .outside ((collect c frames out length).run left).2
        ((collect c frames out length).run right).2 := by
  induction frames generalizing out length left right with
  | zero => exact ⟨rfl, alike⟩
  | succ frames ih =>
    obtain ⟨same, ended⟩ := ((coupled_receive coupled c).perform alike).same
    rw [run_collect, run_collect]
    rcases one : perform (receive c) left with ⟨result, after⟩
    rcases other : perform (receive c) right with ⟨result', after'⟩
    rw [one, other] at same ended
    obtain rfl : result = result' := same
    cases result with
    | error e => exact ⟨rfl, ended⟩
    | ok reply =>
      dsimp only
      split
      · split
        · exact ⟨rfl, ended⟩
        · split
          · exact ⟨rfl, ended⟩
          · exact ih _ _ ended
      · exact ⟨rfl, ended⟩

end Link

/-! ### Operations of the link -/

namespace Link

/-- An operation of the link and its arguments. A result is collected from a bounded
number of responses. -/
inductive Operation where
  | send (id : UInt8) (data : Bytes)
  | receive
  | transceive (id : UInt8) (data : Bytes)
  | getInfo (object block : UInt8)
  | handshake (ephemeral : Octets 32) (slot : UInt8)
  | sendEncrypted (packet : Bytes)
  | receiveEncrypted (frames : Nat) (out : Bytes)
  | sessionAbort
  | sleep (kind : SleepKind)
  | startup (kind : StartupKind)
  | random (count : Nat)

namespace Operation

/-- What an operation returns. -/
def Result : Operation → Type
  | receive => Except Error Frame.Reply
  | transceive .. => Except Error Bytes
  | getInfo .. => Except Error Bytes
  | handshake .. => Except Error Bytes
  | receiveEncrypted .. => Option (Except Error Nat × Bytes)
  | random count => Except Error (Octets count)
  | _ => Except Error Unit

variable {σ τ : Type} [Transport σ] [Transport τ]

/-- Runs an operation. -/
def run (c : Config) : (operation : Operation) → Bus σ → operation.Result × Bus σ
  | send id data, bus => perform (Link.send c id data) bus
  | receive, bus => perform (Link.receive c) bus
  | transceive id data, bus => perform (Link.transceive c id data) bus
  | getInfo object block, bus => perform (Link.getInfo c object block) bus
  | handshake ephemeral slot, bus => perform (Link.handshake c ephemeral slot) bus
  | sendEncrypted packet, bus => perform (Link.sendEncrypted c packet) bus
  | receiveEncrypted frames out, bus => (Link.receiveEncrypted c frames out).run bus
  | sessionAbort, bus => perform (Link.sessionAbort c) bus
  | sleep kind, bus => perform (Link.sleep c kind) bus
  | startup kind, bus => perform (Link.startup c kind) bus
  | random count, bus => perform (Bus.random count) bus

/-- Operations with what they returned. -/
abbrev Results := List (Σ operation : Operation, operation.Result)

/-- Runs operations one after the other. -/
def runAll (c : Config) : List Operation → Bus σ → Results × Bus σ
  | [], bus => ([], bus)
  | operation :: rest, bus =>
    let (result, bus) := operation.run c bus
    let (results, bus) := runAll c rest bus
    (⟨operation, result⟩ :: results, bus)

variable {R : Phase → σ → τ → Prop} {size : Nat} {left : Bus σ} {right : Bus τ}

/-- Over related transports an operation returns the same. -/
theorem run_alike (coupled : Transport.Coupled R) (c : Config) (operation : Operation)
    (alike : Bus.Alike R size .outside left right) :
    (operation.run c left).1 = (operation.run c right).1 ∧
      Bus.Alike R size .outside (operation.run c left).2 (operation.run c right).2 := by
  cases operation with
  | send id data => exact ((coupled_send coupled c id data).perform alike).same
  | receive => exact ((coupled_receive coupled c).perform alike).same
  | transceive id data => exact ((coupled_transceive coupled c id data).perform alike).same
  | getInfo object block => exact ((coupled_transceive coupled c _ _).perform alike).same
  | handshake ephemeral slot => exact ((coupled_transceive coupled c _ _).perform alike).same
  | sendEncrypted packet => exact ((coupled_sendChunks coupled c _).perform alike).same
  | receiveEncrypted frames out => exact collect_alike coupled c frames out 0 alike
  | sessionAbort => exact ((coupled_request coupled c _ _).perform alike).same
  | sleep kind => exact ((coupled_request coupled c _ _).perform alike).same
  | startup kind => exact ((coupled_request coupled c _ _).perform alike).same
  | random count => exact ((Bus.coupled_random coupled count).perform alike).same

/-- Over related transports operations return the same, one after the other. -/
theorem runAll_alike (coupled : Transport.Coupled R) (c : Config) (operations : List Operation)
    (alike : Bus.Alike R size .outside left right) :
    (runAll c operations left).1 = (runAll c operations right).1 ∧
      Bus.Alike R size .outside (runAll c operations left).2 (runAll c operations right).2 := by
  induction operations generalizing left right with
  | nil => exact ⟨rfl, alike⟩
  | cons operation rest ih =>
    obtain ⟨same, alike⟩ := run_alike coupled c operation alike
    obtain ⟨sames, alike⟩ := ih alike
    exact ⟨by simp only [runAll, same, sames], alike⟩

end Operation

end Link

end SecureElement
