import SecureElement.Proofs.Frames
import SecureElement.Proofs.Phases

/-!
What exchanges promise over any transport.

Nothing is assumed of the bytes that come in and of the calls that fail. Still the
frame buffer keeps its length, what a read returns fits it, the data of a response
fits a frame, and whatever goes wrong is a failure of the transport, of a frame or
of the protocol (`Error.OfLink`). So an exchange never ends in an error that means
something else to a device, such as that there is a session already.
-/

namespace SecureElement

/-! ### Contracts -/

section

variable {ε s α β : Type}

/-- From a state with `P` the action ends in one with `P`; what it returns has `Q`,
and what it fails with has `E`. -/
def Contract (P : s → Prop) (Q : α → Prop) (E : ε → Prop) (act : ExceptT ε (StateM s) α) : Prop :=
  ∀ before, P before → P (perform act before).2 ∧
    (∀ a, (perform act before).1 = .ok a → Q a) ∧
    ∀ e, (perform act before).1 = .error e → E e

namespace Contract

variable {P : s → Prop} {Q : α → Prop} {R : β → Prop} {E : ε → Prop}
  {act : ExceptT ε (StateM s) α}

theorem pure {a : α} (holds : Q a) : Contract P Q E (pure a : ExceptT ε (StateM s) α) := by
  intro before held
  refine ⟨held, ?_, nofun⟩
  rintro _ ⟨⟩
  exact holds

theorem throw {e : ε} (holds : E e) : Contract P Q E (throw e : ExceptT ε (StateM s) α) := by
  intro before held
  refine ⟨held, nofun, ?_⟩
  rintro _ ⟨⟩
  exact holds

/-- A state that is read has what is known of it. -/
theorem get : Contract P P E (get : ExceptT ε (StateM s) s) := by
  intro before held
  refine ⟨held, ?_, nofun⟩
  rintro _ ⟨⟩
  exact held

theorem modify {change : s → s} (kept : ∀ before, P before → P (change before)) :
    Contract P (fun _ => True) E (modify change : ExceptT ε (StateM s) PUnit) := by
  intro before held
  exact ⟨kept before held, fun _ _ => trivial, nofun⟩

theorem bind {next : α → ExceptT ε (StateM s) β} (first : Contract P Q E act)
    (rest : ∀ a, Q a → Contract P R E (next a)) : Contract P R E (act >>= next) := by
  intro before held
  obtain ⟨between, returns, fails⟩ := first before held
  rcases performed : perform act before with ⟨e | a, after⟩
  all_goals rw [performed] at between returns fails
  · rw [perform_bind_error performed]
    refine ⟨between, nofun, ?_⟩
    rintro _ ⟨⟩
    exact fails e rfl
  · rw [perform_bind_ok performed]
    exact rest a (returns a rfl) after between

/-- What follows a failure is not run. -/
theorem throw_bind {e : ε} {next : α → ExceptT ε (StateM s) β} (holds : E e) :
    Contract P R E (MonadExcept.throw e >>= next) :=
  .bind (Q := fun _ => False) (.throw holds) nofun

theorem tryCatch {F : ε → Prop} {handler : ε → ExceptT ε (StateM s) α}
    (first : Contract P Q F act) (rest : ∀ e, F e → Contract P Q E (handler e)) :
    Contract P Q E (tryCatch act handler) := by
  intro before held
  obtain ⟨between, returns, fails⟩ := first before held
  rw [perform_tryCatch]
  rcases performed : perform act before with ⟨e | a, after⟩
  all_goals rw [performed] at between returns fails
  · exact rest e (fails e rfl) after between
  · refine ⟨between, ?_, nofun⟩
    rintro _ ⟨⟩
    exact returns a rfl

/-! What a contract says of one run. -/

section

variable {before after : s} {result : Except ε α}

theorem kept (contract : Contract P Q E act) (held : P before)
    (performed : perform act before = (result, after)) : P after := by
  have kept := (contract before held).1
  rwa [performed] at kept

theorem returned (contract : Contract P Q E act) (held : P before) {a : α}
    (performed : perform act before = (.ok a, after)) : Q a :=
  (contract before held).2.1 a (congrArg Prod.fst performed)

theorem failed (contract : Contract P Q E act) (held : P before) {e : ε}
    (performed : perform act before = (.error e, after)) : E e :=
  (contract before held).2.2 e (congrArg Prod.fst performed)

end

theorem ite {condition : Prop} [Decidable condition] {left right : ExceptT ε (StateM s) α}
    (first : condition → Contract P Q E left) (second : ¬condition → Contract P Q E right) :
    Contract P Q E (if condition then left else right) := by
  split
  · exact first ‹_›
  · exact second ‹_›

end Contract

end

/-- The error is one of the transport, of a frame or of the protocol. -/
def Error.OfLink : Error → Prop
  | .transport _ => True
  | .frame _ => True
  | .protocol _ => True
  | _ => False

theorem Error.OfLink.ne_sessionActive {e : Error} (ofLink : e.OfLink) : e ≠ .sessionActive := by
  rintro rfl
  exact ofLink

/-! ### The bus -/

namespace Bus

variable {σ : Type}

/-- The frame buffer has the length that it was made with. -/
def Framed (bus : Bus σ) : Prop :=
  bus.frame.length = Frame.maxLength

/-- The contract of actions on the bus: the frame buffer keeps its length, and
failures are those of a link. -/
abbrev Behaves {α : Type} (Q : α → Prop) (act : BusM σ α) : Prop :=
  Contract Framed Q Error.OfLink act

theorem behaves_modifyFrame {change : Bytes → Bytes}
    (kept : ∀ frame : Bytes, frame.length = Frame.maxLength →
      (change frame).length = Frame.maxLength) :
    Behaves (fun _ => True) (modifyFrame change : BusM σ Unit) :=
  .modify fun bus framed => kept bus.frame framed

theorem behaves_checkBounds (offset length : Nat) :
    Behaves (fun _ => True) (checkBounds offset length : BusM σ Unit) := by
  refine .bind .get fun bus _ => ?_
  cases Transport.checkBounds bus.frame offset length with
  | ok _ => exact .pure trivial
  | error cause => exact .throw trivial

theorem behaves_lift {α : Type} (act : ExceptT TransportError (StateM σ) α) :
    Behaves (fun _ => True) (lift act) := by
  intro bus framed
  refine ⟨framed, fun _ _ => trivial, ?_⟩
  intro e failed
  change ((act.run.run bus.transport).1.mapError Error.transport) = .error e at failed
  cases result : (act.run.run bus.transport).1 with
  | ok a =>
    rw [result] at failed
    cases failed
  | error cause =>
    rw [result] at failed
    cases failed
    trivial

variable [Transport σ]

theorem behaves_delay (duration : UInt32) :
    Behaves (fun _ => True) (delay duration : BusM σ Unit) :=
  behaves_lift _

theorem behaves_transfer (c : Config) (offset length : Nat) :
    Behaves (fun _ => True) (transfer c offset length : BusM σ Unit) := by
  intro bus framed
  have kept := Transport.length_transfer bus.frame offset length c.transferTimeout bus.transport
  refine ⟨kept.trans framed, fun _ _ => trivial, ?_⟩
  intro e failed
  change ((Transport.transfer bus.frame offset length c.transferTimeout).run
    bus.transport).1.1.mapError Error.transport = .error e at failed
  cases result : ((Transport.transfer bus.frame offset length c.transferTimeout).run
      bus.transport).1.1 with
  | ok _ =>
    rw [result] at failed
    cases failed
  | error cause =>
    rw [result] at failed
    cases failed
    trivial

theorem behaves_closeQuietly : Behaves (fun _ => True) (closeQuietly : BusM σ Unit) :=
  .tryCatch (behaves_lift _) fun _ _ => .pure trivial

theorem behaves_abandon {α : Type} {Q : α → Prop} {e : Error} (ofLink : e.OfLink) :
    Behaves Q (abandon e : BusM σ α) :=
  .bind behaves_closeQuietly fun _ _ => .throw ofLink

theorem behaves_transferOrClose (c : Config) (offset length : Nat) :
    Behaves (fun _ => True) (transferOrClose c offset length : BusM σ Unit) :=
  .tryCatch (behaves_transfer c offset length) fun _ ofLink => behaves_abandon ofLink

theorem behaves_write (c : Config) (length : Nat) :
    Behaves (fun _ => True) (write c length : BusM σ Unit) := by
  unfold write
  refine .ite (fun _ => .throw_bind trivial) fun _ => ?_
  refine .bind (behaves_checkBounds 0 length) fun _ _ => ?_
  refine .bind (behaves_lift _) fun _ _ => ?_
  refine .bind (behaves_transferOrClose c 0 length) fun _ _ => ?_
  refine .bind (behaves_lift _) fun _ _ => ?_
  exact .ite (fun _ => behaves_delay _) fun _ => .pure trivial

/-- A frame that is read fits the buffer. -/
theorem behaves_readFrame (c : Config) :
    Behaves (· ≤ Frame.maxLength) (readFrame c : BusM σ Nat) := by
  unfold readFrame
  refine .bind (behaves_modifyFrame fun frame framed => ?_) fun _ _ => ?_
  · rw [Bytes.length_overlay (by rw [framed]; decide), framed]
  refine .bind (behaves_transferOrClose c 1 2) fun _ _ => ?_
  refine .bind .get fun bus _ => ?_
  refine .ite (fun _ => .bind (Q := fun _ => False) (behaves_abandon trivial) nofun) fun short => ?_
  have inside := Nat.le_of_not_lt short
  simp only [Frame.maxData] at inside
  refine .bind (behaves_modifyFrame fun frame framed => ?_) fun _ _ => ?_
  · rw [Bytes.length_overlay ?_, framed]
    rw [framed, List.length_replicate]
    simp only [Frame.maxLength, Frame.maxData, Frame.overhead]
    omega
  refine .bind (behaves_transferOrClose c 3 _) fun _ _ => ?_
  refine .bind (behaves_lift _) fun _ _ => .pure ?_
  simp only [Frame.maxLength, Frame.maxData, Frame.overhead]
  omega

theorem behaves_poll (c : Config) :
    Behaves (fun length? => ∀ length ∈ length?, length ≤ Frame.maxLength)
      (poll c : BusM σ (Option Nat)) := by
  unfold poll
  refine .bind (behaves_modifyFrame fun frame framed => ?_) fun _ _ => ?_
  · rw [Bytes.length_overlay (by rw [framed]; decide), framed]
  refine .bind (behaves_lift _) fun _ _ => ?_
  refine .bind (behaves_transferOrClose c 0 1) fun _ _ => ?_
  refine .bind .get fun bus _ => ?_
  refine .ite (fun _ => behaves_abandon trivial) fun _ => ?_
  refine .ite (fun _ => behaves_abandon trivial) fun _ => ?_
  refine .ite (fun _ => .bind (behaves_lift _) fun _ _ => .pure nofun) fun _ => ?_
  refine .bind (behaves_readFrame c) fun length fits => .pure ?_
  intro _ same
  cases same
  exact fits

theorem behaves_pollUpTo (c : Config) (tries : Nat) :
    Behaves (· ≤ Frame.maxLength) (pollUpTo c tries : BusM σ Nat) := by
  induction tries with
  | zero => exact .throw trivial
  | succ tries ih =>
    refine .bind (behaves_poll c) fun length? fits => ?_
    cases length? with
    | some length => exact .pure (fits length rfl)
    | none => exact .bind (behaves_delay _) fun _ _ => ih

theorem behaves_read (c : Config) : Behaves (· ≤ Frame.maxLength) (read c : BusM σ Nat) :=
  .bind (behaves_checkBounds 0 _) fun _ _ => behaves_pollUpTo c _

end Bus

/-! ### The link -/

namespace Link

open Bus

variable {σ : Type} [Transport σ]

theorem behaves_withRetries {α : Type} {Q : α → Prop} (c : Config) {attempt : BusM σ α}
    (once : Behaves Q attempt) (retries : Nat) : Behaves Q (withRetries c attempt retries) := by
  induction retries with
  | zero => exact once
  | succ retries ih =>
    refine .tryCatch once fun e ofLink => ?_
    exact .ite (fun _ => .bind (behaves_delay _) fun _ _ => ih) fun _ => .throw ofLink

theorem behaves_sendOnce (c : Config) (id : UInt8) (data : Bytes) :
    Behaves (fun _ => True) (sendOnce c id data : BusM σ Unit) := by
  refine .bind .get fun bus framed => ?_
  cases built : Frame.buildRequest bus.frame id data with
  | error cause => exact .throw trivial
  | ok outcome =>
    refine .bind (behaves_modifyFrame fun _ _ => ?_) fun _ _ => behaves_write c outcome.1
    exact (Frame.length_of_build built).trans framed

theorem behaves_send (c : Config) (id : UInt8) (data : Bytes) :
    Behaves (fun _ => True) (send c id data : BusM σ Unit) :=
  behaves_withRetries c (behaves_sendOnce c id data) _

theorem behaves_receive (c : Config) :
    Behaves (fun reply => reply.data.length ≤ Frame.maxData) (receive c : BusM σ Frame.Reply) := by
  refine .bind (behaves_withRetries c (behaves_read c) _) fun length _ => ?_
  refine .bind .get fun bus framed => ?_
  cases parsed : Frame.parseResponse (bus.frame.take length) with
  | error cause => exact .throw trivial
  | ok reply => exact .pure (Frame.parseResponse_eq_ok_iff.mp parsed).1

omit [Transport σ] in
theorem behaves_expectStatus (reply : Frame.Reply) (expected : Status) :
    Behaves (fun _ => True) (expectStatus reply expected : BusM σ Unit) :=
  .ite (fun _ => .pure trivial) fun _ => .throw trivial

theorem behaves_transceive (c : Config) (id : UInt8) (data : Bytes) :
    Behaves (fun answer => answer.length ≤ Frame.maxData)
      (transceive c id data : BusM σ Bytes) := by
  refine .bind (behaves_send c id data) fun _ _ => ?_
  refine .bind (behaves_receive c) fun reply short => ?_
  exact .bind (behaves_expectStatus reply .requestOk) fun _ _ => .pure short

theorem behaves_sendChunks (c : Config) (chunks : List Bytes) :
    Behaves (fun _ => True) (sendChunks c chunks : BusM σ Unit) := by
  induction chunks with
  | nil => exact .pure trivial
  | cons chunk rest ih =>
    refine .bind (behaves_send c _ chunk) fun _ _ => ?_
    refine .bind (behaves_receive c) fun reply _ => ?_
    exact .bind (behaves_expectStatus reply _) fun _ _ => ih

omit [Transport σ] in
theorem behaves_discard {α : Type} {Q : α → Prop} {act : BusM σ α} (behaves : Behaves Q act) :
    Behaves (fun _ => True) (act >>= fun _ => pure ()) :=
  .bind behaves fun _ _ => .pure trivial

theorem behaves_sendEncrypted (c : Config) (packet : Bytes) :
    Behaves (fun _ => True) (sendEncrypted c packet : BusM σ Unit) :=
  behaves_sendChunks c _

/-- What is collected fits the buffer that it is collected into. -/
theorem collect_behaves {c : Config} {frames : Nat} {out out' : Bytes} {length : Nat}
    {bus after : Bus σ} {result : Except Error Nat} (framed : bus.Framed)
    (collects : (collect c frames out length).run bus = (some (result, out'), after)) :
    after.Framed ∧ out'.length = out.length ∧ ∀ count, result = .ok count → count ≤ out.length := by
  induction frames generalizing out length bus with
  | zero => cases collects
  | succ frames ih =>
    rw [run_collect] at collects
    rcases performed : perform (receive c) bus with ⟨e | reply, between⟩
    all_goals
      rw [performed] at collects
      have between_framed := (behaves_receive c).kept framed performed
    · cases collects
      exact ⟨between_framed, rfl, nofun⟩
    dsimp only at collects
    split at collects
    case isFalse =>
      cases collects
      exact ⟨between_framed, rfl, nofun⟩
    split at collects
    case isTrue =>
      cases collects
      exact ⟨between_framed, rfl, nofun⟩
    case isFalse fits =>
      have inside := Nat.le_of_not_lt fits
      have same := Bytes.length_overlay inside
      split at collects
      · cases collects
        refine ⟨between_framed, same, ?_⟩
        rintro _ ⟨⟩
        exact inside
      · have rest := ih between_framed collects
        rw [same] at rest
        exact rest

end Link

end SecureElement
