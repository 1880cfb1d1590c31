import SecureElement.Proofs.Polls

/-!
Attempts that are repeated.

`Trials` says what the attempts of a repeated action are: there is another one exactly
if one fails in the transport and a repetition is left, with one wait between them, and
the last one decides. Every action that is repeated goes like this, whatever the
transport does (`Link.steady_trials`). With what one attempt of a request or of a
response is (`SendRun`, `ReceiveRun`), this bounds the windows that are opened
(`Link.retries_exact`).
-/

namespace SecureElement

/-! ### Windows -/

/-- How many windows are opened; one that is refused counts too. -/
def opens (calls : List Heard) : Nat :=
  calls.countP fun heard => heard.call = .select

@[simp] theorem opens_nil : opens [] = 0 := rfl

@[simp] theorem opens_cons (heard : Heard) (calls : List Heard) :
    opens (heard :: calls) = opens calls + if heard.call = .select then 1 else 0 := by
  simp [opens, List.countP_cons]

@[simp] theorem opens_append (calls more : List Heard) :
    opens (calls ++ more) = opens calls + opens more :=
  List.countP_append

/-- Parts that open few windows each, put together with parts that open none. -/
theorem opens_intercalate_le {gap : List Heard} (none : opens gap = 0) {windows : Nat}
    {parts : List (List Heard)} (each : ∀ part ∈ parts, opens part ≤ windows) :
    opens (gap.intercalate parts) ≤ parts.length * windows := by
  induction parts with
  | nil => simp
  | cons part rest ih =>
    obtain ⟨first, others⟩ := List.forall_mem_cons.mp each
    have further := ih others
    cases rest with
    | nil => simpa using first
    | cons next rest =>
      rw [List.intercalate_cons_cons, opens_append, opens_append, none, List.length_cons,
        Nat.succ_mul]
      omega

namespace Bus

variable {c : Config} {calls : List Heard}

theorem PollRun.opens {outcome : Except Error (Option Bytes)} (run : PollRun c calls outcome) :
    opens calls = 1 := by
  cases run <;> simp [Heard.silent]

/-- A read opens no more windows than it has tries. -/
theorem ReadRun.opens_le {tries : Nat} {outcome : Except Error Bytes}
    (run : ReadRun c tries calls outcome) : SecureElement.opens calls ≤ tries := by
  induction run with
  | exhausted => simp
  | failed polled => simp [polled.opens]
  | found polled => simp [polled.opens]
  | busy polled rest ih =>
    simp [polled.opens, Heard.silent]
    omega

theorem WriteRun.opens {frame : Bytes} {result : Except Error Unit}
    (run : WriteRun c frame calls result) : SecureElement.opens calls = 1 := by
  cases run with
  | refused cause => simp [Heard.silent]
  | broken cause incoming closing => simp [Heard.silent]
  | unclosed incoming cause => simp [Heard.silent]
  | sent incoming =>
    unfold turnaround
    split <;> simp [Heard.silent]

end Bus

namespace Link

open Bus

/-! ### Attempts -/

/-- An attempt: what is called, and what it comes to. -/
structure Trial (α : Type) where
  calls : List Heard
  result : Except Error α

variable {α β : Type}

/-- The attempts of an action that is repeated at most `retries` times, with its calls and
its result. `made` attempts were made before one, and so many repetitions are used. -/
structure Trials (c : Config) (Once : List Heard → Except Error α → Prop) (retries : Nat)
    (calls : List Heard) (result : Except Error α) (trials : List (Trial α)) : Prop where
  once : ∀ trial ∈ trials, Once trial.calls trial.result
  again (made : Nat) (has : made < trials.length) : made + 1 < trials.length ↔
    made < retries ∧ ∃ cause, trials[made].result = .error (.transport cause)
  last : trials.getLast?.map Trial.result = some result
  waits : [Heard.waited c.retryDelay].intercalate (trials.map Trial.calls) = calls

namespace Trials

variable {c : Config} {Once : List Heard → Except Error α → Prop} {retries : Nat}
  {calls more : List Heard} {result : Except Error α} {trials : List (Trial α)}

theorem single (once : Once calls result)
    (ended : retries = 0 ∨ ∀ cause, result ≠ .error (.transport cause)) :
    Trials c Once retries calls result [⟨calls, result⟩] where
  once := List.forall_mem_singleton.mpr once
  again made has := by
    obtain rfl : made = 0 := Nat.lt_one_iff.mp has
    constructor
    · intro more
      exact absurd more (Nat.lt_irrefl 1)
    · rintro ⟨left, cause, failed⟩
      rcases ended with none | unlike
      · omega
      · exact absurd failed (unlike cause)
  last := rfl
  waits := List.intercalate_singleton

/-- An attempt fails in the transport, and others follow. -/
theorem cons {cause : TransportError} (once : Once calls (.error (.transport cause)))
    (rest : Trials c Once retries more result trials) :
    Trials c Once (retries + 1) (calls ++ .waited c.retryDelay :: more) result
      (⟨calls, .error (.transport cause)⟩ :: trials) := by
  have ⟨others, again, last, waits⟩ := rest
  cases trials with
  | nil => cases last
  | cons next trials =>
    refine ⟨List.forall_mem_cons.mpr ⟨once, others⟩, fun made has => ?_, last, ?_⟩
    · cases made with
      | zero =>
        constructor
        · intro _
          exact ⟨Nat.succ_pos retries, cause, rfl⟩
        · intro _
          simp
      | succ made =>
        have following := again made (Nat.lt_of_succ_lt_succ has)
        simpa using following
    · rw [List.map_cons, List.map_cons, List.intercalate_cons_cons, ← List.map_cons, waits]
      simp

theorem length_le (all : Trials c Once retries calls result trials) :
    trials.length ≤ retries + 1 := by
  by_cases many : retries < trials.length
  · have next := all.again retries many
    by_cases more : retries + 1 < trials.length
    · exact absurd (next.mp more).1 (Nat.lt_irrefl retries)
    · omega
  · omega

/-- Attempts that open few windows each open few windows. -/
theorem opens_le (all : Trials c Once retries calls result trials) {windows : Nat}
    (each : ∀ calls result, Once calls result → opens calls ≤ windows) :
    opens calls ≤ (retries + 1) * windows := by
  rw [← all.waits]
  have bound : opens ([Heard.waited c.retryDelay].intercalate (trials.map Trial.calls)) ≤
      (trials.map Trial.calls).length * windows := by
    apply opens_intercalate_le
    · simp [Heard.silent]
    · intro part member
      obtain ⟨trial, among, rfl⟩ := List.mem_map.mp member
      exact each _ _ (all.once trial among)
  rw [List.length_map] at bound
  exact Nat.le_trans bound (Nat.mul_le_mul_right windows all.length_le)

end Trials

variable {σ : Type} [Transport σ] (c : Config)

/-- Whatever one attempt is, it is repeated like this. -/
theorem steady_trials {Once : List Heard → Except Error α → Prop}
    {attempt : BusM (Tapped σ) α}
    (once : Steady (perform attempt) [] fun result _ calls => Once calls result) (retries : Nat) :
    Steady (perform (withRetries c attempt retries)) []
      fun result _ calls => ∃ trials, Trials c Once retries calls result trials := by
  induction retries with
  | zero => exact once.mono fun result known calls once => ⟨_, .single once (.inl rfl)⟩
  | succ retries ih =>
    refine .tryCatch (once.mono fun result known calls once => ?_)
    cases result with
    | ok a => exact ⟨_, .single once (.inr nofun)⟩
    | error e =>
      cases e with
      | transport cause =>
        refine .ite (fun _ => ?_) fun other => absurd rfl other
        refine .bind (steady_delay _ (.forget (ih.mono fun result known more all => ?_)))
        obtain ⟨trials, all⟩ := all
        exact ⟨_, all.cons once⟩
      | _ =>
        refine .ite (fun same => nomatch same) fun _ => .throw ?_
        rw [List.append_nil]
        exact ⟨_, .single once (.inr nofun)⟩

/-! ### Requests -/

/-- The calls of one attempt to send a request and what it comes to. A request that is too
long is not sent at all. -/
inductive SendRun (c : Config) (id : UInt8) (data : Bytes) :
    List Heard → Except Error Unit → Prop
  | long (long : Frame.maxData < data.length) :
      SendRun c id data [] (.error (.frame (.length data.length)))
  | written {calls : List Heard} {result : Except Error Unit}
      (short : data.length ≤ Frame.maxData) (run : WriteRun c (Frame.encode id data) calls result) :
      SendRun c id data calls result

theorem SendRun.opens_le {c : Config} {id : UInt8} {data : Bytes} {calls : List Heard}
    {result : Except Error Unit} (run : SendRun c id data calls result) : opens calls ≤ 1 := by
  cases run with
  | long long => simp
  | written short run => simp [run.opens]

/-- A request is built anew in the buffer, whatever is there. -/
theorem steady_sendOnce (id : UInt8) (data : Bytes) :
    Steady (perform (sendOnce (σ := Tapped σ) c id data)) []
      fun result _ calls => SendRun c id data calls result := by
  by_cases short : data.length ≤ Frame.maxData
  · have size := Frame.length_encode id data
    have fits : (Frame.encode id data).length ≤ Frame.maxLength := by
      rw [size]
      simp only [Frame.maxLength]
      omega
    -- The same as writing the request over the front of the buffer and sending it.
    have writes : Steady (perform (do
        modifyFrame fun frame => frame.overlay 0 (Frame.encode id data)
        write (σ := Tapped σ) c (Frame.encode id data).length)) []
        fun result _ calls => SendRun c id data calls result := by
      refine .bind (steady_overlay rfl ((steady_write c ?_ fits).mono fun _ _ _ run => ?_) ?_)
      · rw [size]
        simp [minLength, Frame.overhead]
      · exact .written short run
      · omega
    refine writes.congr fun before rest whole => ?_
    have room : data.length + Frame.overhead ≤ ([] ++ rest).length := by
      rw [whole, ← size]
      exact fits
    rw [sendOnce, perform_bind_ok (perform_get _)]
    dsimp only
    rw [Frame.buildRequest, Frame.build_eq_ok id short room, ← size]
    rfl
  · refine .look (throw (.frame (.length data.length))) (.throw ?_) fun before rest _ => ?_
    · exact .long (Nat.lt_of_not_le short)
    · dsimp only
      rw [Frame.buildRequest, Frame.build, if_pos (.inl (Nat.lt_of_not_le short))]

/-! ### Responses -/

/-- The calls of one attempt to get a response and what it comes to: the bytes that are
read, parsed. -/
def ReceiveRun (c : Config) (calls : List Heard) (result : Except Error Frame.Reply) : Prop :=
  ∃ outcome, ReadRun c c.readMaxTries.toNat calls outcome ∧
    result = outcome.bind fun bytes => (Frame.parseResponse bytes).mapError .frame

/-- One attempt to get a response. -/
def receiveOnce : BusM σ Frame.Reply := do
  let length ← Bus.read c
  match Frame.parseResponse ((← get).frame.take length) with
  | .error cause => throw (.frame cause)
  | .ok reply => return reply

/-- What follows the attempts may as well be part of each if its failures are not failures
of the transport. -/
theorem perform_withRetries_bind {attempt : BusM σ α} {next : α → BusM σ β}
    (ends : ∀ a bus cause, (perform (next a) bus).1 ≠ .error (.transport cause))
    (retries : Nat) (bus : Bus σ) :
    perform (withRetries c attempt retries >>= next) bus =
      perform (withRetries c (attempt >>= next) retries) bus := by
  induction retries generalizing bus with
  | zero => rfl
  | succ retries ih =>
    rw [withRetries, withRetries, perform_bind, perform_tryCatch, perform_tryCatch, perform_bind]
    rcases perform attempt bus with ⟨e | a, after⟩
    · cases e with
      | transport cause =>
        have waits : perform (Bus.delay c.retryDelay) after = (.ok (), _) := rfl
        have retried : isRetried (.transport cause) = true := rfl
        dsimp only
        rw [if_pos retried, if_pos retried, perform_bind_ok waits, perform_bind_ok waits,
          ← perform_bind, ih]
      | _ => rfl
    · have unlike := ends a after
      dsimp only
      rcases ran : perform (next a) after with ⟨e | b, last⟩
      · rw [ran] at unlike
        cases e with
        | transport cause => exact absurd rfl (unlike cause)
        | _ => rfl
      · rfl

theorem perform_receive_eq (bus : Bus σ) :
    perform (receive c) bus =
      perform (withRetries c (receiveOnce c) c.transportRetries.toNat) bus := by
  refine perform_withRetries_bind c (fun length bus cause => ?_) _ bus
  rw [perform_bind_ok (perform_get bus)]
  cases Frame.parseResponse (bus.frame.take length) with
  | error cause => exact nofun
  | ok reply => exact nofun

theorem steady_receiveOnce :
    Steady (perform (receiveOnce (σ := Tapped σ) c)) []
      fun result _ calls => ReceiveRun c calls result := by
  refine .bind ((steady_read c).mono fun result known calls fetches => ?_)
  obtain ⟨run, count⟩ := fetches
  cases result with
  | error e => exact ⟨_, run, rfl⟩
  | ok length =>
    have parses : Steady (σ := σ)
        (fun bus => ((Frame.parseResponse known).mapError Error.frame, bus)) known
        fun result _ more => ReceiveRun c (calls ++ more) result := by
      refine .still ?_
      rw [List.append_nil]
      exact ⟨_, run, rfl⟩
    refine parses.congr fun before rest _ => ?_
    rw [perform_bind_ok (perform_get _)]
    dsimp only
    rw [List.take_left' (count length rfl)]
    cases Frame.parseResponse known <;> rfl

theorem steady_receive_trials :
    Steady (perform (receive (σ := Tapped σ) c)) [] fun result _ calls =>
      ∃ trials, Trials c (ReceiveRun c) c.transportRetries.toNat calls result trials :=
  (steady_trials c (steady_receiveOnce c) c.transportRetries.toNat).congr
    fun _ _ _ => perform_receive_eq c _

theorem ReceiveRun.opens_le {c : Config} {calls : List Heard} {result : Except Error Frame.Reply}
    (run : ReceiveRun c calls result) : opens calls ≤ c.readMaxTries.toNat := by
  obtain ⟨outcome, run, -⟩ := run
  exact run.opens_le

/-! ### Retries -/

variable {c}

omit [Transport σ] in
/-- What holds of a steady action holds of it on the bus of a link. -/
theorem hears_of_steady {act : BusM σ α} {tap : BusM (Tapped σ) α}
    {Post : List Heard → Except Error α → Prop}
    (steady : Steady (perform tap) [] fun result _ calls => Post calls result)
    (coupled : ∀ size, Between (fun _ transport tapped => tapped.transport = transport) size
      act tap) (before : Tapped σ) (frame : Octets Frame.maxLength) :
    ∃ calls, before.Hears act tap frame.val calls ∧
      Post calls (perform act ⟨before.transport, frame.val⟩).1 := by
  obtain ⟨result, after, known, calls, post, record, runs⟩ := steady before
  obtain ⟨rest, -, ran⟩ := runs frame.val frame.property
  rw [List.nil_append] at ran
  have hears : before.Hears act tap frame.val calls :=
    .of_between (coupled _) (by rw [ran]; exact record)
  have same := congrArg Prod.fst hears
  rw [ran] at same
  dsimp only at same
  exact ⟨calls, hears, same ▸ post⟩

omit [Transport σ] in
/-- A steady action on the bus of a link comes to the same whatever the buffer holds. -/
theorem perform_of_steady {act : BusM σ α} {tap : BusM (Tapped σ) α}
    {Post : Except Error α → Bytes → List Heard → Prop} (steady : Steady (perform tap) [] Post)
    (coupled : ∀ size, Between (fun _ transport tapped => tapped.transport = transport) size
      act tap) (transport : σ) :
    ∃ result after, ∀ frame : Octets Frame.maxLength, ∃ frame' : Octets Frame.maxLength,
      perform act ⟨transport, frame.val⟩ = (result, ⟨after, frame'.val⟩) := by
  obtain ⟨result, after, known, calls, -, -, runs⟩ := steady ⟨transport, []⟩
  refine ⟨result, after.transport, fun frame => ?_⟩
  obtain ⟨rest, whole, ran⟩ := runs frame.val frame.property
  have begun : Alike (fun _ transport (tapped : Tapped σ) => tapped.transport = transport)
      frame.val.length .outside ⟨transport, frame.val⟩ ⟨⟨transport, []⟩, frame.val⟩ :=
    .of_related rfl frame.val
  obtain ⟨same, alike⟩ := ((coupled _).perform begun).same
  rw [List.nil_append] at ran
  rw [ran] at same alike
  obtain ⟨frames, -, transports⟩ := alike
  exact ⟨⟨known ++ rest, whole⟩, Prod.ext same (congrArg₂ Bus.mk transports.symm frames)⟩

/-- A response is received as into the buffer of a new link, whatever the buffer holds. -/
theorem perform_receive_of_start (c : Config) (transport : σ) (frame : Octets Frame.maxLength) :
    ∃ frame' : Octets Frame.maxLength, perform (receive c) ⟨transport, frame.val⟩ =
      ((perform (receive c) (start transport)).1,
        ⟨(perform (receive c) (start transport)).2.transport, frame'.val⟩) := by
  obtain ⟨result, after, receives⟩ := perform_of_steady (steady_receive_trials c)
    (fun _ => coupled_receive Tapped.coupled_untapped.toCoupled c) transport
  obtain ⟨frame₀, begun⟩ := receives ⟨(start transport).frame, List.length_replicate⟩
  have begun : perform (receive c) (start transport) = _ := begun
  rw [begun]
  exact receives frame

/-- Whatever a transport does, sending a request and reading a response are attempts that
are repeated exactly if one failed in the transport and a repetition is left; the last
one decides, and what is opened of windows is bounded by the attempts. -/
theorem retries_exact (c : Config) (before : Tapped σ) (frame : Octets Frame.maxLength)
    (id : UInt8) (data : Bytes) :
    (∃ calls trials, before.Hears (send c id data) (send c id data) frame.val calls ∧
      Trials c (SendRun c id data) c.transportRetries.toNat calls
        (perform (send c id data) ⟨before.transport, frame.val⟩).1 trials ∧
      opens calls ≤ c.transportRetries.toNat + 1) ∧
    ∃ calls trials, before.Hears (receive c) (receive c) frame.val calls ∧
      Trials c (ReceiveRun c) c.transportRetries.toNat calls
        (perform (receive c) ⟨before.transport, frame.val⟩).1 trials ∧
      opens calls ≤ (c.transportRetries.toNat + 1) * c.readMaxTries.toNat := by
  have untapped := (Tapped.coupled_untapped (σ := σ)).toCoupled
  constructor
  · have sends := steady_trials (σ := σ) c (steady_sendOnce c id data) c.transportRetries.toNat
    obtain ⟨calls, hears, trials, all⟩ :=
      hears_of_steady sends (fun _ => coupled_send untapped c id data) before frame
    refine ⟨calls, trials, hears, all, ?_⟩
    have bound := all.opens_le fun _ _ run => run.opens_le
    rwa [Nat.mul_one] at bound
  · obtain ⟨calls, hears, trials, all⟩ :=
      hears_of_steady (steady_receive_trials c) (fun _ => coupled_receive untapped c) before frame
    exact ⟨calls, trials, hears, all, all.opens_le fun _ _ run => run.opens_le⟩

end Link

end SecureElement
