import SecureElement.Proofs.Reassembly
import SecureElement.Proofs.Trials

/-!
What the chip sees of the frame buffer.

The frame buffer holds requests, pieces of encrypted packets and responses in turn,
and every transfer sends out a part of it. Yet a window of a write carries the frame
of its request, in every attempt, and a window of a read carries the response request
and zeros (`WriteWindow`, `ReadWindow`). So nothing that was left in the buffer shows
on the wire or in a result (`Link.Operation.exposes_requests`).
-/

namespace SecureElement

/-! ### Windows -/

/-- The window of a write, as far as it gets. -/
inductive WriteWindow (c : Config) (frame : Bytes) : List Heard → Prop
  | refused (cause : TransportError) : WriteWindow c frame [.silent .select (.error cause)]
  | sent (result : Except TransportError Unit) (incoming : Bytes)
      (closing : Except TransportError Unit) :
      WriteWindow c frame [.silent .select (.ok ()),
        ⟨.transfer 0 c.transferTimeout frame, result, incoming⟩, .silent .deselect closing]

/-- The window of a read, as far as it gets: to the chip status, to the header, or to the
rest of the frame, whose length is that of the header. -/
inductive ReadWindow (c : Config) : List Heard → Prop
  | refused (cause : TransportError) : ReadWindow c [.silent .select (.error cause)]
  | status (result : Except TransportError Unit) (status : Bytes)
      (closing : Except TransportError Unit) :
      ReadWindow c [.silent .select (.ok ()),
        ⟨.transfer 0 c.transferTimeout [Bus.responseRequest], result, status⟩,
        .silent .deselect closing]
  | header (status : UInt8) (result : Except TransportError Unit) (header : Bytes)
      (closing : Except TransportError Unit) :
      ReadWindow c [.silent .select (.ok ()),
        ⟨.transfer 0 c.transferTimeout [Bus.responseRequest], .ok (), [status]⟩,
        ⟨.transfer 1 c.transferTimeout [0, 0], result, header⟩, .silent .deselect closing]
  | frame (status length code : UInt8) (result : Except TransportError Unit) (rest : Bytes)
      (closing : Except TransportError Unit) :
      ReadWindow c [.silent .select (.ok ()),
        ⟨.transfer 0 c.transferTimeout [Bus.responseRequest], .ok (), [status]⟩,
        ⟨.transfer 1 c.transferTimeout [0, 0], .ok (), [length, code]⟩,
        ⟨.transfer 3 c.transferTimeout (List.replicate (length.toNat + 2) 0), result, rest⟩,
        .silent .deselect closing]

/-- The bytes that came in, in order. -/
def clockedIn (calls : List Heard) : Bytes := calls.flatMap Heard.incoming

/-- Calls that are made of windows and of calls apart from windows. -/
def Made (Window : List Heard → Prop) (calls : List Heard) : Prop :=
  ∃ parts : List (List Heard), parts.flatten = calls ∧
    ∀ part ∈ parts, Window part ∨ ∃ heard : Heard, heard.call.Apart ∧ part = [heard]

/-- Calls that are made of windows, and the last of them have a property that may depend on
the outcome. -/
def Ended {β : Type} (Window : List Heard → Prop) (Last : β → Bytes → List Heard → Prop)
    (result : β) (known : Bytes) (calls : List Heard) : Prop :=
  ∃ earlier last, Made Window earlier ∧ Made Window last ∧ Last result known last ∧
    earlier ++ last = calls

section

variable {Window Other : List Heard → Prop} {calls more : List Heard}

theorem Made.nil : Made Window [] := ⟨[], rfl, nofun⟩

theorem Made.window (window : Window calls) : Made Window calls :=
  ⟨[calls], List.flatten_singleton, List.forall_mem_singleton.mpr (.inl window)⟩

theorem Made.apart {heard : Heard} (apart : heard.call.Apart) : Made Window [heard] :=
  ⟨[[heard]], rfl, List.forall_mem_singleton.mpr (.inr ⟨heard, apart, rfl⟩)⟩

theorem Made.append (first : Made Window calls) (second : Made Window more) :
    Made Window (calls ++ more) := by
  obtain ⟨parts, rfl, each⟩ := first
  obtain ⟨parts', rfl, each'⟩ := second
  exact ⟨parts ++ parts', List.flatten_append, List.forall_mem_append.mpr ⟨each, each'⟩⟩

theorem Made.mono (made : Made Window calls) (weaker : ∀ window, Window window → Other window) :
    Made Other calls := by
  obtain ⟨parts, rfl, each⟩ := made
  exact ⟨parts, rfl, fun part member => (each part member).imp_left (weaker part)⟩

variable {β : Type} {Last : β → Bytes → List Heard → Prop} {result : β} {known : Bytes}

theorem Ended.last (made : Made Window calls) (last : Last result known calls) :
    Ended Window Last result known calls :=
  ⟨[], calls, .nil, made, last, rfl⟩

theorem Ended.made (ended : Ended Window Last result known calls) : Made Window calls := by
  obtain ⟨earlier, last, made, made', -, rfl⟩ := ended
  exact made.append made'

theorem Ended.behind (first : Made Window calls) (ended : Ended Window Last result known more) :
    Ended Window Last result known (calls ++ more) := by
  obtain ⟨earlier, last, made, made', held, rfl⟩ := ended
  exact ⟨calls ++ earlier, last, first.append made, made', held, List.append_assoc ..⟩

end

/-! ### Windows on the bus -/

namespace Bus

variable {c : Config} {calls : List Heard}

theorem PollRun.window {outcome : Except Error (Option Bytes)} (run : PollRun c calls outcome) :
    ReadWindow c calls := by
  cases run with
  | refused cause => exact .refused cause
  | unasked cause incoming closing => exact .status ..
  | alarm _ closing => exact .status ..
  | startup _ _ closing => exact .status ..
  | busy _ closing => exact .status ..
  | headless _ cause incoming closing => exact .header ..
  | long _ _ code closing => exact .header ..
  | cut _ _ code cause incoming closing => exact .frame ..
  | frame _ _ code _ closing => exact .frame ..

/-- The bytes of a frame are those that came in. -/
theorem PollRun.bytes {outcome : Except Error (Option Bytes)} (run : PollRun c calls outcome)
    {bytes : Bytes} (found : outcome = .ok (some bytes)) : bytes = clockedIn calls := by
  obtain ⟨status, length, code, rest, rfl, -, -, rfl⟩ := run.found found
  simp [clockedIn, Heard.silent]

/-- What a read leaves when it succeeds: the bytes of the last window. -/
def LastRead (c : Config) (outcome : Except Error Bytes) (window : List Heard) : Prop :=
  ∀ bytes, outcome = .ok bytes → ReadWindow c window ∧ bytes = clockedIn window

/-- A read is made of windows, and what it returns is from the last. -/
theorem ReadRun.ended {tries : Nat} {outcome : Except Error Bytes}
    (run : ReadRun c tries calls outcome) (known : Bytes) :
    Ended (ReadWindow c) (fun outcome _ => LastRead c outcome) outcome known calls := by
  induction run with
  | exhausted => exact .last .nil nofun
  | failed polled => exact .last (.window polled.window) nofun
  | found polled =>
    refine .last (.window polled.window) ?_
    rintro _ ⟨⟩
    exact ⟨polled.window, polled.bytes rfl⟩
  | busy polled rest ih =>
    have wait : Made (ReadWindow c) [.waited c.readRetryDelay] := .apart trivial
    exact .behind (.window polled.window) (.behind wait ih)

theorem WriteRun.made {frame : Bytes} {result : Except Error Unit}
    (run : WriteRun c frame calls result) : Made (WriteWindow c frame) calls := by
  cases run with
  | refused cause => exact .window (.refused cause)
  | broken cause incoming closing => exact .window (.sent ..)
  | unclosed incoming cause => exact .window (.sent ..)
  | sent incoming =>
    have window : Made (WriteWindow c frame) _ := .window (.sent (.ok ()) incoming (.ok ()))
    unfold turnaround
    split
    · exact window.append (.apart trivial)
    · exact window

end Bus

/-! ### The link -/

namespace Link

open Bus

variable {σ α β : Type} [Transport σ] (c : Config)

/-- Attempts follow each other, and the last one decides. -/
theorem Trials.ended {Window : List Heard → Prop}
    {Last : Except Error α → Bytes → List Heard → Prop} {c : Config}
    {Once : List Heard → Except Error α → Prop} {retries : Nat} {calls : List Heard}
    {result : Except Error α} {trials : List (Trial α)}
    (all : Trials c Once retries calls result trials) (known : Bytes)
    (each : ∀ calls result, Once calls result → Ended Window Last result known calls) :
    Ended Window Last result known calls := by
  obtain ⟨once, -, last, rfl⟩ := all
  induction trials with
  | nil => cases last
  | cons trial rest ih =>
    obtain ⟨first, others⟩ := List.forall_mem_cons.mp once
    have ended := each _ _ first
    cases rest with
    | nil =>
      cases last
      simpa using ended
    | cons next rest =>
      have further : Made Window (trial.calls ++ [.waited c.retryDelay]) :=
        ended.made.append (.apart trivial)
      have behind := Ended.behind further (ih others last)
      simpa [List.intercalate_cons_cons] using behind

theorem steady_send (id : UInt8) (data : Bytes) :
    Steady (perform (send (σ := Tapped σ) c id data)) []
      fun _ _ calls => Made (WriteWindow c (Frame.encode id data)) calls := by
  refine (steady_trials c (steady_sendOnce c id data) _).mono fun result known calls all => ?_
  obtain ⟨trials, all⟩ := all
  have ended : Ended (WriteWindow c (Frame.encode id data)) (fun _ _ _ => True) result known calls := by
    refine all.ended known fun calls result run => ?_
    cases run with
    | long _ => exact .last .nil trivial
    | written _ run => exact .last run.made trivial
  exact ended.made

theorem ReceiveRun.ended {c : Config} {calls : List Heard} {result : Except Error Frame.Reply}
    (run : ReceiveRun c calls result) (known : Bytes) :
    Ended (ReadWindow c) (fun result _ window => ∀ reply, result = .ok reply →
      ReadWindow c window ∧ Frame.parseResponse (clockedIn window) = .ok reply) result known
      calls := by
  obtain ⟨outcome, run, rfl⟩ := run
  obtain ⟨earlier, window, made, made', read, rfl⟩ := run.ended known
  refine ⟨earlier, window, made, made', fun reply replied => ?_, rfl⟩
  cases outcome with
  | error e => cases replied
  | ok bytes =>
    obtain ⟨reads, rfl⟩ := read bytes rfl
    refine ⟨reads, ?_⟩
    change (Frame.parseResponse (clockedIn window)).mapError Error.frame = _ at replied
    cases parsed : Frame.parseResponse (clockedIn window) with
    | error cause =>
      rw [parsed] at replied
      cases replied
    | ok other =>
      rw [parsed] at replied
      cases replied
      rfl

/-- A reply is read from the bytes of the last window. -/
theorem steady_receive :
    Steady (perform (receive (σ := Tapped σ) c)) [] (Ended (ReadWindow c)
      fun result _ window => ∀ reply, result = .ok reply →
        ReadWindow c window ∧ Frame.parseResponse (clockedIn window) = .ok reply) := by
  refine (steady_receive_trials c).mono fun result known calls all => ?_
  obtain ⟨trials, all⟩ := all
  exact all.ended known fun calls result run => run.ended known

/-- The action is steady, and the calls are made of such windows. -/
abbrev Makes (Window : List Heard → Prop) (act : BusM (Tapped σ) α) : Prop :=
  Steady (perform act) [] fun _ _ calls => Made Window calls

variable {c} {Window : List Heard → Prop}

omit [Transport σ] in
theorem Makes.bind {act : BusM (Tapped σ) α} {next : α → BusM (Tapped σ) β}
    (first : Makes Window act) (rest : ∀ a, Makes Window (next a)) :
    Makes Window (act >>= next) := by
  refine Steady.bind (Steady.mono first fun result known calls made => ?_)
  cases result with
  | ok a => exact (Steady.mono (rest a) fun _ _ _ made' => made.append made').forget
  | error e => exact made

/-- A request, its answer, and a look at the status. -/
theorem makes_turn (reads : ∀ window, ReadWindow c window → Window window) (id : UInt8)
    (data : Bytes)
    (writes : ∀ window, WriteWindow c (Frame.encode id data) window → Window window)
    (expected : Status) : Makes Window (turn (σ := Tapped σ) c id data expected) := by
  refine .bind (Steady.mono (steady_send c id data) fun _ _ _ made => made.mono writes) fun _ => ?_
  refine .bind (Steady.mono (steady_receive c) fun _ _ _ ended => ended.made.mono reads)
    fun reply => ?_
  refine .bind ?_ fun _ => .pure .nil
  exact Steady.ite (fun _ => .pure .nil) fun _ => .throw .nil

theorem makes_transceive (reads : ∀ window, ReadWindow c window → Window window) (id : UInt8)
    (data : Bytes)
    (writes : ∀ window, WriteWindow c (Frame.encode id data) window → Window window) :
    Makes Window (transceive (σ := Tapped σ) c id data) :=
  makes_turn reads id data writes .requestOk

theorem makes_request (reads : ∀ window, ReadWindow c window → Window window) (id : UInt8)
    (data : Bytes)
    (writes : ∀ window, WriteWindow c (Frame.encode id data) window → Window window) :
    Makes Window (transceive (σ := Tapped σ) c id data >>= fun _ => pure ()) :=
  .bind (makes_transceive reads id data writes) fun _ => .pure .nil

theorem makes_sendChunks (reads : ∀ window, ReadWindow c window → Window window)
    {chunks : List Bytes}
    (writes : ∀ chunk ∈ chunks, ∀ window,
      WriteWindow c (Frame.encode RequestId.encryptedCommand chunk) window → Window window) :
    Makes Window (sendChunks (σ := Tapped σ) c chunks) := by
  induction chunks with
  | nil => exact .pure .nil
  | cons chunk rest ih =>
    rw [sendChunks_cons]
    exact .bind (makes_turn reads _ chunk (writes chunk List.mem_cons_self) _) fun _ =>
      ih fun other member => writes other (List.mem_cons_of_mem chunk member)

theorem steady_collect (frames : Nat) (out : Bytes) (length : Nat) :
    Steady (collect (σ := Tapped σ) c frames out length).run []
      fun _ _ calls => Made (ReadWindow c) calls := by
  induction frames generalizing out length with
  | zero => exact .still .nil
  | succ frames ih =>
    refine .chain ((steady_receive c).mono fun result known calls ended => ?_)
    have still (outcome : Except Error Nat × Bytes) :
        Steady (σ := σ) (fun after => (some outcome, after)) known
          fun _ _ more => Made (ReadWindow c) (calls ++ more) :=
      .still (by rw [List.append_nil]; exact ended.made)
    cases result with
    | error e => exact ⟨_, fun bus after ran => by rw [run_collect, ran], still (.error e, out)⟩
    | ok reply =>
      by_cases result : reply.status = .resultCont ∨ reply.status = .resultOk
      case neg =>
        refine ⟨_, fun bus after ran => ?_, still (.error (.protocol (.status reply.status)), out)⟩
        rw [run_collect, ran]
        exact if_neg result
      by_cases long : out.length < length + reply.data.length
      case pos =>
        refine ⟨_, fun bus after ran => ?_,
          still (.error (.capacity (length + reply.data.length) out.length), out)⟩
        rw [run_collect, ran]
        exact (if_pos result).trans (if_pos long)
      by_cases last : reply.status = .resultOk
      case pos =>
        refine ⟨_, fun bus after ran => ?_,
          still (.ok (length + reply.data.length), out.overlay length reply.data)⟩
        rw [run_collect, ran]
        exact (if_pos result).trans ((if_neg long).trans (if_pos last))
      case neg =>
        have rest := ih (out.overlay length reply.data) (length + reply.data.length)
        refine ⟨_, fun bus after ran => ?_, .forget (rest.mono fun _ _ _ made =>
          ended.made.append made)⟩
        rw [run_collect, ran]
        exact (if_pos result).trans ((if_neg long).trans (if_neg last))

/-! ### Operations -/

namespace Operation

/-- The requests that an operation may send. -/
def requests : Operation → List Frame.Request
  | send id data => [⟨id, data⟩]
  | receive => []
  | transceive id data => [⟨id, data⟩]
  | getInfo object block => [⟨RequestId.getInfo, [object, block]⟩]
  | handshake ephemeral slot => [⟨RequestId.handshake, ephemeral.val ++ [slot]⟩]
  | sendEncrypted packet => (Frame.chunks packet).map (⟨RequestId.encryptedCommand, ·⟩)
  | receiveEncrypted .. => []
  | sessionAbort => [⟨RequestId.sessionAbort, []⟩]
  | sleep kind => [⟨RequestId.sleep, [kind.byte]⟩]
  | startup kind => [⟨RequestId.startup, [kind.byte]⟩]
  | random _ => []

/-- Whether an operation reads responses. -/
def Receives : Operation → Prop
  | send .. | random _ => False
  | _ => True

/-- The windows of an operation: those that carry one of its requests, and those that read
responses. -/
def Windows (c : Config) (operation : Operation) (window : List Heard) : Prop :=
  (∃ request ∈ operation.requests,
    WriteWindow c (Frame.encode request.id request.data) window) ∨
    operation.Receives ∧ ReadWindow c window

theorem Windows.request {operation : Operation} {id : UInt8} {data : Bytes}
    (member : ⟨id, data⟩ ∈ operation.requests) (window : List Heard)
    (writes : WriteWindow c (Frame.encode id data) window) : operation.Windows c window :=
  .inl ⟨⟨id, data⟩, member, writes⟩

theorem Windows.response (operation : Operation) (receives : operation.Receives)
    (window : List Heard) (reads : ReadWindow c window) : operation.Windows c window :=
  .inr ⟨receives, reads⟩

/-- An operation is steady, and its windows carry its requests or read responses. -/
theorem steady_run (operation : Operation) :
    Steady (operation.run (σ := Tapped σ) c) [] fun _ _ calls =>
      Made (operation.Windows c) calls := by
  cases operation with
  | send id data =>
    exact (steady_send c id data).mono fun _ _ _ made =>
      made.mono (Windows.request (List.mem_singleton_self _))
  | receive =>
    exact (steady_receive c).mono fun _ _ _ ended => ended.made.mono (Windows.response _ trivial)
  | transceive id data =>
    exact makes_transceive (Windows.response (.transceive id data) trivial) id data
      (Windows.request (List.mem_singleton_self _))
  | getInfo object block =>
    exact makes_transceive (Windows.response (.getInfo object block) trivial) _ _
      (Windows.request (List.mem_singleton_self _))
  | handshake ephemeral slot =>
    exact makes_transceive (Windows.response (.handshake ephemeral slot) trivial) _ _
      (Windows.request (List.mem_singleton_self _))
  | sendEncrypted packet =>
    exact makes_sendChunks (Windows.response (.sendEncrypted packet) trivial) fun chunk member =>
      Windows.request (List.mem_map_of_mem member)
  | receiveEncrypted frames out =>
    exact (steady_collect frames out 0).mono fun _ _ _ made =>
      made.mono (Windows.response _ trivial)
  | sessionAbort =>
    exact makes_request (Windows.response .sessionAbort trivial) _ _
      (Windows.request (List.mem_singleton_self _))
  | sleep kind =>
    exact makes_request (Windows.response (.sleep kind) trivial) _ _
      (Windows.request (List.mem_singleton_self _))
  | startup kind =>
    exact makes_request (Windows.response (.startup kind) trivial) _ _
      (Windows.request (List.mem_singleton_self _))
  | random count =>
    exact steady_lift (.random count) (Transport.random count) fun _ => .apart trivial

/-- What is seen of the frame buffer on the bus. A transport can be tapped without an
effect. Whatever an operation finds in the buffer and however its calls go, each window
sends out the frame of one of its requests, or the response request and zeros; with
another buffer the same is heard, and the operation returns the same; and a reply is read
from the bytes that came in in the last window. -/
theorem exposes_requests (operation : Operation) (c : Config) (before : Tapped σ)
    (frame : Octets Frame.maxLength) :
    ((operation.run c ⟨before, frame.val⟩).1 = (operation.run c ⟨before.transport, frame.val⟩).1 ∧
      (operation.run c ⟨before, frame.val⟩).2.transport.transport =
        (operation.run c ⟨before.transport, frame.val⟩).2.transport) ∧
    (∃ calls, (operation.run c ⟨before, frame.val⟩).2.transport.record = before.record ++ calls ∧
      Made (operation.Windows c) calls) ∧
    (∀ other : Octets Frame.maxLength,
      (operation.run c ⟨before, other.val⟩).1 = (operation.run c ⟨before, frame.val⟩).1 ∧
        (operation.run c ⟨before, other.val⟩).2.transport =
          (operation.run c ⟨before, frame.val⟩).2.transport) ∧
    ∀ reply, (perform (Link.receive c) ⟨before, frame.val⟩).1 = .ok reply →
      ∃ earlier window, (perform (Link.receive c) ⟨before, frame.val⟩).2.transport.record =
          before.record ++ earlier ++ window ∧
        ReadWindow c window ∧ Frame.parseResponse (clockedIn window) = .ok reply := by
  obtain ⟨result, after, known, calls, made, heard, runs⟩ := operation.steady_run (c := c) before
  refine ⟨?_, ⟨calls, ?_, made⟩, fun other => ?_, fun reply replied => ?_⟩
  · obtain ⟨same, alike⟩ := run_alike Tapped.coupled_untapped.toCoupled c operation
      (show Bus.Alike _ _ _ _ ⟨before, frame.val⟩ from .of_related rfl frame.val)
    exact ⟨same.symm, alike.transport⟩
  · obtain ⟨_, -, ran⟩ := runs frame.val frame.property
    rw [List.nil_append] at ran
    rw [ran]
    exact heard
  · obtain ⟨_, -, ran⟩ := runs frame.val frame.property
    obtain ⟨_, -, ran'⟩ := runs other.val other.property
    rw [List.nil_append] at ran ran'
    rw [ran, ran']
    exact ⟨rfl, rfl⟩
  · obtain ⟨_, after, _, _, ⟨earlier, window, -, -, read, rfl⟩, heard, runs⟩ :=
      steady_receive c before
    obtain ⟨_, -, ran⟩ := runs frame.val frame.property
    rw [List.nil_append] at ran
    rw [ran] at replied ⊢
    refine ⟨earlier, window, ?_, read reply replied⟩
    rw [List.append_assoc]
    exact heard

/-- A chip that has one response to give, on a tap that has heard nothing. -/
def oneReply : Tapped Script where
  transport := {
    current := .plain []
    windows := [.plain (Bus.readyBit :: Frame.encode Status.requestOk.byte [0x42])]
    random := []
    entropy := .strong
    init := none
    release := none }
  record := []

/-- The response is read from its window, and nothing of a buffer full of other bytes is. -/
theorem oneReply_exposed :
    let used : Octets Frame.maxLength := Octets.replicate _ 0xFF
    ∃ heard earlier window, perform (Link.receive {}) ⟨oneReply, used.val⟩ =
        (.ok ⟨.requestOk, [0x42]⟩, heard) ∧
      heard.transport.record = [] ++ earlier ++ window ∧ ReadWindow {} window ∧
      Frame.parseResponse (clockedIn window) = .ok ⟨.requestOk, [0x42]⟩ := by
  intro used
  have replies : (perform (Link.receive {}) ⟨oneReply, used.val⟩).1.toOption =
      some ⟨.requestOk, [0x42]⟩ := by decide +kernel
  have exposed := (exposes_requests .receive {} oneReply used).2.2.2
  generalize perform (Link.receive {}) ⟨oneReply, used.val⟩ = received at replies exposed ⊢
  obtain ⟨e | reply, heard⟩ := received
  · cases replies
  · cases replies
    obtain ⟨earlier, window, record, reads, parsed⟩ := exposed _ rfl
    exact ⟨heard, earlier, window, rfl, record, reads, parsed⟩

end Operation

end Link

end SecureElement
