import SecureElement.Proofs.Discipline

/-!
What is heard on a transport, whatever the frame buffer holds.

A tap records the calls of a transport with the bytes that go out and come in
(`Tapped`); it changes nothing (`Tapped.coupled_untapped`). An action on the bus is
steady if what is heard and what it results in depend on the bytes that are known to
stand in front of the buffer, and on no others (`Steady`). The steps of the bus have
one law each, and steady actions are put together by what is known between them.
-/

namespace SecureElement

/-! ### Taps -/

/-- A call to a transport, how it went and, if it exchanged bytes, what they are
afterwards. -/
structure Heard where
  call : Call
  result : Except TransportError Unit
  incoming : Bytes

/-- A call that exchanges no bytes. -/
def Heard.silent (call : Call) (result : Except TransportError Unit) : Heard :=
  ⟨call, result, []⟩

/-- A transport and what was heard on it, the latest last. -/
structure Tapped (σ : Type) where
  transport : σ
  record : List Heard

namespace Tapped

variable {σ α : Type}

/-- Enters what was heard. -/
def enter (tapped : Tapped σ) (heard : Heard) (transport : σ) : Tapped σ :=
  ⟨transport, tapped.record ++ [heard]⟩

/-- Passes a call on and enters it. -/
def tap (call : Call) (act : ExceptT TransportError (StateM σ) α) :
    ExceptT TransportError (StateM (Tapped σ)) α :=
  ExceptT.mk fun tapped =>
    let (result, transport) := act.run.run tapped.transport
    (result, tapped.enter (.silent call (result.map fun _ => ())) transport)

instance [Transport σ] : Transport (Tapped σ) where
  init := tap .init Transport.init
  release := tap .release Transport.release
  select := tap .select Transport.select
  deselect := tap .deselect Transport.deselect
  exchange offset region timeout := fun tapped =>
    let ((result, incoming), transport) :=
      Transport.exchange offset region timeout tapped.transport
    ((result, incoming),
      tapped.enter ⟨.transfer offset timeout region, result, incoming⟩ transport)
  delay duration := fun tapped =>
    let transport := (Transport.delay duration tapped.transport).2
    ((), tapped.enter (.silent (.delay duration) (.ok ())) transport)
  random count := tap (.random count) (Transport.random count)
  entropy tapped := Transport.entropy tapped.transport
  length_exchange offset region timeout tapped :=
    Transport.length_exchange offset region timeout tapped.transport

theorem coupled_tap (call : Call) (act : ExceptT TransportError (StateM σ) α) :
    Coupled (fun transport tapped => tapped.transport = transport)
      (fun transport tapped => tapped.transport = transport)
      (fun transport tapped => tapped.transport = transport) act (tap call act) := by
  rintro _ tapped rfl
  refine ⟨rfl, ?_⟩
  split <;> rfl

/-- A transport behaves the same whether it is tapped or not. -/
theorem coupled_untapped [Transport σ] :
    Transport.FullyCoupled fun _ (transport : σ) (tapped : Tapped σ) =>
      tapped.transport = transport where
  init := coupled_tap _ _
  release := coupled_tap _ _
  select := coupled_tap _ _
  exchange _ _ _ _ := by
    rintro _ tapped rfl
    exact ⟨rfl, rfl⟩
  deselect _ := coupled_tap _ _
  delay _ := by
    rintro _ tapped rfl
    rfl
  random _ := coupled_tap _ _
  entropy := by
    rintro _ tapped rfl
    rfl

end Tapped

/-! ### Steady runs -/

section

variable {σ α β : Type}

/-- Where `known` stands in front of the buffer, what the run results in, what is heard,
and what then stands in front of the buffer do not depend on what stands behind it; and
`Post` holds of these. -/
def Steady (run : Bus (Tapped σ) → β × Bus (Tapped σ)) (known : Bytes)
    (Post : β → Bytes → List Heard → Prop) : Prop :=
  ∀ before : Tapped σ, ∃ result after known' calls, Post result known' calls ∧
    after.record = before.record ++ calls ∧
    ∀ rest, (known ++ rest).length = Frame.maxLength →
      ∃ rest', (known' ++ rest').length = Frame.maxLength ∧
        run ⟨before, known ++ rest⟩ = (result, ⟨after, known' ++ rest'⟩)

namespace Steady

variable {run other : Bus (Tapped σ) → β × Bus (Tapped σ)} {known : Bytes}
  {Post Post' : β → Bytes → List Heard → Prop}

theorem mono (steady : Steady run known Post)
    (weaker : ∀ result known' calls, Post result known' calls → Post' result known' calls) :
    Steady run known Post' := by
  intro before
  obtain ⟨result, after, known', calls, post, heard, runs⟩ := steady before
  exact ⟨result, after, known', calls, weaker _ _ _ post, heard, runs⟩

/-- What is known need not be used. -/
theorem forget (steady : Steady run [] Post) : Steady run known Post := by
  intro before
  obtain ⟨result, after, known', calls, post, heard, runs⟩ := steady before
  exact ⟨result, after, known', calls, post, heard, fun rest => runs (known ++ rest)⟩

theorem congr (steady : Steady other known Post)
    (same : ∀ before rest, (known ++ rest).length = Frame.maxLength →
      run ⟨before, known ++ rest⟩ = other ⟨before, known ++ rest⟩) : Steady run known Post := by
  intro before
  obtain ⟨result, after, known', calls, post, heard, runs⟩ := steady before
  refine ⟨result, after, known', calls, post, heard, fun rest length => ?_⟩
  rw [same before rest length]
  exact runs rest length

theorem still {result : β} (post : Post result known []) :
    Steady (σ := σ) (fun bus => (result, bus)) known Post :=
  fun before => ⟨result, before, known, [], post, (List.append_nil _).symm,
    fun rest length => ⟨rest, length, rfl⟩⟩

/-- A run that begins as another, and goes on from where that ends. -/
theorem chain {first : Bus (Tapped σ) → α × Bus (Tapped σ)}
    (steady : Steady first known fun a known' calls => ∃ next,
      (∀ bus after, first bus = (a, after) → run bus = next after) ∧
        Steady next known' fun result known'' more => Post result known'' (calls ++ more)) :
    Steady run known Post := by
  intro before
  obtain ⟨a, between, known', calls, ⟨next, goesOn, following⟩, heard, runs⟩ := steady before
  obtain ⟨result, after, known'', more, post, heard', runs'⟩ := following between
  refine ⟨result, after, known'', calls ++ more, post, ?_, fun rest length => ?_⟩
  · rw [heard', heard, List.append_assoc]
  · obtain ⟨rest', length', ran⟩ := runs rest length
    obtain ⟨rest'', length'', ran'⟩ := runs' rest' length'
    exact ⟨rest'', length'', (goesOn _ _ ran).trans ran'⟩

end Steady

/-! ### Steady actions -/

namespace Steady

variable {known : Bytes} {Post : Except Error β → Bytes → List Heard → Prop}

theorem pure {b : β} (post : Post (.ok b) known []) :
    Steady (perform (pure b : BusM (Tapped σ) β)) known Post := .still post

theorem throw {e : Error} (post : Post (.error e) known []) :
    Steady (perform (throw e : BusM (Tapped σ) β)) known Post := .still post

theorem bind {act : BusM (Tapped σ) α} {next : α → BusM (Tapped σ) β}
    (steady : Steady (perform act) known fun result known' calls => match result with
      | .ok a => Steady (perform (next a)) known' fun result known'' more =>
        Post result known'' (calls ++ more)
      | .error e => Post (.error e) known' calls) :
    Steady (perform (act >>= next)) known Post := by
  refine .chain (steady.mono fun result known' calls following => ?_)
  cases result with
  | ok a => exact ⟨perform (next a), fun _ _ ran => perform_bind_ok ran, following⟩
  | error e =>
    refine ⟨fun after => (.error e, after), fun _ _ ran => perform_bind_error ran, .still ?_⟩
    rw [List.append_nil]
    exact following

theorem tryCatch {act : BusM (Tapped σ) β} {handler : Error → BusM (Tapped σ) β}
    (steady : Steady (perform act) known fun result known' calls => match result with
      | .ok b => Post (.ok b) known' calls
      | .error e => Steady (perform (handler e)) known' fun result known'' more =>
        Post result known'' (calls ++ more)) :
    Steady (perform (tryCatch act handler)) known Post := by
  refine .chain (steady.mono fun result known' calls following => ?_)
  cases result with
  | ok b =>
    refine ⟨fun after => (.ok b, after), fun _ _ ran => by rw [perform_tryCatch, ran], .still ?_⟩
    rw [List.append_nil]
    exact following
  | error e => exact ⟨perform (handler e), fun _ _ ran => by rw [perform_tryCatch, ran], following⟩

theorem ite {p : Prop} [Decidable p] {left right : BusM (Tapped σ) β}
    (first : p → Steady (perform left) known Post)
    (second : ¬p → Steady (perform right) known Post) :
    Steady (perform (if p then left else right)) known Post := by
  split
  · exact first ‹_›
  · exact second ‹_›

/-- What is done after a look at the buffer may depend on what is known of it. -/
theorem look (act : BusM (Tapped σ) β) {next : Bus (Tapped σ) → BusM (Tapped σ) β}
    (steady : Steady (perform act) known Post)
    (same : ∀ before rest, (known ++ rest).length = Frame.maxLength →
      perform (next ⟨before, known ++ rest⟩) ⟨before, known ++ rest⟩ =
        perform act ⟨before, known ++ rest⟩) :
    Steady (perform (get >>= next)) known Post := by
  refine steady.congr fun before rest length => ?_
  rw [perform_bind_ok (perform_get _)]
  exact same before rest length

end Steady

end

/-! ### Steps of the bus -/

namespace Bus

variable {σ α : Type} {known : Bytes}

/-- Bytes are written behind those that are known. -/
theorem steady_overlay {Post : Except Error Unit → Bytes → List Heard → Prop} {piece : Bytes}
    {offset : Nat} (behind : offset = known.length) (post : Post (.ok ()) (known ++ piece) [])
    (fits : offset + piece.length ≤ Frame.maxLength) :
    Steady (perform (modifyFrame (σ := Tapped σ) fun frame => frame.overlay offset piece)) known
      Post := by
  subst behind
  refine fun before => ⟨_, before, _, [], post, (List.append_nil _).symm, fun rest length => ?_⟩
  refine ⟨rest.drop piece.length, ?_, ?_⟩
  · rw [List.length_append] at length
    simp only [List.length_append, List.length_drop]
    omega
  · have written : (known ++ rest).overlay known.length piece =
        known ++ piece ++ rest.drop piece.length := by
      rw [Bytes.overlay, List.take_left, List.drop_length_add_append]
    change (Except.ok (), Bus.mk before ((known ++ rest).overlay known.length piece)) = _
    rw [written]

theorem steady_checkBounds {Post : Except Error Unit → Bytes → List Heard → Prop}
    {offset length : Nat} (inside : offset + length ≤ Frame.maxLength)
    (post : Post (.ok ()) known []) :
    Steady (perform (checkBounds (σ := Tapped σ) offset length)) known Post := by
  refine .look (Pure.pure ()) (.pure post) fun before rest whole => ?_
  have checked := Transport.checkBounds_eq_ok_iff.mpr ⟨inside, whole.symm ▸ inside⟩
  dsimp only
  rw [checked]

theorem steady_lift {Post : Except Error α → Bytes → List Heard → Prop} (call : Call)
    (act : ExceptT TransportError (StateM σ) α)
    (post : ∀ result : Except TransportError α, Post (result.mapError .transport) known
      [.silent call (result.map fun _ => ())]) :
    Steady (perform (lift (Tapped.tap call act))) known Post :=
  fun before => ⟨_, before.enter (.silent call _) (perform act before.transport).2, known, _,
    post (perform act before.transport).1, rfl, fun rest length => ⟨rest, length, rfl⟩⟩

variable [Transport σ]

theorem steady_delay {Post : Except Error Unit → Bytes → List Heard → Prop} (duration : UInt32)
    (post : Post (.ok ()) known [.silent (.delay duration) (.ok ())]) :
    Steady (perform (delay (σ := Tapped σ) duration)) known Post :=
  fun before => ⟨_, before.enter (.silent (.delay duration) (.ok ()))
    (Transport.delay duration before.transport).2, known, _, post, rfl,
    fun rest length => ⟨rest, length, rfl⟩⟩

theorem steady_abandon {Post : Except Error α → Bytes → List Heard → Prop} (e : Error)
    (post : ∀ closing, Post (.error e) known [.silent .deselect closing]) :
    Steady (perform (abandon (σ := Tapped σ) e : BusM (Tapped σ) α)) known Post := by
  refine .bind (.tryCatch (steady_lift .deselect Transport.deselect fun closing => ?_))
  cases closing with
  | ok _ => exact .throw (post (.ok ()))
  | error cause => exact .pure (.throw (post (.error cause)))

/-- The bytes that are known last are exchanged, or the window is closed. -/
theorem steady_transferOrClose {Post : Except Error Unit → Bytes → List Heard → Prop}
    (c : Config) (front region : Bytes) {offset length : Nat} (at_ : offset = front.length)
    (count : length = region.length) (fits : offset + length ≤ Frame.maxLength)
    (went : ∀ incoming : Bytes, incoming.length = region.length →
      Post (.ok ()) (front ++ incoming)
        [⟨.transfer offset c.transferTimeout region, .ok (), incoming⟩])
    (failed : ∀ cause incoming closing known, Post (.error (.transport cause)) known
      [⟨.transfer offset c.transferTimeout region, .error cause, incoming⟩,
        .silent .deselect closing]) :
    Steady (perform (transferOrClose (σ := Tapped σ) c offset length)) (front ++ region) Post := by
  subst at_ count
  -- The exchange alone, whether it fails or not.
  have exchanges {Post : Except Error Unit → Bytes → List Heard → Prop}
      (post : ∀ (result : Except TransportError Unit) (incoming : Bytes),
        incoming.length = region.length → Post (result.mapError .transport) (front ++ incoming)
          [⟨.transfer front.length c.transferTimeout region, result, incoming⟩]) :
      Steady (perform (transfer (σ := Tapped σ) c front.length region.length)) (front ++ region)
        Post := by
    intro before
    have kept := Transport.length_exchange front.length region c.transferTimeout before.transport
    rcases exchanged : Transport.exchange front.length region c.transferTimeout
      before.transport with ⟨⟨result, incoming⟩, transport⟩
    rw [exchanged] at kept
    refine ⟨_, before.enter ⟨.transfer front.length c.transferTimeout region, result, incoming⟩
      transport, _, _, post result incoming kept, rfl, fun rest whole => ⟨rest, ?_, ?_⟩⟩
    · simp only [List.length_append] at whole ⊢
      dsimp only at kept
      omega
    · have part : (front ++ region ++ rest).slice front.length region.length = region := by
        rw [Bytes.slice, List.append_assoc, List.drop_left, List.take_left]
      have tapped : Transport.exchange front.length region c.transferTimeout before =
          ((result, incoming), before.enter
            ⟨.transfer front.length c.transferTimeout region, result, incoming⟩ transport) := by
        change (let exchanged :=
            Transport.exchange front.length region c.transferTimeout before.transport;
          ((exchanged.1.1, exchanged.1.2), before.enter
            ⟨.transfer front.length c.transferTimeout region, exchanged.1.1, exchanged.1.2⟩
              exchanged.2)) = _
        rw [exchanged]
      have written : (front ++ region ++ rest).overlay front.length incoming =
          front ++ incoming ++ rest := by
        rw [Bytes.overlay, kept, List.append_assoc front region, List.take_left,
          List.drop_length_add_append, List.drop_left]
      rw [perform, run_transfer_of_inside c (by rw [whole]; omega), part, tapped]
      dsimp only
      rw [written]
  refine .tryCatch (exchanges fun result incoming kept => ?_)
  cases result with
  | ok _ => exact went incoming kept
  | error cause => exact steady_abandon _ fun closing => failed cause incoming closing _

end Bus

end SecureElement
