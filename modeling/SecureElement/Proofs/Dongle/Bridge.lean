import SecureElement.Dongle.Serial
import SecureElement.Proofs.Discipline
import SecureElement.Proofs.Dongle.Codec

/-!
A dongle in place of a bus.

Windows that are to come in are played in two ways: over a bus directly (`Direct`), and
by a dongle at the other end of a serial line, which may spell its replies as it likes
(`Bridge`). With an open line the two stay in step through every call of the link
(`Bridge.coupled`): the dongle takes up a window with its first transfer, where the bus
does when it is selected, and a window without transfers does not occur. So the link
returns the same over both, and the lines on the way to the dongle say what was
exchanged on the bus, window by window (`dongle_transparent`).
-/

namespace SecureElement

open Dongle (Order)

/-! ### Windows that are played -/

/-- What is to come in: the rest of the current window, and the windows behind it. -/
structure Feed where
  current : Bytes
  later : List Bytes

namespace Feed

/-- The next window is taken up; when none are left, windows are empty. -/
def next (feed : Feed) : Feed := ⟨feed.later.headD [], feed.later.tail⟩

/-- The next bytes of the window, with zeros where it has run out. -/
def front (feed : Feed) (count : Nat) : Octets count := Octets.fit count feed.current

/-- What is left after those. -/
def drop (feed : Feed) (count : Nat) : Feed := { feed with current := feed.current.drop count }

end Feed

/-- A bus on which windows are played. -/
structure Direct where
  feed : Feed
  random : RandomSource

instance : Transport Direct where
  init := pure ()
  release := pure ()
  select := modify fun direct => { direct with feed := direct.feed.next }
  deselect := pure ()
  exchange _ region _ := fun direct => ((.ok (), (direct.feed.front region.length).val),
    { direct with feed := direct.feed.drop region.length })
  delay _ := pure ()
  random count := ExceptT.mk fun direct =>
    let (result, random) := direct.random.tryDraw count
    (result.mapError .bus, { direct with random })
  entropy _ := .strong
  length_exchange _ region _ direct := (direct.feed.front region.length).property

/-- How replies are spelled, one after the other. -/
structure Voice where
  reply : (turn : Nat) → (bytes : Bytes) → Bytes
  spells (turn : Nat) (bytes : Bytes) : Dongle.Spells bytes (reply turn bytes)

/-- A serial line with a dongle at its other end, on whose bus windows are played. -/
structure Bridge where
  feed : Feed
  /-- Chip select, which the first transfer of a window asserts. -/
  selected : Bool
  voice : Voice
  /-- How many replies were given. -/
  replies : Nat
  /-- What waits to be read from the line. -/
  unread : Bytes
  /-- The lines that were written, the latest last. -/
  lines : List Bytes

namespace Bridge

/-- The window that a transfer belongs to. -/
def played (bridge : Bridge) : Feed := if bridge.selected then bridge.feed else bridge.feed.next

/-- The dongle does what it is asked, and answers. -/
def obey (bridge : Bridge) : Order → Bridge
  | .transfer data => { bridge with
      feed := bridge.played.drop data.length
      selected := true
      replies := bridge.replies + 1
      unread := bridge.unread ++
        bridge.voice.reply bridge.replies (bridge.played.front data.length).val }
  | .release => { bridge with
      selected := false
      unread := bridge.unread ++ Dongle.acknowledgement }

/-- The dongle takes in a line; what is no line of its own it does not answer. -/
def hear (bridge : Bridge) (line : Bytes) : Bridge :=
  let heard := { bridge with lines := bridge.lines ++ [line] }
  match Order.ofLine? line with
  | some order => heard.obey order
  | none => heard

/-- Takes bytes from the line, which must be there. -/
def read (bridge : Bridge) (count : Nat) : Except TransportError (Octets count) × Bridge :=
  let rest := { bridge with unread := bridge.unread.drop count }
  match Octets.ofBytes? count (bridge.unread.take count) with
  | some bytes => (.ok bytes, rest)
  | none => (.error .timeout, rest)

instance : SerialLine Bridge where
  connect _ _ := pure ()
  clear := modify fun bridge => { bridge with unread := [] }
  write line := modify fun bridge => bridge.hear line
  read count := ExceptT.mk fun bridge => bridge.read count
  disconnect := pure ()

/-! ### In step -/

/-- What is played on the line, if `feed` is what is played on the bus. -/
def Plays (bridge : Bridge) : (phase : Phase) → (feed : Feed) → Prop
  | .outside, feed => bridge.selected = false ∧ bridge.feed.later = feed.later
  | .inside 0, feed => bridge.selected = false ∧ bridge.feed.next = feed
  | .inside (_ + 1), feed => bridge.selected = true ∧ bridge.feed = feed

end Bridge

/-- The order to a dongle that does what a call does, if it takes one. -/
def Call.order? : Call → Option Order
  | transfer _ _ region => some (.transfer region)
  | deselect => some .release
  | _ => none

/-- The orders that do what calls do. -/
def orders (calls : List Called) : List Order := calls.filterMap (·.call.order?)

theorem orders_concat (calls : List Called) (called : Called) :
    orders (calls ++ [called]) = orders calls ++ called.call.order?.toList := by
  rw [orders, List.filterMap_append, List.filterMap_cons]
  cases called.call.order? <;> rfl

/-- An open dongle that has done the same as a watched bus. -/
structure InStep (phase : Phase) (dongle : SerialDongle Bridge) (direct : Watched Direct) :
    Prop where
  isOpen : dongle.isOpen = true
  random : dongle.random = direct.transport.random
  unread : dongle.line.unread = []
  plays : dongle.line.Plays phase direct.transport.feed
  lines : dongle.line.lines = (orders direct.calls).map Order.line

namespace Bridge

variable {bridge : Bridge} {dongle : SerialDongle Bridge} {direct : Watched Direct}

/-- The dongle after an order whose reply was read. -/
def told (dongle : SerialDongle Bridge) (order : Order) : SerialDongle Bridge :=
  { dongle with line := { dongle.line.hear order.line with unread := [] } }

theorem Plays.played_eq {count : Nat} {feed : Feed} (plays : bridge.Plays (.inside count) feed) :
    bridge.played = feed := by
  unfold played
  cases count with
  | zero => rw [plays.1, if_neg Bool.false_ne_true, plays.2]
  | succ count => rw [plays.1, if_pos rfl, plays.2]

theorem hear_line (order : Order) :
    bridge.hear order.line = { bridge with lines := bridge.lines ++ [order.line] }.obey order := by
  unfold hear
  rw [Order.ofLine?_line]

theorem lines_hear (order : Order) :
    (bridge.hear order.line).lines = bridge.lines ++ [order.line] := by
  rw [hear_line]
  cases order <;> rfl

theorem read_all {reply : Bytes} (unread : bridge.unread = reply) :
    bridge.read reply.length = (.ok ⟨reply, rfl⟩, { bridge with unread := [] }) := by
  have whole : Octets.ofBytes? reply.length (bridge.unread.take reply.length) =
      some ⟨reply, rfl⟩ := by
    rw [unread, List.take_length]
    exact Octets.ofBytes?_val ⟨reply, rfl⟩
  unfold read
  rw [whole, unread, List.drop_length]

/-- An order is carried out, and a reply of the expected length is read. -/
theorem perform_exchange (isOpen : dongle.isOpen = true) (order : Order) {reply : Bytes}
    (answer : (dongle.line.hear order.line).unread = reply) {count : Nat}
    (length : reply.length = count) :
    perform (SerialDongle.exchange order.line count) dongle =
      (.ok ⟨reply, length⟩, told dongle order) := by
  subst length
  have opened : perform SerialDongle.expectOpen dongle = (.ok (), dongle) := by
    simp only [SerialDongle.expectOpen, perform_bind, perform_get, isOpen]
    rfl
  rw [SerialDongle.exchange, perform_bind_ok opened]
  change (((dongle.line.hear order.line).read reply.length).1,
    { dongle with line := ((dongle.line.hear order.line).read reply.length).2 }) = _
  rw [read_all answer]
  rfl

/-- A transfer over an open line on which nothing waits. -/
theorem transfer_eq (isOpen : dongle.isOpen = true) (unread : dongle.line.unread = [])
    (region : Bytes) :
    SerialDongle.transfer region dongle =
      ((.ok (), (dongle.line.played.front region.length).val),
        told dongle (.transfer region)) := by
  have incoming := (dongle.line.played.front region.length).property
  have spells := dongle.line.voice.spells dongle.line.replies
    (dongle.line.played.front region.length).val
  have answer : (dongle.line.hear (Order.transfer region).line).unread =
      dongle.line.voice.reply dongle.line.replies
        (dongle.line.played.front region.length).val := by
    rw [hear_line]
    exact congrArg (· ++ _) unread
  have length := spells.length
  rw [incoming] at length
  have exchanged := perform_exchange isOpen (.transfer region) answer length
  unfold perform at exchanged
  unfold SerialDongle.transfer
  dsimp only
  rw [show Dongle.encodeTransfer region [] = (Order.transfer region).line from rfl, exchanged]
  exact congrArg (·, _) (Dongle.decodeReply_of_spells spells incoming.symm)

/-- A release over an open line on which nothing waits. -/
theorem perform_releaseChip (isOpen : dongle.isOpen = true) (unread : dongle.line.unread = []) :
    perform SerialDongle.releaseChip dongle = (.ok (), told dongle .release) := by
  have answer : (dongle.line.hear Order.release.line).unread = Dongle.acknowledgement := by
    rw [hear_line]
    exact congrArg (· ++ _) unread
  exact perform_bind_ok (perform_exchange isOpen .release answer rfl)

theorem perform_random (dongle : SerialDongle Bridge) (count : Nat) :
    perform (Transport.random count) dongle = ((dongle.random.tryDraw count).1.mapError .bus,
      { dongle with random := (dongle.random.tryDraw count).2 }) := by
  simp only [Transport.random, perform_bind, perform_get]
  rcases dongle.random.tryDraw count with ⟨_ | _, random⟩ <;> rfl

/-! ### Call by call -/

/-- A call that the dongle is not told of. -/
theorem lines_enter {lines : List Bytes} (same : lines = (orders direct.calls).map Order.line)
    {call : Call} (silent : call.order? = none) (result : Except TransportError Unit)
    (transport : Direct) :
    lines = (orders (direct.enter call result transport).calls).map Order.line := by
  rw [Watched.enter, orders_concat, silent]
  exact same.trans (congrArg _ (List.append_nil _).symm)

/-- A call that the dongle is told of. -/
theorem lines_enter_order {line : Bridge}
    (same : line.lines = (orders direct.calls).map Order.line) {call : Call} {order : Order}
    (told : call.order? = some order) (result : Except TransportError Unit) (transport : Direct) :
    (line.hear order.line).lines =
      (orders (direct.enter call result transport).calls).map Order.line := by
  rw [lines_hear, same, Watched.enter, orders_concat, told, List.map_append]
  rfl

/-- **The dongle stays in step with the bus** through every call of the link. -/
theorem coupled : Transport.Coupled InStep where
  select := by
    rintro dongle direct ⟨isOpen, random, unread, ⟨released, later⟩, lines⟩
    refine ⟨rfl, ?_⟩
    -- Nothing is written yet: the dongle takes the window up with its first transfer.
    change InStep (.inside 0) dongle (direct.enter .select (.ok ())
      { direct.transport with feed := direct.transport.feed.next })
    refine ⟨isOpen, random, unread, ⟨released, ?_⟩, lines_enter lines rfl _ _⟩
    unfold Feed.next
    rw [later]
    rfl
  exchange few offset region timeout dongle direct := by
    rintro ⟨isOpen, random, unread, plays, lines⟩
    change (SerialDongle.transfer region dongle).1 = (.ok (), _) ∧
      InStep _ (SerialDongle.transfer region dongle).2
        (direct.enter (.transfer offset timeout region) (.ok ())
          { direct.transport with feed := direct.transport.feed.drop region.length })
    rw [transfer_eq isOpen unread, plays.played_eq]
    refine ⟨rfl, isOpen, random, rfl, ?_, lines_enter_order lines rfl _ _⟩
    rw [told, hear_line]
    refine ⟨rfl, ?_⟩
    exact congrArg (Feed.drop · region.length) plays.played_eq
  deselect count := by
    rintro dongle direct ⟨isOpen, random, unread, ⟨selected, same⟩, lines⟩
    change Ends _ _ (perform SerialDongle.releaseChip dongle)
      (.ok (), direct.enter .deselect (.ok ()) direct.transport)
    rw [perform_releaseChip isOpen unread]
    refine ⟨rfl, isOpen, random, rfl, ?_, lines_enter_order lines rfl _ _⟩
    rw [told, hear_line]
    exact ⟨rfl, congrArg Feed.later same⟩
  delay duration dongle direct := by
    rintro ⟨isOpen, random, unread, plays, lines⟩
    exact ⟨isOpen, random, unread, plays, lines_enter lines rfl _ _⟩
  random count := by
    rintro dongle direct ⟨isOpen, random, unread, plays, lines⟩
    change Ends _ _ (perform (Transport.random count) dongle)
      ((direct.transport.random.tryDraw count).1.mapError .bus, direct.enter (.random count) _
        { direct.transport with random := (direct.transport.random.tryDraw count).2 })
    rw [perform_random, random]
    refine ⟨rfl, ?_⟩
    split
    all_goals exact ⟨isOpen, rfl, unread, plays, lines_enter lines rfl _ _⟩
  entropy _ _ _ := rfl

end Bridge

/-! ### Window by window -/

/-- What a call sends, if it exchanges bytes. -/
def Call.sent? : Call → Option Bytes
  | transfer _ _ region => some region
  | _ => none

/-- What calls send. -/
def sent (calls : List Called) : List Bytes := calls.filterMap (·.call.sent?)

/-- The orders that send so much in each window: its transfers and one release. -/
def windowed (windows : List (List Bytes)) : List Order :=
  windows.flatMap fun transfers => transfers.map .transfer ++ [.release]

/-- Calls that send so much in each of their windows, in one to three transfers. -/
def SendsIn (calls : List Called) (windows : List (List Bytes)) : Prop :=
  orders calls = windowed windows ∧ sent calls = windows.flatten ∧
    ∀ transfers ∈ windows, 1 ≤ transfers.length ∧ transfers.length ≤ 3

theorem orders_of_transfers {exchanges : List Called}
    (transfers : ∀ called ∈ exchanges, called.call.Transfers) :
    orders exchanges = (sent exchanges).map .transfer ∧
      (sent exchanges).length = exchanges.length := by
  induction exchanges with
  | nil => exact ⟨rfl, rfl⟩
  | cons called rest ih =>
    obtain ⟨first, others⟩ := List.forall_mem_cons.mp transfers
    obtain ⟨orders, length⟩ := ih others
    obtain ⟨call, result⟩ := called
    cases call with
    | transfer offset timeout region =>
      exact ⟨congrArg (Order.transfer region :: ·) orders, congrArg (· + 1) length⟩
    | _ => exact first.elim

/-- What stands on its own is at most one window. -/
theorem Part.sendsIn {part : List Called} (one : Part part) :
    SendsIn part [] ∨ ∃ transfers, SendsIn part [transfers] := by
  cases one with
  | @apart call apart result =>
    refine .inl ?_
    cases call with
    | select | deselect | transfer => exact apart.elim
    | _ => exact ⟨rfl, rfl, nofun⟩
  | refused cause => exact .inl ⟨rfl, rfl, nofun⟩
  | @window exchanges transfers some few result =>
    obtain ⟨told, length⟩ := orders_of_transfers transfers
    refine .inr ⟨sent exchanges, ?_, ?_, ?_⟩
    · rw [windowed, List.flatMap_singleton, ← told]
      exact orders_concat exchanges ⟨.deselect, result⟩
    · rw [List.flatten_singleton]
      exact List.filterMap_append.trans (List.append_nil _)
    · exact List.forall_mem_singleton.mpr ⟨length ▸ some, length ▸ few⟩

theorem SendsIn.append {calls more : List Called} {windows others : List (List Bytes)}
    (first : SendsIn calls windows) (second : SendsIn more others) :
    SendsIn (calls ++ more) (windows ++ others) := by
  obtain ⟨orders, sent, bounds⟩ := first
  obtain ⟨orders', sent', bounds'⟩ := second
  refine ⟨?_, ?_, List.forall_mem_append.mpr ⟨bounds, bounds'⟩⟩
  · rw [windowed, List.flatMap_append, SecureElement.orders, List.filterMap_append]
    exact congr (congrArg _ orders) orders'
  · rw [List.flatten_append, SecureElement.sent, List.filterMap_append]
    exact congr (congrArg _ sent) sent'

/-- Calls that are made with discipline send what they send in windows. -/
theorem Disciplined.exists_sendsIn {calls : List Called} (disciplined : Disciplined calls) :
    ∃ windows, SendsIn calls windows := by
  obtain ⟨parts, each, rfl⟩ := disciplined
  induction parts with
  | nil => exact ⟨[], rfl, rfl, nofun⟩
  | cons part rest ih =>
    obtain ⟨one, others⟩ := List.forall_mem_cons.mp each
    obtain ⟨windows, later⟩ := ih others
    obtain none | ⟨transfers, first⟩ := one.sendsIn
    · exact ⟨_, none.append later⟩
    · exact ⟨_, first.append later⟩

/-! ### Transparency -/

variable (device : String) (baudRate : UInt32) (windows : List Bytes) (random : RandomSource)

/-- An open dongle on whose bus windows are going to be played. -/
def Bridge.opened (voice : Voice) : SerialDongle Bridge where
  device
  baudRate
  isOpen := true
  line := ⟨⟨[], windows⟩, false, voice, 0, [], []⟩
  random

/-- **A dongle is transparent.** Over an open dongle the operations of the link return what
they return over a bus on which the same windows are played, however the dongle spells its
replies. The lines that it was told stand for what was called on the bus: each transfer, with
the bytes that went out, and one release for each window. -/
theorem dongle_transparent (voice : Voice) (c : Config) (operations : List Link.Operation) :
    let direct : Direct := ⟨⟨[], windows⟩, random⟩
    let plain := Link.Operation.runAll c operations (Link.start direct)
    let watched := Link.Operation.runAll c operations (Link.start (Watched.mk direct []))
    let bridged := Link.Operation.runAll c operations
      (Link.start (Bridge.opened device baudRate windows random voice))
    bridged.1 = plain.1 ∧ watched.1 = plain.1 ∧ Disciplined watched.2.transport.calls ∧
      bridged.2.transport.line.lines.map Order.ofLine? =
        (orders watched.2.transport.calls).map some ∧
      ∃ exchanged, SendsIn watched.2.transport.calls exchanged := by
  intro direct plain watched bridged
  have inStep : InStep .outside (Bridge.opened device baudRate windows random voice)
      (Watched.mk direct []) := ⟨rfl, rfl, rfl, ⟨rfl, rfl⟩, rfl⟩
  have unseen : (Watched.mk direct []).transport = direct := rfl
  have nothing : (Watched.mk direct []).Since [] (Underway · .outside) := ⟨[], rfl, disciplined_nil⟩
  obtain ⟨same, after⟩ := Link.Operation.runAll_alike Bridge.coupled c operations
    (.of_related inStep (List.replicate Frame.maxLength 0))
  obtain ⟨unwatched, -⟩ := Link.Operation.runAll_alike Watched.coupled_unwatched.toCoupled c
    operations (.of_related unseen (List.replicate Frame.maxLength 0))
  obtain ⟨-, ended⟩ := Link.Operation.runAll_alike (Watched.maintains_discipline []).coupled c
    operations (.of_related ⟨rfl, nothing⟩ (List.replicate Frame.maxLength 0))
  obtain ⟨-, calls, entered, disciplined⟩ := ended.transport
  have disciplined : Disciplined watched.2.transport.calls := entered ▸ disciplined
  refine ⟨same.trans unwatched.symm, unwatched.symm, disciplined, ?_, disciplined.exists_sendsIn⟩
  -- The lines are those of the orders, and each reads back as its own.
  have lines : bridged.2.transport.line.lines =
    (orders watched.2.transport.calls).map Order.line := after.transport.lines
  rw [lines, List.map_map]
  exact List.map_congr_left fun order _ => Order.ofLine?_line order

/-- Lower case in every second reply, and an end of line behind each. -/
def Voice.alternating : Voice where
  reply turn bytes :=
    let spell := if turn % 2 = 0 then Dongle.digit else Dongle.lowerDigit
    bytes.flatMap (fun byte : UInt8 => [spell (byte >>> 4), spell (byte &&& 0x0F)]) ++ [0x0D, 0x0A]
  spells turn bytes := by
    induction bytes with
    | nil => exact .trailer rfl
    | cons byte rest ih =>
      refine .byte ?_ ?_ ih
      all_goals
        split
        · exact .inl rfl
        · exact .inr rfl

/-- A bus on which the chip falls asleep. -/
def drowsy : List Bytes := [[], Bus.readyBit :: Chip.frameResponse .requestOk []]

/-- Falling asleep over a dongle takes a window for the request and one for the response. -/
theorem sleep_over_dongle :
    let random : RandomSource := ⟨fun i => UInt8.ofNat i, 0, none⟩
    let bridged := Link.Operation.runAll {} [.sleep .sleep] (Link.start
      (Bridge.opened Dongle.defaultDevice Dongle.defaultBaudRate drowsy random .alternating))
    bridged.1 = [⟨.sleep .sleep, (.ok () : Except Error Unit)⟩] ∧
      bridged.2.transport.line.lines.map Order.ofLine? = (windowed
        [[[0x01, 0x20, 0x05, 0xC0, 0x0A]], [[0xAA], [0, 0], [0, 0]]]).map some := by
  intro random bridged
  have ran : (perform (Link.sleep {} .sleep)
      (Link.start (⟨⟨[], drowsy⟩, random⟩ : Direct))).1.toOption = some () := by decide +kernel
  have slept : (perform (Link.sleep {} .sleep)
      (Link.start (⟨⟨[], drowsy⟩, random⟩ : Direct))).1 = .ok () := by
    generalize (perform _ _).1 = result at ran ⊢
    cases result with
    | ok => rfl
    | error e => cases ran
  have same := (dongle_transparent Dongle.defaultDevice Dongle.defaultBaudRate drowsy random
    .alternating {} [.sleep .sleep]).1
  have single (bus : Bus Direct) : (Link.Operation.runAll {} [.sleep .sleep] bus).1 =
    [⟨.sleep .sleep, (perform (Link.sleep {} .sleep) bus).1⟩] := rfl
  refine ⟨same.trans ?_, by decide +kernel⟩
  rw [single, slept]

end SecureElement
