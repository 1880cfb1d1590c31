import Mathlib.Logic.Function.Basic
import SecureElement.Proofs.Sealing

/-!
A session over an adversarial line.

The two parties of a session protect packets in any order while an adversary
chooses what each of them is given to open. Each party accepts what its peer
protected: in that order, once each and without a gap.

Decryption is not assumed to be exact here, only never to have been fooled in
the run at hand (`Channel.Genuine`). What it accepts was then encrypted in that
run under the same key and nonce.
-/

namespace SecureElement

/-- The parties of a session. -/
inductive Party where
  | host
  | chip
deriving DecidableEq

def Party.peer : Party → Party
  | host => chip
  | chip => host

theorem Party.peer_ne (party : Party) : party.peer ≠ party := by
  cases party <;> decide

theorem Party.peer_of_ne {party other : Party} (different : other ≠ party) :
    other.peer = party := by
  cases party <;> cases other <;> first | rfl | exact absurd rfl different

/-- The key that protects what a party sends. -/
def SessionKeys.of (keys : SessionKeys) : Party → Key
  | .host => keys.command
  | .chip => keys.result

/-- The keys of different parties are different if the two directions differ. -/
theorem SessionKeys.of_injective {keys : SessionKeys} (directions : keys.command ≠ keys.result) :
    Function.Injective keys.of := by
  intro p q same
  cases p <;> cases q
  · rfl
  · exact absurd same directions
  · exact absurd same.symm directions
  · rfl

namespace Channel

/-! ### Runs -/

/-- A packet that a party protected, and how. -/
structure Sending where
  key : Key
  nonce : Nonce
  packet : Bytes
  frame : Bytes

/-- What a party holds, and a record of what it sent and accepted. -/
structure Endpoint where
  session : Session
  sent : List Sending := []
  accepted : List Bytes := []

namespace Endpoint

/-- The packets that a party protected. -/
def packets (endpoint : Endpoint) : List Bytes := endpoint.sent.map Sending.packet

variable [Primitives]

def protect (endpoint : Endpoint) (buffer : Bytes) (length : Nat) : Endpoint :=
  match endpoint.session.protect buffer length with
  | .ok (size, written, session) =>
    let sending := endpoint.session.sending
    { endpoint with
      session
      sent := endpoint.sent ++ [{
        key := sending.key
        nonce := Session.nonce sending.counter
        packet := buffer.slice Session.sizeLength length
        frame := written.take size }] }
  | .error _ => endpoint

def unprotect (endpoint : Endpoint) (frame : Bytes) : Endpoint :=
  match endpoint.session.unprotect frame with
  | .ok (packet, session) => { endpoint with session, accepted := endpoint.accepted ++ [packet] }
  | .error _ => endpoint

end Endpoint

end Channel

/-- Both parties. -/
abbrev Channel := Party → Channel.Endpoint

namespace Channel

/-- The two sides of a new session. -/
def start (suite : CipherSuite) (keys : SessionKeys) : Channel
  | .host => { session := .forHost suite keys }
  | .chip => { session := .forChip suite keys }

/-- A call of one party. Its arguments are not constrained: a frame may have
been sent by either party or by none. -/
inductive Event where
  | protect (party : Party) (buffer : Bytes) (length : Nat)
  | unprotect (party : Party) (frame : Bytes)

section

variable [Primitives]

def step (channel : Channel) : Event → Channel
  | .protect party buffer length =>
    Function.update channel party ((channel party).protect buffer length)
  | .unprotect party frame => Function.update channel party ((channel party).unprotect frame)

def run (channel : Channel) (events : List Event) : Channel := events.foldl step channel

/-! ### Assumption -/

/-- A frame does not fool a party: if it decrypts under the next nonce, one of
the parties made it under that key and that nonce. -/
def Authentic (channel : Channel) (party : Party) (frame : Bytes) : Prop :=
  let session := (channel party).session
  let nonce := Session.nonce session.receiving.counter
  ∀ cipher tag packet, frame = Session.sealed cipher tag →
    Primitives.decrypt? session.suite session.receiving.key nonce [] cipher tag = some packet →
    ∃ maker, ∃ sending ∈ (channel maker).sent,
      sending.key = session.receiving.key ∧ sending.nonce = nonce ∧ sending.frame = frame

/-- No frame of a run fools the party that it is given to. -/
def Genuine : Channel → List Event → Prop
  | _, [] => True
  | channel, event :: events =>
    (∀ party frame, event = .unprotect party frame → channel.Authentic party frame) ∧
      Genuine (channel.step event) events

theorem Genuine.of_append {past future : List Event} {channel : Channel}
    (genuine : channel.Genuine (past ++ future)) : channel.Genuine past := by
  induction past generalizing channel with
  | nil => trivial
  | cons event past ih => exact ⟨genuine.1, ih genuine.2⟩

/-- A frame that a party made under the right key and nonce does not fool the
other. -/
theorem Authentic.of_sent {channel : Channel} {party : Party} {frame : Bytes} (maker : Party)
    (index : Nat) (made : index < (channel maker).sent.length)
    (same : (channel maker).sent[index].frame = frame)
    (underKey : (channel maker).sent[index].key = (channel party).session.receiving.key)
    (underNonce : (channel maker).sent[index].nonce =
      Session.nonce (channel party).session.receiving.counter) :
    channel.Authentic party frame :=
  fun _ _ _ _ _ => ⟨maker, _, List.getElem_mem made, underKey, underNonce, same⟩

/-- A frame that a party does not accept cannot fool it. -/
theorem Authentic.of_refused {channel : Channel} {party : Party} {frame : Bytes}
    (refused : ((channel party).unprotect frame).accepted = (channel party).accepted)
    (more : (channel party).session.receiving.counter ≠ 0xFFFFFFFF)
    (short : frame.length ≤ Session.maxSize) : channel.Authentic party frame := by
  rintro cipher tag packet rfl decrypted
  rw [Session.length_sealed] at short
  simp [Endpoint.unprotect, Session.unprotect_sealed (Nat.le_of_add_right_le short) more decrypted]
    at refused

/-! ### Invariant -/

/-- What is recorded of the packet that a party sends after `index` others. -/
structure Sending.Numbered (suite : CipherSuite) (key : Key) (index : Nat)
    (sending : Sending) : Prop where
  underKey : sending.key = key
  underNonce : sending.nonce = Session.nonce (.ofNat index)
  encrypted : ∃ cipher tag, cipher.length ≤ Session.maxSize ∧
    Primitives.encrypt? suite key sending.nonce [] sending.packet = some (cipher, tag) ∧
    sending.frame = Session.sealed cipher tag

/-- What holds of a party and its peer throughout a run: the keys stay as they
were, the counters count what was sent and accepted, and what was accepted is
what the peer sent first. -/
structure Invariant (suite : CipherSuite) (keys : SessionKeys) (channel : Channel)
    (party : Party) : Prop where
  suites : (channel party).session.suite = suite
  sendingKey : (channel party).session.sending.key = keys.of party
  receivingKey : (channel party).session.receiving.key = keys.of party.peer
  sendingCounter : (channel party).session.sending.counter.toNat = (channel party).sent.length
  receivingCounter :
    (channel party).session.receiving.counter.toNat = (channel party).accepted.length
  numbered : ∀ (index : Nat) (sending : Sending), (channel party).sent[index]? = some sending →
    sending.Numbered suite (keys.of party) index
  inOrder : (channel party).accepted <+: (channel party.peer).packets

variable {suite : CipherSuite} {keys : SessionKeys} {channel : Channel}

theorem invariant_start (party : Party) : Invariant suite keys (start suite keys) party := by
  cases party <;> refine ⟨rfl, rfl, rfl, rfl, rfl, ?_, List.nil_prefix⟩ <;>
    intro index sending h <;> cases h

/-- A call of `protect` leaves an endpoint as it was or sends the next packet. -/
theorem Endpoint.protect_cases (endpoint : Endpoint) (buffer : Bytes) (length : Nat) :
    endpoint.protect buffer length = endpoint ∨
      ∃ sending : Sending, endpoint.session.sending.counter ≠ 0xFFFFFFFF ∧
        sending.Numbered endpoint.session.suite endpoint.session.sending.key
          endpoint.session.sending.counter.toNat ∧
        endpoint.protect buffer length =
          { session := { endpoint.session with sending := endpoint.session.sending.advance }
            sent := endpoint.sent ++ [sending]
            accepted := endpoint.accepted } := by
  unfold Endpoint.protect
  cases protected_ : endpoint.session.protect buffer length with
  | error e => exact .inl rfl
  | ok made =>
    obtain ⟨size, written, session⟩ := made
    obtain ⟨short, room, more, cipher, tag, encrypted, rfl, rfl, rfl⟩ :=
      Session.of_protect_eq_ok protected_
    have length_cipher : cipher.length = length := by
      rw [Primitives.length_encrypt? encrypted]
      exact Bytes.length_slice (by unfold Session.overhead at room; omega)
    refine .inr ⟨_, more, ⟨rfl, ?_, cipher, tag, ?_, encrypted, ?_⟩, rfl⟩
    · rw [UInt32.ofNat_toNat]
    · exact length_cipher ▸ short
    · exact Session.take_protected buffer length_cipher tag

/-- A frame leaves an endpoint as it was or decrypts to the next packet. -/
theorem Endpoint.unprotect_cases (endpoint : Endpoint) (frame : Bytes) :
    endpoint.unprotect frame = endpoint ∨
      ∃ cipher tag packet, endpoint.session.receiving.counter ≠ 0xFFFFFFFF ∧
        cipher.length ≤ Session.maxSize ∧ frame = Session.sealed cipher tag ∧
        Primitives.decrypt? endpoint.session.suite endpoint.session.receiving.key
          (Session.nonce endpoint.session.receiving.counter) [] cipher tag = some packet ∧
        endpoint.unprotect frame =
          { session := { endpoint.session with receiving := endpoint.session.receiving.advance }
            sent := endpoint.sent
            accepted := endpoint.accepted ++ [packet] } := by
  unfold Endpoint.unprotect
  cases opened : endpoint.session.unprotect frame with
  | error e => exact .inl rfl
  | ok result =>
    obtain ⟨packet, session⟩ := result
    obtain ⟨more, rfl, cipher, tag, short, made, decrypted⟩ := Session.unprotect_eq_ok_iff.mp opened
    exact .inr ⟨cipher, tag, packet, more, short, made, decrypted, rfl⟩

theorem invariant_protect (held : ∀ party, Invariant suite keys channel party) (sender : Party)
    (buffer : Bytes) (length : Nat) (party : Party) :
    Invariant suite keys (channel.step (.protect sender buffer length)) party := by
  simp only [step]
  rcases Endpoint.protect_cases (channel sender) buffer length with
    same | ⟨sending, more, next, after⟩
  · rw [same, Function.update_eq_self]
    exact held party
  · rw [after]
    by_cases self : party = sender
    · subst self
      have before := held party
      refine ⟨?_, ?_, ?_, ?_, ?_, ?_, ?_⟩ <;>
        simp only [Function.update_self, Function.update_of_ne party.peer_ne]
      · exact before.suites
      · exact before.sendingKey
      · exact before.receivingKey
      · rw [Direction.toNat_advance more, before.sendingCounter, List.length_append,
          List.length_singleton]
      · exact before.receivingCounter
      · intro index other found
        rw [List.getElem?_append] at found
        split at found
        · exact before.numbered index other found
        · rename_i beyond
          rw [List.getElem?_singleton] at found
          split at found
          · cases found
            have last : index = (channel party).sent.length := by omega
            rw [last, ← before.sendingCounter, ← before.suites, ← before.sendingKey]
            exact next
          · cases found
      · exact before.inOrder
    · have before := held party
      have peer := Party.peer_of_ne self
      refine ⟨?_, ?_, ?_, ?_, ?_, ?_, ?_⟩ <;> simp only [Function.update_of_ne self]
      · exact before.suites
      · exact before.sendingKey
      · exact before.receivingKey
      · exact before.sendingCounter
      · exact before.receivingCounter
      · exact before.numbered
      · rw [peer, Function.update_self]
        refine (peer ▸ before.inOrder).trans ?_
        simp [Endpoint.packets]

/-- A frame that is not fooling a party decrypts to the first packet of its peer
that it has not accepted yet. -/
theorem next_packet (held : ∀ party, Invariant suite keys channel party)
    (inverts : Aead.Inverts) (directions : keys.command ≠ keys.result) {party : Party}
    {cipher packet : Bytes} {tag : Tag} (short : cipher.length ≤ Session.maxSize)
    (authentic : channel.Authentic party (Session.sealed cipher tag))
    (decrypted : Primitives.decrypt? (channel party).session.suite
      (channel party).session.receiving.key
      (Session.nonce (channel party).session.receiving.counter) [] cipher tag = some packet) :
    (channel party.peer).packets[(channel party).accepted.length]? = some packet := by
  obtain ⟨maker, sending, made, underKey, underNonce, frame⟩ :=
    authentic cipher tag packet rfl decrypted
  obtain ⟨index, found⟩ := List.mem_iff_getElem?.mp made
  have record := (held maker).numbered index sending found
  have before := held party
  -- The key tells whose frame it is, and the nonce tells which.
  have peer : maker = party.peer := by
    apply SessionKeys.of_injective directions
    rw [← record.underKey, underKey, before.receivingKey]
  have bound : index < 2 ^ 32 := by
    obtain ⟨inside, -⟩ := List.getElem?_eq_some_iff.mp found
    have counter := (held maker).sendingCounter
    have := (channel maker).session.sending.counter.toNat_lt
    omega
  have position : index = (channel party).accepted.length := by
    have same := Session.nonce_injective (record.underNonce.symm.trans underNonce)
    rw [← before.receivingCounter, ← same, UInt32.toNat_ofNat_of_lt' bound]
  obtain ⟨cipher', tag', short', encrypted, frame'⟩ := record.encrypted
  obtain ⟨rfl, rfl⟩ := Session.sealed_inj short short' (frame ▸ frame')
  have opened := inverts.decrypts encrypted
  rw [underNonce, ← record.underKey, underKey, ← before.suites, decrypted] at opened
  rw [← position, ← peer, Endpoint.packets, List.getElem?_map, found]
  exact opened.symm

omit [Primitives] in
theorem prefix_concat {accepted sent : List Bytes} {packet : Bytes} (known : accepted <+: sent)
    (next : sent[accepted.length]? = some packet) : accepted ++ [packet] <+: sent := by
  obtain ⟨rest, rfl⟩ := known
  cases rest with
  | nil => simp at next
  | cons first rest =>
    rw [List.getElem?_append_right (Nat.le_refl _), Nat.sub_self] at next
    cases next
    exact ⟨rest, by simp⟩

theorem invariant_unprotect (held : ∀ party, Invariant suite keys channel party)
    (inverts : Aead.Inverts) (directions : keys.command ≠ keys.result) {receiver : Party}
    {frame : Bytes} (authentic : channel.Authentic receiver frame) (party : Party) :
    Invariant suite keys (channel.step (.unprotect receiver frame)) party := by
  simp only [step]
  rcases Endpoint.unprotect_cases (channel receiver) frame with
    same | ⟨cipher, tag, packet, more, short, rfl, decrypted, after⟩
  · rw [same, Function.update_eq_self]
    exact held party
  · rw [after]
    by_cases self : party = receiver
    · subst self
      have before := held party
      have next := next_packet held inverts directions short authentic decrypted
      refine ⟨?_, ?_, ?_, ?_, ?_, ?_, ?_⟩ <;>
        simp only [Function.update_self, Function.update_of_ne party.peer_ne]
      · exact before.suites
      · exact before.sendingKey
      · exact before.receivingKey
      · exact before.sendingCounter
      · rw [Direction.toNat_advance more, before.receivingCounter, List.length_append,
          List.length_singleton]
      · exact before.numbered
      · exact prefix_concat before.inOrder next
    · have before := held party
      have peer := Party.peer_of_ne self
      refine ⟨?_, ?_, ?_, ?_, ?_, ?_, ?_⟩ <;> simp only [Function.update_of_ne self]
      · exact before.suites
      · exact before.sendingKey
      · exact before.receivingKey
      · exact before.sendingCounter
      · exact before.receivingCounter
      · exact before.numbered
      · rw [peer, Function.update_self]
        exact peer ▸ before.inOrder

/-- Each call keeps the invariant, so it holds throughout a run. -/
theorem invariant_run (inverts : Aead.Inverts) (directions : keys.command ≠ keys.result)
    {events : List Event} (held : ∀ party, Invariant suite keys channel party)
    (genuine : channel.Genuine events) (party : Party) :
    Invariant suite keys (channel.run events) party := by
  induction events generalizing channel with
  | nil => exact held party
  | cons event events ih =>
    refine ih (fun party => ?_) genuine.2
    cases event with
    | protect sender buffer length => exact invariant_protect held sender buffer length party
    | unprotect receiver frame =>
      exact invariant_unprotect held inverts directions (genuine.1 receiver frame rfl) party

/-! ### Acceptance -/

/-- The frame of the first packet that a party has not accepted yet opens. -/
theorem unprotect_next (held : ∀ party, Invariant suite keys channel party)
    (inverts : Aead.Inverts) {party : Party} {sending : Sending}
    (next : (channel party.peer).sent[(channel party).accepted.length]? = some sending) :
    (channel party).session.unprotect sending.frame =
      .ok (sending.packet, { (channel party).session with
        receiving := (channel party).session.receiving.advance }) := by
  have before := held party
  have record := (held party.peer).numbered _ sending next
  obtain ⟨cipher, tag, short, encrypted, frame⟩ := record.encrypted
  -- The peer never sends under the last counter value, so this is not the last.
  have more : (channel party).session.receiving.counter ≠ 0xFFFFFFFF := by
    intro last
    obtain ⟨inside, -⟩ := List.getElem?_eq_some_iff.mp next
    rw [← before.receivingCounter, ← (held party.peer).sendingCounter, last] at inside
    have := (channel party.peer).session.sending.counter.toNat_lt
    have : (0xFFFFFFFF : UInt32).toNat = 4294967295 := rfl
    omega
  have opened := inverts.decrypts encrypted
  rw [record.underNonce, ← before.receivingCounter, UInt32.ofNat_toNat, ← before.receivingKey,
    ← before.suites] at opened
  rw [frame]
  exact Session.unprotect_sealed short more opened

/-- At every moment of a run in which no frame fools a party, the packets that a
party has accepted are those that its peer protected first, as many as its
counter says. A frame that it refuses changes nothing, and the next frame of its
peer, once there is one, opens to the packet it was made from. -/
theorem accepted_in_order (inverts : Aead.Inverts) (directions : keys.command ≠ keys.result)
    {past future : List Event} (genuine : (start suite keys).Genuine (past ++ future))
    (party : Party) :
    let channel := (start suite keys).run past
    let session := (channel party).session
    (channel party).accepted <+: (channel party.peer).packets ∧
      session.receiving.counter.toNat = (channel party).accepted.length ∧
      (∀ frame e, session.unprotect frame = .error e →
        channel.step (.unprotect party frame) = channel) ∧
      ∀ sending, (channel party.peer).sent[(channel party).accepted.length]? = some sending →
        session.unprotect sending.frame =
          .ok (sending.packet, { session with receiving := session.receiving.advance }) := by
  intro channel session
  have held := invariant_run inverts directions invariant_start genuine.of_append
  have before := held party
  refine ⟨before.inOrder, before.receivingCounter, ?_, ?_⟩
  · intro frame e refused
    have unchanged : (channel party).unprotect frame = channel party := by
      unfold Endpoint.unprotect
      rw [refused]
    rw [step, unchanged, Function.update_eq_self]
  · intro sending next
    exact unprotect_next held inverts next

end

/-- The host sends one packet. Of its frame cut short and its whole frame, the
chip accepts the latter. -/
theorem accepted_once :
    let keys : SessionKeys := ⟨.replicate 32 1, .replicate 32 2⟩
    let made := Crypto.Gcm.encrypt keys.command (Session.nonce 0) [] [7, 7, 7]
    let frame := Session.sealed made.1 made.2
    let past : List Event := [.protect .host (List.replicate 21 7) 3,
      .unprotect .chip (frame.take 17), .unprotect .chip frame]
    let channel := (start .aes256Gcm keys).run past
    keys.command ≠ keys.result ∧ (start .aes256Gcm keys).Genuine past ∧
      (channel .chip).accepted <+: (channel .host).packets ∧
      (channel .chip).accepted = [[7, 7, 7]] := by
  intro keys made frame past channel
  have directions : keys.command ≠ keys.result := by decide
  have encrypted : Primitives.encrypt? .aes256Gcm keys.command (Session.nonce 0) [] [7, 7, 7] =
    some made := Standard.encrypt?_aes256Gcm _ _ _ _
  clear_value made
  obtain ⟨cipher, tag⟩ := made
  have size : cipher.length = 3 := Primitives.length_encrypt? encrypted
  have sent : (start .aes256Gcm keys .host).protect (List.replicate 21 7) 3 =
      ⟨⟨.aes256Gcm, ⟨keys.command, 1⟩, .start keys.result⟩,
        [⟨keys.command, Session.nonce 0, [7, 7, 7], frame⟩], []⟩ := by
    have made : (Session.forHost .aes256Gcm keys).protect (List.replicate 21 7) 3 = _ :=
      Session.protect_eq_ok (by decide) (by decide) (by decide) encrypted
    have front := Session.take_protected (List.replicate 21 7) size tag
    simp only [Endpoint.protect, start, made, List.nil_append]
    exact congrArg (fun f => Endpoint.mk _ [⟨_, _, _, f⟩] _) front
  have cut : (start .aes256Gcm keys .chip).unprotect (frame.take 17) =
      start .aes256Gcm keys .chip := by
    have short : (Session.forChip .aes256Gcm keys).unprotect (frame.take 17) =
        .error .malformedFrame := if_pos (by simp [frame, size]; decide)
    simp only [Endpoint.unprotect, start, short]
  have whole : (start .aes256Gcm keys .chip).unprotect frame =
      ⟨⟨.aes256Gcm, .start keys.result, ⟨keys.command, 1⟩⟩, [], [[7, 7, 7]]⟩ := by
    have opened : (Session.forChip .aes256Gcm keys).unprotect frame = _ :=
      Session.unprotect_sealed (by rw [size]; decide) (by decide)
        (Standard.exact.decrypts encrypted)
    simp only [Endpoint.unprotect, start, opened, List.nil_append]
    rfl
  have fresh : (0 : UInt32) ≠ 0xFFFFFFFF := by decide
  have genuine : (start .aes256Gcm keys).Genuine (past ++ []) := by
    refine ⟨?_, ?_, ?_, trivial⟩ <;> intro party given same <;> cases same <;>
      simp only [step, sent]
    · refine .of_refused ?_ fresh ?_
      · simp [cut]
      · exact Nat.le_trans (List.length_take_le 17 frame) (by decide)
    · refine .of_sent .host 0 ?_ ?_ ?_ ?_ <;> simp [cut] <;> rfl
  have accepted : (channel .chip).accepted = [[7, 7, 7]] := by
    simp only [channel, past, run, List.foldl_cons, List.foldl_nil, step, sent]
    simp [cut, whole]
  exact ⟨directions, genuine,
    (accepted_in_order Standard.exact.toInverts directions genuine .chip).1, accepted⟩

end Channel

end SecureElement
