import SecureElement.Primitives.Standard
import SecureElement.Proofs.Vault

/-!
What the chip's memory holds after any commands.

Of the commands that were run, those that succeeded are its deeds (`Deed`). A
place holds what the last deed put there that put anything there, or what it held
at the start, and a counter counts down from that with every later deed that
counts it down (`Vault.after`). Hence a read returns what was written last since
it was erased, and a counter its start value less the number of updates
(`Store.commands_agree`).
-/

namespace SecureElement

/-- A place and what stands there. -/
structure Filled where
  entry : Entry
  content : entry.Content

/-- What stands in a place, if it is this one. -/
def Filled.at? (filled : Filled) (entry : Entry) : Option entry.Content :=
  if same : filled.entry = entry then some (same ▸ filled.content) else none

/-- A command that succeeded, and the random bytes that were drawn for it. -/
structure Deed where
  command : Command
  drawn : Bytes

namespace Deed

open Vault (place)

/-- What a deed puts into a place, whatever stood there. -/
def fills? (deed : Deed) : Option Filled :=
  match deed.command with
  | .pairingKeyWrite slot key => some ⟨.pairing slot, .written key⟩
  | .pairingKeyInvalidate slot => some ⟨.pairing slot, .invalidated⟩
  | .rMemDataWrite slot data => (place 512 slot).toOption.map fun i => ⟨.memory i, some data⟩
  | .rMemDataErase slot => (place 512 slot).toOption.map fun i => ⟨.memory i, none⟩
  | .eccKeyGenerate slot _ =>
    (place 32 slot).toOption.map fun i => ⟨.ecc i, some ⟨Octets.fit 32 deed.drawn, .generated⟩⟩
  | .eccKeyStore slot _ key => (place 32 slot).toOption.map fun i => ⟨.ecc i, some ⟨key, .stored⟩⟩
  | .eccKeyErase slot => (place 32 slot).toOption.map fun i => ⟨.ecc i, none⟩
  | .mCounterInit index value => (place 16 index).toOption.map fun i => ⟨.counter i, some value⟩
  | _ => none

/-- What a deed puts into this place. -/
def leaves? (deed : Deed) (entry : Entry) : Option entry.Content :=
  deed.fills?.bind (·.at? entry)

/-- The counter that a deed counts down. -/
def counts? (deed : Deed) : Option (Fin 16) :=
  match deed.command with
  | .mCounterUpdate index => (place 16 index).toOption
  | _ => none

end Deed

namespace Vault

/-- What was put last into a place by the deeds, the latest of which is first, or
what stood there before. -/
def left (vault : Vault) (deeds : List Deed) (entry : Entry) : entry.Content :=
  (deeds.findSome? (·.leaves? entry)).getD (vault entry)

/-- How often a counter was counted down since it was set. -/
def updates (deeds : List Deed) (i : Fin 16) : Nat :=
  (deeds.takeWhile fun deed => (deed.leaves? (.counter i)).isNone).countP (·.counts? = some i)

/-- The vault after the deeds, the latest of which is first. -/
def after (vault : Vault) (deeds : List Deed) : Vault
  | .counter i => (vault.left deeds (.counter i)).map (· - UInt32.ofNat (updates deeds i))
  | .pairing slot => vault.left deeds (.pairing slot)
  | .ecc slot => vault.left deeds (.ecc slot)
  | .memory slot => vault.left deeds (.memory slot)

/-! ### One deed -/

section

variable {vault after : Vault} {drawn : Bytes}

theorem place_cases {count : Nat} {number : UInt16} {α : Type}
    {next : Fin count → Except ResultCode α} {a : α} (ok : (place count number >>= next) = .ok a) :
    ∃ i, place count number = .ok i ∧ next i = .ok a := by
  cases found : place count number with
  | error code => rw [found] at ok; cases ok
  | ok i => rw [found] at ok; exact ⟨i, rfl, ok⟩

/-- What an operation can do to the vault: nothing, put something into a place, or
count a counter down. -/
inductive Effect (vault : Vault) (deed : Deed) : Vault → Prop where
  | kept (fills : deed.fills? = none) (counts : deed.counts? = none) : Effect vault deed vault
  | filled (filled : Filled) (fills : deed.fills? = some filled) (counts : deed.counts? = none) :
    Effect vault deed (vault.put filled.entry filled.content)
  | counted (i : Fin 16) (value : UInt32) (fills : deed.fills? = none)
      (counts : deed.counts? = some i) (more : value ≠ 0)
      (held : vault (.counter i) = some value) :
    Effect vault deed (vault.put (.counter i) (some (value - 1)))

theorem insertKey_effect {slot : UInt16} {curve : Curve} {secret : Key} {origin : KeyOrigin}
    {response : Unit} (ok : vault.insertKey slot curve secret origin = .ok (response, after)) :
    ∃ i, place 32 slot = .ok i ∧ after = vault.put (.ecc i) (some ⟨secret, origin⟩) := by
  obtain ⟨i, found, ok⟩ := place_cases ok
  split at ok
  · cases ok
    exact ⟨i, found, rfl⟩
  · cases ok

theorem key_effect {slot : UInt16} {α : Type} {value : EccEntry → α} {response : α}
    (ok : (do let entry ← vault.key slot; return (value entry, vault)) =
      (.ok (response, after) : Except ResultCode (α × Vault))) : after = vault := by
  cases held : vault.key slot with
  | error code => rw [held] at ok; cases ok
  | ok entry => rw [held] at ok; cases ok; rfl

variable [Primitives]

/-- What the operations do. -/
theorem operate_effect {command : Command} {response : command.Response}
    (ok : vault.operate drawn command = .ok (response, after)) :
    Effect vault ⟨command, drawn⟩ after := by
  cases command with
  | ping data => cases ok; exact .kept rfl rfl
  | pairingKeyWrite slot key =>
    simp only [operate] at ok
    split at ok
    · cases ok
      exact .filled ⟨.pairing slot, .written key⟩ rfl rfl
    · cases ok
  | pairingKeyRead slot =>
    simp only [operate] at ok
    split at ok
    · cases ok
      exact .kept rfl rfl
    · cases ok
    · cases ok
  | pairingKeyInvalidate slot =>
    cases ok
    exact .filled ⟨.pairing slot, .invalidated⟩ rfl rfl
  | rMemDataWrite slot data =>
    simp only [operate] at ok
    split at ok
    · cases ok
    · obtain ⟨i, found, ok⟩ := place_cases ok
      split at ok
      · cases ok
        exact .filled ⟨.memory i, some data⟩ (by simp [Deed.fills?, found, Except.toOption]) rfl
      · cases ok
  | rMemDataRead slot =>
    obtain ⟨i, -, ok⟩ := place_cases ok
    cases ok
    exact .kept rfl rfl
  | rMemDataErase slot =>
    obtain ⟨i, found, ok⟩ := place_cases ok
    cases ok
    exact .filled ⟨.memory i, none⟩ (by simp [Deed.fills?, found, Except.toOption]) rfl
  | randomValueGet count => cases ok; exact .kept rfl rfl
  | eccKeyGenerate slot curve =>
    obtain ⟨i, found, rfl⟩ := insertKey_effect ok
    exact .filled ⟨.ecc i, _⟩ (by simp [Deed.fills?, found, Except.toOption]) rfl
  | eccKeyStore slot curve key =>
    obtain ⟨i, found, rfl⟩ := insertKey_effect ok
    exact .filled ⟨.ecc i, _⟩ (by simp [Deed.fills?, found, Except.toOption]) rfl
  | eccKeyRead slot =>
    obtain rfl := key_effect ok
    exact .kept rfl rfl
  | eccKeyErase slot =>
    obtain ⟨i, found, ok⟩ := place_cases ok
    cases ok
    exact .filled ⟨.ecc i, none⟩ (by simp [Deed.fills?, found, Except.toOption]) rfl
  | eddsaSign slot message =>
    obtain rfl := key_effect ok
    exact .kept rfl rfl
  | mCounterInit index value =>
    obtain ⟨i, found, ok⟩ := place_cases ok
    cases ok
    exact .filled ⟨.counter i, some value⟩ (by simp [Deed.fills?, found, Except.toOption]) rfl
  | mCounterUpdate index =>
    obtain ⟨i, found, ok⟩ := place_cases ok
    split at ok
    · cases ok
    · rename_i value held
      split at ok
      · cases ok
      · rename_i more
        cases ok
        exact .counted i value rfl (by simp [Deed.counts?, found, Except.toOption]) more held
  | mCounterGet index =>
    obtain ⟨i, -, ok⟩ := place_cases ok
    split at ok
    · cases ok
    · cases ok
      exact .kept rfl rfl

end

/-! ### Deeds one after the other -/

variable {start next : Vault} {deeds : List Deed} {deed : Deed} {entry : Entry} {i : Fin 16}

/-- The updates of a counter never exceed what it was set to. -/
def Covers (start : Vault) (deeds : List Deed) : Prop :=
  ∀ (i : Fin 16) (value : UInt32), start.left deeds (.counter i) = some value →
    updates deeds i ≤ value.toNat

theorem after_nil (start : Vault) : start.after [] = start := by
  funext entry
  cases entry with
  | counter i =>
    exact (Option.map_congr fun value _ => UInt32.sub_zero value).trans Option.map_id'
  | _ => rfl

theorem left_cons (start : Vault) (deed : Deed) (deeds : List Deed) (entry : Entry) :
    start.left (deed :: deeds) entry = (deed.leaves? entry).getD (start.left deeds entry) := by
  unfold left
  rw [List.findSome?_cons]
  cases deed.leaves? entry <;> rfl

theorem updates_of_leaves {content : Option UInt32}
    (leaves : deed.leaves? (.counter i) = some content) : updates (deed :: deeds) i = 0 := by
  simp [updates, leaves]

theorem updates_of_none (leaves : deed.leaves? (.counter i) = none) :
    updates (deed :: deeds) i = updates deeds i + if deed.counts? = some i then 1 else 0 := by
  simp [updates, leaves, List.countP_cons]

/-- A deed that puts something into a place leaves it there. -/
theorem after_of_leaves {content : entry.Content} (leaves : deed.leaves? entry = some content) :
    start.after (deed :: deeds) entry = content := by
  have left : start.left (deed :: deeds) entry = content := by rw [left_cons, leaves]; rfl
  cases entry with
  | counter i =>
    simp only [after]
    rw [left, updates_of_leaves leaves]
    exact (Option.map_congr fun value _ => UInt32.sub_zero value).trans Option.map_id'
  | _ => exact left

/-- A deed that does nothing to a place leaves there what stood there. -/
theorem after_of_none (leaves : deed.leaves? entry = none)
    (still : ∀ i, entry = .counter i → deed.counts? ≠ some i) :
    start.after (deed :: deeds) entry = start.after deeds entry := by
  have left : start.left (deed :: deeds) entry = start.left deeds entry := by
    rw [left_cons, leaves]; rfl
  cases entry with
  | counter i =>
    simp only [after]
    rw [left, updates_of_none leaves, if_neg (still i rfl), Nat.add_zero]
  | _ => exact left

theorem covers_of_still (covers : Covers start deeds)
    (still : deed.leaves? (.counter i) ≠ none ∨ deed.counts? ≠ some i) {value : UInt32}
    (held : start.left (deed :: deeds) (.counter i) = some value) :
    updates (deed :: deeds) i ≤ value.toNat := by
  cases leaves : deed.leaves? (.counter i) with
  | none =>
    have counts := still.resolve_left (absurd leaves)
    rw [left_cons, leaves] at held
    rw [updates_of_none leaves, if_neg counts]
    exact covers i value held
  | some content =>
    rw [updates_of_leaves leaves]
    exact Nat.zero_le _

theorem leaves_of_fills {filled : Filled} (fills : deed.fills? = some filled) :
    deed.leaves? filled.entry = some filled.content := by
  simp [Deed.leaves?, fills, Filled.at?]

theorem leaves_of_ne {filled : Filled} (fills : deed.fills? = some filled)
    (other : filled.entry ≠ entry) : deed.leaves? entry = none := by
  simp [Deed.leaves?, fills, Filled.at?, other]

/-- What an operation does is what the deed adds to those before it. -/
theorem Effect.after (covers : Covers start deeds) (effect : Effect (start.after deeds) deed next) :
    next = start.after (deed :: deeds) ∧ Covers start (deed :: deeds) := by
  cases effect with
  | kept fills counts =>
    have leaves (entry : Entry) : deed.leaves? entry = none := by simp [Deed.leaves?, fills]
    have still (i : Fin 16) : deed.counts? ≠ some i := by simp [counts]
    exact ⟨funext fun entry => (after_of_none (leaves entry) fun i _ => still i).symm,
      fun i _ held => covers_of_still covers (.inr (still i)) held⟩
  | filled filled fills counts =>
    have still (i : Fin 16) : deed.counts? ≠ some i := by simp [counts]
    refine ⟨funext fun entry => ?_, fun i _ held => covers_of_still covers (.inr (still i)) held⟩
    by_cases here : filled.entry = entry
    · subst here
      rw [after_of_leaves (leaves_of_fills fills), put, Function.update_self]
    · rw [after_of_none (leaves_of_ne fills here) fun i _ => still i, put,
        Function.update_of_ne (Ne.symm here)]
  | counted i value fills counts more held =>
    have leaves (entry : Entry) : deed.leaves? entry = none := by simp [Deed.leaves?, fills]
    obtain ⟨set, left, rfl⟩ := Option.map_eq_some_iff.mp held
    have covered := covers i set left
    have counted : updates (deed :: deeds) i = updates deeds i + 1 := by
      rw [updates_of_none (leaves _), if_pos counts]
    have left' : start.left (deed :: deeds) (.counter i) = some set := by
      rw [left_cons, leaves, left]; rfl
    refine ⟨funext fun entry => ?_, fun j value held' => ?_⟩
    · by_cases here : entry = .counter i
      · subst here
        rw [put, Function.update_self]
        simp only [Vault.after]
        rw [left', counted, Option.map_some, UInt32.ofNat_add]
        exact congrArg some (by grind)
      · rw [put, Function.update_of_ne here, after_of_none (leaves entry)]
        rintro j rfl same
        rw [counts, Option.some.injEq] at same
        exact here (congrArg Entry.counter same.symm)
    · by_cases here : j = i
      · subst here
        rw [left', Option.some.injEq] at held'
        subst held'
        -- A counter that is not used up has been counted down less often than it was set to.
        have spare : updates deeds j ≠ set.toNat := by
          intro used
          rw [used, UInt32.ofNat_toNat, UInt32.sub_self] at more
          exact more rfl
        rw [counted]
        omega
      · refine covers_of_still covers (.inr fun same => ?_) held'
        rw [counts, Option.some.injEq] at same
        exact here same.symm

end Vault

namespace Store

/-! ### Commands one after the other -/

/-- The chip's memory and random source after some commands, and the deeds among
them, the latest first. -/
structure Trail where
  store : Store
  random : RandomSource
  deeds : List Deed

namespace Trail

variable [Primitives]

/-- One command more. -/
def next (trail : Trail) (command : Command) : Trail :=
  let executed := trail.store.execute trail.random command.packet
  { store := executed.2.1
    random := executed.2.2
    deeds :=
      if executed.1.head? = some ResultCode.ok.byte then
        ⟨command, (trail.random.draw (demand command.packet)).1.val⟩ :: trail.deeds
      else trail.deeds }

/-- Commands run one after the other. -/
def run (store : Store) (random : RandomSource) (commands : List Command) : Trail :=
  commands.foldl next ⟨store, random, []⟩

/-- The memory holds what the deeds left. -/
structure Kept (start : Vault) (trail : Trail) : Prop where
  reads : trail.store.vault = start.after trail.deeds
  covers : start.Covers trail.deeds

variable {start : Vault} {trail : Trail}

/-- A command keeps it so: if it succeeds it is a deed, and if not it does nothing. -/
theorem Kept.next (kept : Kept start trail) {command : Command}
    (fits : command.dataLength ≤ command.maxDataLength) : Kept start (trail.next command) := by
  obtain ⟨response, vault, operated, -, success, reads⟩ | ⟨code, -, -, failure, same⟩ :=
    trail.store.execute_refines trail.random fits
  · rw [kept.reads] at operated
    obtain ⟨rfl, covers⟩ := (Vault.operate_effect operated).after kept.covers
    refine ⟨?_, ?_⟩ <;> simp only [Trail.next] <;> rw [if_pos success]
    · exact reads
    · exact covers
  · refine ⟨?_, ?_⟩ <;> simp only [Trail.next] <;> rw [if_neg failure]
    · rw [same]
      exact kept.reads
    · exact kept.covers

theorem kept_foldl (kept : Kept start trail) {commands : List Command}
    (fit : ∀ command ∈ commands, command.dataLength ≤ command.maxDataLength) :
    Kept start (commands.foldl Trail.next trail) := by
  induction commands generalizing trail with
  | nil => exact kept
  | cons command rest ih =>
    exact ih (kept.next (fit command (List.mem_cons_self ..)))
      fun later member => fit later (List.mem_cons_of_mem command member)

theorem kept_run (store : Store) (random : RandomSource) {commands : List Command}
    (fit : ∀ command ∈ commands, command.dataLength ≤ command.maxDataLength) :
    Kept store.vault (run store random commands) := by
  exact kept_foldl ⟨(Vault.after_nil store.vault).symm, fun _ _ _ => Nat.zero_le _⟩ fit

end Trail

/-! ### Agreement -/

/-- Host and chip agree on every command, after any commands. The memory then holds
what the deeds left there: in a place, what was put there last, and in a counter,
what it was set to less the updates since, of which there never were more than
that. The command is encoded, run by the chip and its result decoded: if the
operation on that memory succeeds, so does the command, with the same response and
effect, and if it is refused, so is the command, for the same reason and without
effect. -/
theorem commands_agree [Primitives] (store : Store) (random : RandomSource)
    {commands : List Command} {command : Command}
    (fit : ∀ command ∈ commands, command.dataLength ≤ command.maxDataLength)
    (fits : command.dataLength ≤ command.maxDataLength) :
    let trail := Trail.run store random commands
    let executed := trail.store.execute trail.random command.packet
    let drawn := (trail.random.draw (demand command.packet)).1.val
    trail.store.vault = store.vault.after trail.deeds ∧
    (∀ (i : Fin 16) (value : UInt32), store.vault.left trail.deeds (.counter i) = some value →
      Vault.updates trail.deeds i ≤ value.toNat) ∧
    ((∃ response vault,
        (store.vault.after trail.deeds).operate drawn command = .ok (response, vault) ∧
        command.decodePacket executed.1 = .ok response ∧ executed.2.1.vault = vault) ∨
      ∃ code, (store.vault.after trail.deeds).operate drawn command = .error code ∧
        command.decodePacket executed.1 = .error (.protocol (.result code)) ∧
        executed.2.1 = trail.store) := by
  intro trail executed drawn
  have kept := Trail.kept_run store random fit
  refine ⟨kept.reads, kept.covers, ?_⟩
  rw [show store.vault.after trail.deeds = trail.store.vault from kept.reads.symm]
  obtain ⟨response, vault, operated, decoded, -, reads⟩ | ⟨code, operated, decoded, -, same⟩ :=
    trail.store.execute_refines trail.random fits
  · exact .inl ⟨response, vault, operated, decoded, reads⟩
  · exact .inr ⟨code, operated, decoded, same⟩

/-- Commands that set a counter and count it down twice, and write, empty and write a
memory slot. -/
def sample : List Command :=
  [.mCounterInit 3 5, .mCounterUpdate 3, .rMemDataWrite 7 [1, 2], .rMemDataErase 7,
    .mCounterUpdate 3, .rMemDataWrite 7 [8]]

/-- What they leave on a new chip. -/
def sampled : Trail :=
  Trail.run (Store.fresh (Octets.replicate 32 0)) ⟨fun i => UInt8.ofNat i, 0, none⟩ sample

/-- What an operation on the new chip's memory returns after the deeds of the
sample. -/
def returned (command : Command) : Option command.Response :=
  (((Store.fresh (Octets.replicate 32 0)).vault.after sampled.deeds).operate
    (sampled.random.draw (demand command.packet)).1.val command).toOption.map (·.1)

/-- The counter is read as three and the slot as what was written last. -/
theorem sampled_reads :
    Command.decodePacket (.mCounterGet 3)
        (sampled.store.execute sampled.random (Command.mCounterGet 3).packet).1 = .ok 3 ∧
      Command.decodePacket (.rMemDataRead 7)
        (sampled.store.execute sampled.random (Command.rMemDataRead 7).packet).1 = .ok [8] := by
  have reads {command : Command} (fits : command.dataLength ≤ command.maxDataLength)
      {response : command.Response} (returns : returned command = some response) :
      command.decodePacket (sampled.store.execute sampled.random command.packet).1 =
        .ok response := by
    obtain ⟨-, -, ⟨_, _, operated, decoded, -⟩ | ⟨_, operated, -⟩⟩ :=
      commands_agree (Store.fresh (Octets.replicate 32 0)) ⟨fun i => UInt8.ofNat i, 0, none⟩
        (show ∀ command ∈ sample, command.dataLength ≤ command.maxDataLength by decide) fits
    · have same := congrArg (fun outcome => outcome.toOption.map (·.1)) operated
      cases returns.symm.trans same
      exact decoded
    · have same := congrArg (fun outcome => outcome.toOption.map (·.1)) operated
      cases returns.symm.trans same
  exact ⟨reads (by decide) (by decide +kernel), reads (by decide) (by decide +kernel)⟩

end Store

end SecureElement
