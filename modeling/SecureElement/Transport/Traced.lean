import SecureElement.Transport

/-!
A transport that keeps a record of what is asked of it.

The record has one entry per call, in order, and a call is entered whether or not
it succeeds. Exchanges that are refused for their bounds never reach a transport
and so leave no entry. The recorded transport behaves as it would without the
record.
-/

namespace SecureElement

/-- A call to a transport. -/
inductive Call where
  | init
  | release
  | select
  | deselect
  /-- An exchange, with the bytes as they were before it. -/
  | transfer (offset : Nat) (timeout : UInt32) (region : Bytes)
  | delay (duration : UInt32)
  | random (count : Nat)
deriving DecidableEq, Repr

/-- A call in one line. -/
def Call.text : Call → String
  | init => "init"
  | release => "release"
  | select => "select"
  | deselect => "deselect"
  | transfer offset timeout region => s!"transfer @{offset} t{timeout.toNat} " ++ Hex.encode region
  | delay duration => s!"delay {duration.toNat}"
  | random count => s!"random {count}"

/-- A transport and the calls that it received, the latest last. -/
structure Traced (σ : Type) where
  transport : σ
  calls : Array Call

namespace Traced

variable {σ : Type}

/-- Enters a call and passes it on. -/
def record {α : Type} (call : Call) (act : StateM σ α) : StateM (Traced σ) α := fun traced =>
  let (result, transport) := act.run traced.transport
  (result, { transport, calls := traced.calls.push call })

variable [Transport σ]

instance : Transport (Traced σ) where
  init := ExceptT.mk (record .init (Transport.init (σ := σ)).run)
  release := ExceptT.mk (record .release (Transport.release (σ := σ)).run)
  select := ExceptT.mk (record .select (Transport.select (σ := σ)).run)
  deselect := ExceptT.mk (record .deselect (Transport.deselect (σ := σ)).run)
  exchange offset region timeout :=
    record (.transfer offset timeout region) (Transport.exchange offset region timeout)
  delay duration := record (.delay duration) (Transport.delay duration)
  random count := ExceptT.mk (record (.random count) (Transport.random (σ := σ) count).run)
  entropy traced := Transport.entropy traced.transport
  length_exchange offset region timeout traced :=
    Transport.length_exchange offset region timeout traced.transport

end Traced

end SecureElement
