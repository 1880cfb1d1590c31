import SecureElement.Transport

/-!
A transport that plays windows written down beforehand.

Each window gives the bytes that come in and where it fails. A window is taken up
when chip select is asserted; when none are left, windows are empty. Within a
window every byte that goes out is answered by the next byte that comes in, and
by zero when they have run out.
-/

namespace SecureElement

namespace Script

/-- A window: the bytes to come in and the failures to come. -/
structure Window where
  incoming : Bytes
  select : Option TransportError
  deselect : Option TransportError
  /-- How each transfer goes; further ones succeed. -/
  transfers : List (Option TransportError)
deriving DecidableEq, Repr

/-- A window without failures. -/
def Window.plain (incoming : Bytes) : Window := ⟨incoming, none, none, []⟩

end Script

/-- What is left to play, with the window that is being played in front. -/
structure Script where
  current : Script.Window
  windows : List Script.Window
  /-- The random bytes to come. -/
  random : Bytes
  entropy : Entropy
  init : Option TransportError
  release : Option TransportError
deriving DecidableEq, Repr

namespace Script

/-- Fails for the given cause, if there is one. -/
def outcome (cause : Option TransportError) : Except TransportError Unit :=
  match cause with
  | some cause => .error cause
  | none => .ok ()

/-- Takes up the next window. -/
def advance (script : Script) : Except TransportError Unit × Script :=
  let window := script.windows.headD (.plain [])
  (outcome window.select,
    { script with current := { window with select := none }, windows := script.windows.tail })

/-- Ends the current window; its failure to do so happens once. -/
def close (script : Script) : Except TransportError Unit × Script :=
  (outcome script.current.deselect, { script with current.deselect := none })

/-- Exchanges bytes for the next ones to come in, unless the transfer fails. -/
def clock (script : Script) (region : Bytes) : (Except TransportError Unit × Bytes) × Script :=
  match script.current.transfers with
  | some cause :: rest => ((.error cause, region), { script with current.transfers := rest })
  | transfers =>
    ((.ok (), (Octets.fit region.length script.current.incoming).val),
      { script with
        current.transfers := transfers.tail
        current.incoming := script.current.incoming.drop region.length })

/-- Takes random bytes; if there are too few, those there are are used up. -/
def draw (script : Script) (count : Nat) : Except TransportError (Octets count) × Script :=
  let rest := { script with random := script.random.drop count }
  match Octets.ofBytes? count (script.random.take count) with
  | some bytes => (.ok bytes, rest)
  | none => (.error (.bus "no random bytes left"), rest)

instance : Transport Script where
  init := ExceptT.mk fun script => (outcome script.init, script)
  release := ExceptT.mk fun script => (outcome script.release, script)
  select := ExceptT.mk advance
  deselect := ExceptT.mk close
  exchange _ region _ := fun script => script.clock region
  delay _ := pure ()
  random count := ExceptT.mk fun script => script.draw count
  entropy script := script.entropy
  length_exchange _ region _ script := by
    unfold clock
    split
    · rfl
    · exact (Octets.fit region.length _).property

end Script

end SecureElement
