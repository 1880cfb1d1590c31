import SecureElement.Dongle.Serial

/-!
A serial line that answers from a script and records what happens on it.

Every write takes up the next exchange, whose reply is added to the bytes that
were not read yet. A read takes bytes from the front; if there are too few, those
there are are lost and the read fails as the exchange says. Bytes that were not
read do not outlive the connection: opening the line leaves none.
-/

namespace SecureElement

/-- How the other end reacts to a write. -/
structure SerialExchange where
  reply : Bytes
  /-- The write itself fails. -/
  writeError : Option TransportError
  /-- The first read that wants more than there is fails in this way. -/
  readError : Option TransportError
  /-- Further reads find the end of the line; otherwise they time out. -/
  ended : Bool
deriving DecidableEq, Repr

/-- No reply. -/
def SerialExchange.silent : SerialExchange := ⟨[], none, none, false⟩

/-- A line with the exchanges to come, the exchange that was taken up last, the
bytes that were not read, and the record. -/
structure ScriptedLine where
  connectError : Option String
  exchanges : List SerialExchange
  current : SerialExchange
  unread : Bytes
  log : Array String
deriving DecidableEq, Repr

namespace ScriptedLine

/-- A line before anything happened on it. -/
def start (connectError : Option String) (exchanges : List SerialExchange) : ScriptedLine :=
  ⟨connectError, exchanges, .silent, [], #[]⟩

/-- The text in which written bytes are recorded: a dollar sign for the end of a
line. -/
def lineText (bytes : Bytes) : String :=
  String.ofList (bytes.map fun byte => if byte = 0x0A then '$' else Char.ofNat byte.toNat)

/-- Adds to the record. -/
def record (line : ScriptedLine) (entry : String) : ScriptedLine :=
  { line with log := line.log.push entry }

/-- The record of opening a line. -/
def connectText (device : String) (baudRate : UInt32) : String :=
  s!"open {device} {baudRate.toNat} data=Eight parity=None stop=One flow=None timeout=100"

/-- Opens the line; nothing waits on it then. -/
def connect (line : ScriptedLine) (device : String) (baudRate : UInt32) :
    Except TransportError Unit × ScriptedLine :=
  (match line.connectError with
    | some reason => .error (.bus reason)
    | none => .ok (),
    { line.record (connectText device baudRate) with unread := [] })

/-- Takes up the next exchange. -/
def write (line : ScriptedLine) (bytes : Bytes) : Except TransportError Unit × ScriptedLine :=
  let current := line.exchanges.headD .silent
  let line := { line.record ("write " ++ lineText bytes) with
    exchanges := line.exchanges.tail, current }
  match current.writeError with
  | some cause => (.error cause, line)
  | none => (.ok (), { line with unread := line.unread ++ current.reply })

/-- Why a read fails that wants more than there is. -/
def shortage (exchange : SerialExchange) : TransportError :=
  match exchange.readError with
  | some cause => cause
  | none => if exchange.ended then .bus "failed to fill whole buffer" else .timeout

/-- Reads bytes from the front. -/
def read (line : ScriptedLine) (count : Nat) :
    Except TransportError (Octets count) × ScriptedLine :=
  let rest := { line with unread := line.unread.drop count }
  match Octets.ofBytes? count (line.unread.take count) with
  | some bytes => (.ok bytes, rest)
  | none => (.error (shortage line.current), { rest with current.readError := none })

instance : SerialLine ScriptedLine where
  connect device baudRate := ExceptT.mk fun line => line.connect device baudRate
  clear := modify fun line => line.record "clear All"
  write bytes := ExceptT.mk fun line => line.write bytes
  read count := ExceptT.mk fun line => line.read count
  disconnect := modify fun line => line.record "close"

end ScriptedLine

end SecureElement
