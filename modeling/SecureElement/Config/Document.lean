import SecureElement.Config
import SecureElement.Json

/-!
Configurations as JSON documents.

A configuration is an object in which every field may be missing and names that
are no field are ignored, or an array of the fields in order from which the end
may be missing. What is missing has its default. A field may be given once, and
the names have to be readable.
-/

namespace SecureElement.Config

/-- The names of the fields, in order. -/
def fieldNames : List String :=
  ["l3_buffer_len", "transfer_timeout_ms", "read_max_tries", "read_retry_delay_ms",
    "turnaround_delay_ms", "transport_retries", "retry_delay_ms", "suite",
    "allow_weak_entropy"]

/-- Reads a number of 64 bits. -/
def readWord64? : Json → Option UInt64
  | .natural value => if value < UInt64.size then some (UInt64.ofNat value) else none
  | _ => none

/-- Reads a number of 32 bits. -/
def readWord32? : Json → Option UInt32
  | .natural value => if value < UInt32.size then some (UInt32.ofNat value) else none
  | _ => none

/-- Reads a truth value. -/
def readBool? : Json → Option Bool
  | .bool value => some value
  | _ => none

/-- Reads a suite: its name, or an object with its name and nothing. -/
def readSuite? : Json → Option CipherSuite
  | .string (some name) => CipherSuite.ofName? name
  | .object [(some name, .null)] => CipherSuite.ofName? name
  | _ => none

/-- The configuration with a field set. -/
def setField? (config : Config) (name : String) (value : Json) : Option Config :=
  match name with
  | "l3_buffer_len" => (readWord64? value).map fun v => { config with packetCapacity := v }
  | "transfer_timeout_ms" => (readWord32? value).map fun v => { config with transferTimeout := v }
  | "read_max_tries" => (readWord32? value).map fun v => { config with readMaxTries := v }
  | "read_retry_delay_ms" => (readWord32? value).map fun v => { config with readRetryDelay := v }
  | "turnaround_delay_ms" => (readWord32? value).map fun v => { config with turnaroundDelay := v }
  | "transport_retries" => (readWord32? value).map fun v => { config with transportRetries := v }
  | "retry_delay_ms" => (readWord32? value).map fun v => { config with retryDelay := v }
  | "suite" => (readSuite? value).map fun v => { config with suite := v }
  | "allow_weak_entropy" => (readBool? value).map fun v => { config with allowWeakEntropy := v }
  | _ => none

/-- Sets the fields that the members give; `seen` are those given before. -/
def setMembers? (config : Config) (seen : List String) :
    List (Option String × Json) → Option Config
  | [] => some config
  | (none, _) :: _ => none
  | (some name, value) :: rest =>
    if name ∈ fieldNames then
      if name ∈ seen then none
      else do (← config.setField? name value).setMembers? (name :: seen) rest
    else config.setMembers? seen rest

/-- Sets fields in order. -/
def setItems? (config : Config) : (names : List String) → List Json → Option Config
  | _, [] => some config
  | [], _ :: _ => none
  | name :: names, value :: rest => do (← config.setField? name value).setItems? names rest

/-- The configuration of a JSON value. -/
def ofJson? : Json → Option Config
  | .object members => setMembers? {} [] members
  | .array items => setItems? {} fieldNames items
  | _ => none

/-- Reads a configuration from a JSON document. -/
def read? (text : String) : Option Config := do
  ofJson? (← Json.read? text)

end SecureElement.Config
