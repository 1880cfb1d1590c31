import SecureElement.CipherSuite

/-!
The tunables of a device.
-/

namespace SecureElement

/-- Sizes, times and policies; times are in milliseconds. -/
structure Config where
  /-- The capacity of the packet buffer. -/
  packetCapacity : UInt64 := 4130
  /-- The time that a transfer may take. -/
  transferTimeout : UInt32 := 70
  /-- How often the chip is polled before a read gives up. -/
  readMaxTries : UInt32 := 50
  /-- The wait between two polls of a busy chip. -/
  readRetryDelay : UInt32 := 25
  /-- The wait after a request. -/
  turnaroundDelay : UInt32 := 0
  /-- How many more attempts follow a failure of the transport. -/
  transportRetries : UInt32 := 3
  /-- The wait before each of them. -/
  retryDelay : UInt32 := 10
  /-- How the secure channel encrypts. -/
  suite : CipherSuite := .aes256Gcm
  /-- Whether a handshake may draw its ephemeral key from a weak source. -/
  allowWeakEntropy : Bool := false
deriving DecidableEq, Repr, Inhabited

end SecureElement
