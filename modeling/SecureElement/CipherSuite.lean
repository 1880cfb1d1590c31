import SecureElement.Bytes

/-!
The two cipher suites of the secure channel.

Both encrypt with AES-256 under a 12-byte nonce and a 16-byte tag and derive
their keys alike; the protocol name that starts the key schedule tells them
apart.
-/

namespace SecureElement

/-- How the secure channel encrypts. -/
inductive CipherSuite where
  | aes256Gcm
  | aes256Ccm
deriving DecidableEq, Repr, Inhabited

namespace CipherSuite

/-- The name of a suite in a configuration. -/
def name : CipherSuite → String
  | aes256Gcm => "Aes256Gcm"
  | aes256Ccm => "Aes256Ccm"

/-- The suite of a name. -/
def ofName? : String → Option CipherSuite
  | "Aes256Gcm" => some aes256Gcm
  | "Aes256Ccm" => some aes256Ccm
  | _ => none

/-- The Noise protocol name before padding. -/
def protocolText : CipherSuite → String
  | aes256Gcm => "Noise_KK1_25519_AESGCM_SHA256"
  | aes256Ccm => "Noise_KK1_25519_AESCCM_SHA256"

/-- The Noise protocol name, padded with zeros to 32 bytes. -/
def protocolName (suite : CipherSuite) : Octets 32 :=
  Octets.fit 32 (Bytes.ofText suite.protocolText)

theorem ofName?_name (suite : CipherSuite) : ofName? suite.name = some suite := by
  cases suite <;> rfl

end CipherSuite

end SecureElement
