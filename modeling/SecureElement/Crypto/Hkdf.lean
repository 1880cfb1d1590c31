import SecureElement.Crypto.Sha2

/-!
Keyed hashing and key derivation: HMAC and HKDF over SHA-256.
-/

namespace SecureElement.Crypto

/-- HMAC-SHA256: the key, hashed first if it is longer than a block, is masked
in two ways for an inner and an outer hash. -/
def hmac (key message : Bytes) : Octets 32 :=
  let short := if key.length > 64 then (sha256 key).val else key
  let padded := (Octets.fit 64 short).val
  let inner := sha256 (padded.map (· ^^^ 0x36) ++ message)
  sha256 (padded.map (· ^^^ 0x5C) ++ inner.val)

/-- HKDF with `salt` and no further information, cut after two blocks: the
input is condensed to a key under which the two blocks are computed in turn. -/
def hkdfPair (salt input : Bytes) : Octets 32 × Octets 32 :=
  let condensed := (hmac salt input).val
  let first := hmac condensed [1]
  (first, hmac condensed (first.val ++ [2]))

end SecureElement.Crypto
