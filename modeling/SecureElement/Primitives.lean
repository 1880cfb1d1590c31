import SecureElement.CipherSuite

/-!
The cryptography that the secure channel and the chip are built on.

The stack needs these operations and nothing else of cryptography. Lengths are
part of their types; encryption keeps the length of the text.
-/

namespace SecureElement

/-- A symmetric key, a private key or a public key. -/
abbrev Key := Octets 32

/-- A nonce. -/
abbrev Nonce := Octets 12

/-- An authentication tag. -/
abbrev Tag := Octets 16

/-- The operations of a cryptographic library. -/
class Primitives where
  /-- Encrypts a text with additional data; `none` where the suite has no
  encryption of the text. -/
  encrypt? (suite : CipherSuite) (key : Key) (nonce : Nonce) (additional plain : Bytes) :
    Option (Bytes × Tag)
  /-- Decrypts a text whose tag verifies. -/
  decrypt? (suite : CipherSuite) (key : Key) (nonce : Nonce) (additional cipher : Bytes)
    (tag : Tag) : Option Bytes
  /-- Hashes a message. -/
  hash (message : Bytes) : Octets 32
  /-- Derives two keys from a chaining key and an input. -/
  derive (chaining : Key) (input : Bytes) : Key × Key
  /-- The public key of a private key for key agreement. -/
  publicKey (key : Key) : Key
  /-- The secret shared by the owner of a private key and that of a public key. -/
  agree (key peer : Key) : Key
  /-- The public key of a private key for signatures. -/
  verifyingKey (key : Key) : Key
  /-- Signs a message. -/
  sign (key : Key) (message : Bytes) : Octets 64
  length_encrypt? {suite : CipherSuite} {key : Key} {nonce : Nonce} {additional plain cipher : Bytes}
    {tag : Tag} : encrypt? suite key nonce additional plain = some (cipher, tag) →
      cipher.length = plain.length
  length_decrypt? {suite : CipherSuite} {key : Key} {nonce : Nonce} {additional cipher plain : Bytes}
    {tag : Tag} : decrypt? suite key nonce additional cipher tag = some plain →
      plain.length = cipher.length

end SecureElement
