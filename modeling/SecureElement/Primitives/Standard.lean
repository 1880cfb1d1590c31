import SecureElement.Crypto.Ccm
import SecureElement.Crypto.Ed25519
import SecureElement.Crypto.Gcm
import SecureElement.Crypto.Hkdf
import SecureElement.Crypto.X25519
import SecureElement.Primitives

/-!
The cryptography that the chip speaks: AES-256-GCM and AES-256-CCM, SHA-256,
HKDF, X25519 and Ed25519.

Decryption accepts exactly what encryption produces
(`Standard.decrypt?_eq_some_iff`).
-/

namespace SecureElement

namespace Standard

open Crypto

/-- Encryption in either suite. -/
def encrypt? (suite : CipherSuite) (key : Key) (nonce : Nonce) (additional plain : Bytes) :
    Option (Bytes × Tag) :=
  match suite with
  | .aes256Gcm => some (Gcm.encrypt key nonce additional plain)
  | .aes256Ccm => Ccm.encrypt? key nonce additional plain

/-- Decryption in either suite. -/
def decrypt? (suite : CipherSuite) (key : Key) (nonce : Nonce) (additional cipher : Bytes)
    (tag : Tag) : Option Bytes :=
  match suite with
  | .aes256Gcm => Gcm.decrypt? key nonce additional cipher tag
  | .aes256Ccm => Ccm.decrypt? key nonce additional cipher tag

/-- Decryption accepts exactly what encryption produces. -/
theorem decrypt?_eq_some_iff {suite : CipherSuite} {key : Key} {nonce : Nonce}
    {additional cipher plain : Bytes} {tag : Tag} :
    decrypt? suite key nonce additional cipher tag = some plain ↔
      encrypt? suite key nonce additional plain = some (cipher, tag) := by
  cases suite with
  | aes256Gcm =>
    simp only [decrypt?, encrypt?, Gcm.decrypt?_eq_some_iff, Option.some.injEq]
    exact eq_comm
  | aes256Ccm => exact Ccm.decrypt?_eq_some_iff

theorem length_of_encrypt? {suite : CipherSuite} {key : Key} {nonce : Nonce}
    {additional plain cipher : Bytes} {tag : Tag}
    (h : encrypt? suite key nonce additional plain = some (cipher, tag)) :
    cipher.length = plain.length := by
  cases suite with
  | aes256Gcm =>
    simp only [encrypt?, Option.some.injEq] at h
    rw [← Gcm.length_encrypt key nonce additional plain, h]
  | aes256Ccm => exact Ccm.length_of_encrypt? h

end Standard

/-- The standard algorithms. -/
instance standardPrimitives : Primitives where
  encrypt? := Standard.encrypt?
  decrypt? := Standard.decrypt?
  hash := Crypto.sha256
  derive chaining input := Crypto.hkdfPair chaining.val input
  publicKey := Crypto.X25519.publicKey
  agree := Crypto.X25519.agree
  verifyingKey := Crypto.Ed25519.publicKey
  sign := Crypto.Ed25519.sign
  length_encrypt? := Standard.length_of_encrypt?
  length_decrypt? h :=
    (Standard.length_of_encrypt? (Standard.decrypt?_eq_some_iff.mp h)).symm

end SecureElement
