import SecureElement.Crypto.CounterMode
import SecureElement.Crypto.Field128

/-!
AES-256-GCM with a 12-byte nonce and a 16-byte tag.

The tag is a polynomial hash over GF(2^128) of the additional data and the
ciphertext, masked with the enciphered first counter block.
-/

namespace SecureElement.Crypto.Gcm

open Aes (Block Schedule encipher)

/-- Takes the `count` blocks of a text into a hash, the last one filled up with
zeros. -/
def absorb (key : Field128) : (count : Nat) → Bytes → Field128 → Field128
  | 0, _, sum => sum
  | count + 1, bytes, sum =>
    absorb key count (bytes.drop 16) ((sum.add (.ofBlock (Block.ofBytes bytes))).multiply key)

/-- Takes all blocks of a text into a hash. -/
def absorbAll (key : Field128) (bytes : Bytes) (sum : Field128) : Field128 :=
  absorb key (blockCount bytes.length) bytes sum

/-- The polynomial hash of additional data and ciphertext under `key`; the last
block holds their lengths in bits. -/
def polynomialHash (key : Field128) (additional cipher : Bytes) : Field128 :=
  let lengths : Field128 :=
    ⟨UInt64.ofNat (8 * additional.length), UInt64.ofNat (8 * cipher.length)⟩
  ((absorbAll key cipher (absorbAll key additional .zero)).add lengths).multiply key

/-- The counter block `index` of a nonce. -/
def counterBlock (nonce : Octets 12) (index : Nat) : Block :=
  Block.ofBytes (nonce.val ++ Bytes.bigEndian 4 index)

/-- Masks a text; the text begins with counter block 2. -/
def masking (keys : Schedule) (nonce : Octets 12) (text : Bytes) : Bytes :=
  mask keys (fun i => counterBlock nonce (i + 2)) text

/-- The tag of a ciphertext with additional data. -/
def tag (keys : Schedule) (nonce : Octets 12) (additional cipher : Bytes) : Octets 16 :=
  let key := Field128.ofBlock (encipher keys ⟨0, 0, 0, 0⟩)
  let hash := (polynomialHash key additional cipher).toBlock
  ⟨(hash.xor (encipher keys (counterBlock nonce 1))).toBytes, rfl⟩

/-- Encrypts a text; additional data is authenticated only. -/
def encrypt (key : Octets 32) (nonce : Octets 12) (additional plain : Bytes) :
    Bytes × Octets 16 :=
  let keys := Schedule.ofKey key
  sealWith (masking keys nonce) (fun _ cipher => tag keys nonce additional cipher) plain

/-- Decrypts a text whose tag verifies. -/
def decrypt? (key : Octets 32) (nonce : Octets 12) (additional cipher : Bytes)
    (received : Octets 16) : Option Bytes :=
  let keys := Schedule.ofKey key
  openWith (masking keys nonce) (fun _ cipher => tag keys nonce additional cipher) cipher received

theorem length_encrypt (key : Octets 32) (nonce : Octets 12) (additional plain : Bytes) :
    (encrypt key nonce additional plain).1.length = plain.length := by
  simp [encrypt, sealWith, masking]

theorem masking_masking (keys : Schedule) (nonce : Octets 12) (text : Bytes) :
    masking keys nonce (masking keys nonce text) = text :=
  mask_mask keys _ text

/-- Decryption accepts exactly what encryption produces. -/
theorem decrypt?_eq_some_iff {key : Octets 32} {nonce : Octets 12} {additional cipher plain : Bytes}
    {received : Octets 16} :
    decrypt? key nonce additional cipher received = some plain ↔
      (cipher, received) = encrypt key nonce additional plain := by
  simp only [decrypt?, encrypt]
  exact openWith_eq_some_iff (masking_masking (Schedule.ofKey key) nonce)

end SecureElement.Crypto.Gcm
