import SecureElement.Crypto.CounterMode

/-!
AES-256-CCM with a 12-byte nonce and a 16-byte tag.

The tag is a chained block cipher checksum over a first block that encodes the
lengths, the additional data and the text. The nonce leaves three bytes for the
length of the text, so a text of 2^24 bytes or more has no encryption.
-/

namespace SecureElement.Crypto.Ccm

open Aes (Block Schedule encipher)

/-- The length from which on a text cannot be encrypted. -/
def lengthBound : Nat := 1 <<< 24

/-- The first block of the checksum: the shape of the message, the nonce and the
length of the text. -/
def firstBlock (nonce : Octets 12) (additional plain : Bytes) : Bytes :=
  (if additional = [] then 0x3A else 0x7A) :: nonce.val ++ Bytes.bigEndian 3 plain.length

/-- Additional data with its length in front: two bytes below 65280, else a mark
and four. -/
def framed (additional : Bytes) : Bytes :=
  if additional = [] then []
  else if additional.length < 0xFF00 then Bytes.bigEndian 2 additional.length ++ additional
  else 0xFF :: 0xFE :: Bytes.bigEndian 4 additional.length ++ additional

/-- Chains the `count` blocks of a text into a checksum, the last one filled up
with zeros. -/
def chain (keys : Schedule) : (count : Nat) → Bytes → Block → Block
  | 0, _, sum => sum
  | count + 1, bytes, sum =>
    chain keys count (bytes.drop 16) (encipher keys (sum.xor (Block.ofBytes bytes)))

/-- Chains all blocks of a text. -/
def chainAll (keys : Schedule) (bytes : Bytes) (sum : Block) : Block :=
  chain keys (blockCount bytes.length) bytes sum

/-- The counter block `index` of a nonce. -/
def counterBlock (nonce : Octets 12) (index : Nat) : Block :=
  Block.ofBytes (0x02 :: nonce.val ++ Bytes.bigEndian 3 index)

/-- Masks a text; the text begins with counter block 1. -/
def masking (keys : Schedule) (nonce : Octets 12) (text : Bytes) : Bytes :=
  mask keys (fun i => counterBlock nonce (i + 1)) text

/-- The tag of a text with additional data. -/
def tag (keys : Schedule) (nonce : Octets 12) (additional plain : Bytes) : Octets 16 :=
  let start := chainAll keys (firstBlock nonce additional plain) ⟨0, 0, 0, 0⟩
  let sum := chainAll keys plain (chainAll keys (framed additional) start)
  ⟨(sum.xor (encipher keys (counterBlock nonce 0))).toBytes, rfl⟩

/-- Encrypts a text short enough; additional data is authenticated only. -/
def encrypt? (key : Octets 32) (nonce : Octets 12) (additional plain : Bytes) :
    Option (Bytes × Octets 16) :=
  if plain.length < lengthBound then
    let keys := Schedule.ofKey key
    some (sealWith (masking keys nonce) (fun text _ => tag keys nonce additional text) plain)
  else none

/-- Decrypts a text whose tag verifies. -/
def decrypt? (key : Octets 32) (nonce : Octets 12) (additional cipher : Bytes)
    (received : Octets 16) : Option Bytes :=
  if cipher.length < lengthBound then
    let keys := Schedule.ofKey key
    openWith (masking keys nonce) (fun text _ => tag keys nonce additional text) cipher received
  else none

theorem length_of_encrypt? {key : Octets 32} {nonce : Octets 12} {additional plain cipher : Bytes}
    {made : Octets 16} (h : encrypt? key nonce additional plain = some (cipher, made)) :
    cipher.length = plain.length := by
  unfold encrypt? at h
  split at h
  · simp only [sealWith, Option.some.injEq, Prod.mk.injEq] at h
    simp [← h.1, masking]
  · simp at h

theorem masking_masking (keys : Schedule) (nonce : Octets 12) (text : Bytes) :
    masking keys nonce (masking keys nonce text) = text :=
  mask_mask keys _ text

/-- Decryption accepts exactly what encryption produces. -/
theorem decrypt?_eq_some_iff {key : Octets 32} {nonce : Octets 12} {additional cipher plain : Bytes}
    {received : Octets 16} :
    decrypt? key nonce additional cipher received = some plain ↔
      encrypt? key nonce additional plain = some (cipher, received) := by
  have both : openWith (masking (Schedule.ofKey key) nonce)
      (fun text _ => tag (Schedule.ofKey key) nonce additional text) cipher received = some plain ↔
      (cipher, received) = sealWith (masking (Schedule.ofKey key) nonce)
        (fun text _ => tag (Schedule.ofKey key) nonce additional text) plain :=
    openWith_eq_some_iff (masking_masking (Schedule.ofKey key) nonce)
  constructor
  · intro h
    unfold decrypt? at h
    split at h
    · rename_i short
      have made := both.mp h
      have same : cipher.length = plain.length := by
        have := congrArg (fun pair => pair.1.length) made
        simpa [sealWith, masking] using this
      simp only [encrypt?, if_pos (same ▸ short), ← made]
    · simp at h
  · intro h
    have same := length_of_encrypt? h
    unfold encrypt? at h
    split at h
    · rename_i short
      simp only [Option.some.injEq] at h
      simp only [decrypt?, if_pos (same ▸ short)]
      exact both.mpr h.symm
    · simp at h

end SecureElement.Crypto.Ccm
