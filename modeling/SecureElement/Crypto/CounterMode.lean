import SecureElement.Crypto.Aes

/-!
Counter mode: a text is masked with a stream of enciphered counter blocks.

Masking is its own inverse (`mask_mask`) and keeps the length of the text
(`length_mask`), which is all that authenticated encryption needs of it. The
authenticated modes share the shape of `sealWith` and `openWith`: the tag is a
function of the ciphertext and the text, and opening accepts exactly what
sealing produces (`openWith_eq_some_iff`).
-/

namespace SecureElement.Crypto

open Aes (Block Schedule encipher)

/-- The enciphered counter blocks from `index` on, `count` of them. -/
def keystream (keys : Schedule) (counters : Nat → Block) : (count index : Nat) → Bytes
  | 0, _ => []
  | count + 1, index =>
    (encipher keys (counters index)).toBytes ++ keystream keys counters count (index + 1)

/-- Masks `count` blocks of a text with the stream from `index` on and puts them
behind what is done. -/
def maskBlocks (keys : Schedule) (counters : Nat → Block) :
    (count index : Nat) → (text : Bytes) → (done : Array UInt8) → Array UInt8
  | 0, _, _, done => done
  | count + 1, index, text, done =>
    maskBlocks keys counters count (index + 1) (text.drop 16)
      (done ++ Bytes.xor (text.take 16) (encipher keys (counters index)).toBytes)

/-- The number of blocks that hold `length` bytes. -/
def blockCount (length : Nat) : Nat := (length + 15) / 16

/-- Masks a text with the stream of `counters`. -/
def mask (keys : Schedule) (counters : Nat → Block) (text : Bytes) : Bytes :=
  (maskBlocks keys counters (blockCount text.length) 0 text (Array.emptyWithCapacity text.length)).toList

theorem length_keystream (keys : Schedule) (counters : Nat → Block) (count index : Nat) :
    (keystream keys counters count index).length = 16 * count := by
  induction count generalizing index with
  | zero => rfl
  | succ count ih =>
    simp only [keystream, List.length_append, Block.length_toBytes, ih]
    omega

/-- Masking goes block by block. -/
theorem toList_maskBlocks (keys : Schedule) (counters : Nat → Block) (count index : Nat)
    (text : Bytes) (done : Array UInt8) :
    (maskBlocks keys counters count index text done).toList =
      done.toList ++ Bytes.xor text (keystream keys counters count index) := by
  induction count generalizing index text done with
  | zero => simp [maskBlocks, keystream, Bytes.xor]
  | succ count ih =>
    simp only [maskBlocks, keystream, ih, Array.toList_appendList, List.append_assoc]
    congr 1
    exact (Bytes.xor_append (Block.length_toBytes _)).symm

/-- A masked text is the text with the stream laid over it. -/
theorem mask_eq_xor (keys : Schedule) (counters : Nat → Block) (text : Bytes) :
    mask keys counters text =
      Bytes.xor text (keystream keys counters (blockCount text.length) 0) := by
  simp [mask, toList_maskBlocks]

theorem length_le_keystream (keys : Schedule) (counters : Nat → Block) (text : Bytes) :
    text.length ≤ (keystream keys counters (blockCount text.length) 0).length := by
  rw [length_keystream, blockCount]
  omega

@[simp] theorem length_mask (keys : Schedule) (counters : Nat → Block) (text : Bytes) :
    (mask keys counters text).length = text.length := by
  rw [mask_eq_xor, Bytes.length_xor]
  exact Nat.min_eq_left (length_le_keystream keys counters text)

/-- Masking twice restores the text. -/
theorem mask_mask (keys : Schedule) (counters : Nat → Block) (text : Bytes) :
    mask keys counters (mask keys counters text) = text := by
  rw [mask_eq_xor keys counters (mask keys counters text), length_mask, mask_eq_xor]
  exact Bytes.xor_xor (length_le_keystream keys counters text)

/-! ### Authenticated encryption from a mask and a tag -/

/-- The masked text together with the tag computed from the text and its mask. -/
def sealWith (masking : Bytes → Bytes) (tag : Bytes → Bytes → Octets 16) (plain : Bytes) :
    Bytes × Octets 16 :=
  (masking plain, tag plain (masking plain))

/-- The unmasked text, provided the tag is the one that belongs to it. -/
def openWith (masking : Bytes → Bytes) (tag : Bytes → Bytes → Octets 16) (cipher : Bytes)
    (received : Octets 16) : Option Bytes :=
  if tag (masking cipher) cipher = received then some (masking cipher) else none

/-- Opening accepts exactly what sealing produces. -/
theorem openWith_eq_some_iff {masking : Bytes → Bytes} {tag : Bytes → Bytes → Octets 16}
    (involutive : ∀ text, masking (masking text) = text) {cipher plain : Bytes}
    {received : Octets 16} :
    openWith masking tag cipher received = some plain ↔
      (cipher, received) = sealWith masking tag plain := by
  simp only [openWith, sealWith, Prod.mk.injEq]
  constructor
  · intro h
    split at h
    · rename_i matching
      simp only [Option.some.injEq] at h
      subst h
      exact ⟨(involutive cipher).symm, by rw [involutive]; exact matching.symm⟩
    · simp at h
  · rintro ⟨rfl, rfl⟩
    simp [involutive]

end SecureElement.Crypto
