import Mathlib.Data.Nat.Find
import SecureElement.Proofs.Checked.Device
import SecureElement.Proofs.Handshakes

/-!
The chip's key in its certificate.

A certificate carries the 32 bytes behind the first mark as a key, and none if there are
fewer. The search looks no further than the first mark, and need not: if there is a mark
with a whole key behind it, then there is one behind every mark before it
(`Info.exists_staticKey_iff`). On a wire without faults the host reads the certificate of
its chip block by block, and finds in it the static key of the chip, whatever the bytes of
that key are (`Device.certificate_carries_key`).
-/

namespace SecureElement

/-! ### The search -/

namespace Info

variable {certificate : Bytes} {index : Nat} {key : Key}

/-- The mark stands in a certificate, from an index on. -/
def MarkedAt (certificate : Bytes) (index : Nat) : Prop := keyMark <+: certificate.drop index

/-- The mark stands at an index and nowhere before it. -/
def FirstMark (certificate : Bytes) (index : Nat) : Prop :=
  MarkedAt certificate index ∧ ∀ before < index, ¬MarkedAt certificate before

/-- A mark has 32 bytes behind it. -/
def KeyAt (certificate : Bytes) (index : Nat) : Prop :=
  MarkedAt certificate index ∧ index + keyMark.length + 32 ≤ certificate.length

instance : Decidable (MarkedAt certificate index) :=
  inferInstanceAs (Decidable (_ <+: _))

instance : Decidable (FirstMark certificate index) :=
  inferInstanceAs (Decidable (_ ∧ _))

theorem exists_firstMark (marked : MarkedAt certificate index) :
    ∃ first, FirstMark certificate first := by
  have some : ∃ index, MarkedAt certificate index := ⟨index, marked⟩
  exact ⟨Nat.find some, Nat.find_spec some, fun _ => Nat.find_min some⟩

theorem FirstMark.le {other : Nat} (first : FirstMark certificate index)
    (marked : MarkedAt certificate other) : index ≤ other :=
  Nat.le_of_not_lt fun before => first.2 other before marked

/-- The search finds the first mark. -/
theorem markIndex?_eq_some_iff :
    markIndex? certificate = some index ↔ FirstMark certificate index := by
  induction certificate generalizing index with
  | nil =>
    have unmarked : ¬MarkedAt [] index := by simp [MarkedAt, keyMark]
    constructor
    · intro found
      cases found
    · exact fun first => absurd first.1 unmarked
  | cons byte rest ih =>
    have start : MarkedAt (byte :: rest) 0 ↔ keyMark.isPrefixOf (byte :: rest) = true :=
      List.isPrefixOf_iff_prefix.symm
    rw [markIndex?]
    split
    case isTrue starts =>
      constructor
      · rintro ⟨⟩
        exact ⟨start.mpr starts, fun before near => absurd near (Nat.not_lt_zero before)⟩
      · intro first
        rw [Nat.le_zero.mp (first.le (start.mpr starts))]
    case isFalse other =>
      cases index with
      | zero => simp [FirstMark, start, other]
      | succ index =>
        have later : FirstMark (byte :: rest) (index + 1) ↔ FirstMark rest index := by
          refine and_congr Iff.rfl ⟨fun none before near => ?_, fun none before near => ?_⟩
          · exact none (before + 1) (Nat.succ_lt_succ near)
          · cases before with
            | zero => exact mt start.mp other
            | succ before => exact none before (Nat.lt_of_succ_lt_succ near)
        rw [later, ← ih]
        simp

theorem staticKey_of_firstMark (first : FirstMark certificate index) :
    staticKey certificate =
      match Octets.ofBytes? 32 (certificate.slice (index + keyMark.length) 32) with
      | none => .error .noStaticKey
      | some key => .ok key := by
  rw [staticKey, afterMark?_eq, markIndex?_eq_some_iff.mpr first]
  rfl

/-- The key of a certificate is what follows the first mark. -/
theorem staticKey_eq_ok_iff :
    staticKey certificate = .ok key ↔
      ∃ first, FirstMark certificate first ∧
        key.val = certificate.slice (first + keyMark.length) 32 := by
  constructor
  · intro found
    cases searched : markIndex? certificate with
    | none =>
      rw [staticKey, afterMark?_eq, searched] at found
      cases found
    | some first =>
      have marked := markIndex?_eq_some_iff.mp searched
      rw [staticKey_of_firstMark marked] at found
      split at found
      · cases found
      · rename_i carried
        cases found
        exact ⟨first, marked, Octets.ofBytes?_eq_some_iff.mp carried⟩
  · rintro ⟨first, marked, same⟩
    rw [staticKey_of_firstMark marked, ← same, Octets.ofBytes?_val]

/-- There is a key if and only if 32 bytes follow some mark: no less follows the first. -/
theorem exists_staticKey_iff :
    (∃ key, staticKey certificate = .ok key) ↔ ∃ index, KeyAt certificate index := by
  constructor
  · rintro ⟨key, found⟩
    obtain ⟨first, marked, same⟩ := staticKey_eq_ok_iff.mp found
    have room := congrArg List.length same
    rw [key.property, Bytes.slice, List.length_take, List.length_drop] at room
    exact ⟨first, marked.1, by omega⟩
  · rintro ⟨index, marked, behind⟩
    obtain ⟨first, marked'⟩ := exists_firstMark marked
    have before := marked'.le marked
    have room : first + keyMark.length + 32 ≤ certificate.length := by omega
    exact ⟨⟨_, Bytes.length_slice room⟩, staticKey_eq_ok_iff.mpr ⟨first, marked', rfl⟩⟩

/-- There is one reason to refuse a certificate. -/
theorem staticKey_of_not_keyAt (none : ¬∃ index, KeyAt certificate index) :
    staticKey certificate = .error .noStaticKey := by
  have outcomes : (∃ key, staticKey certificate = .ok key) ∨
      staticKey certificate = .error .noStaticKey := by
    unfold staticKey
    split
    · exact .inr rfl
    · split
      · exact .inr rfl
      · exact .inl ⟨_, rfl⟩
  exact outcomes.resolve_left (mt exists_staticKey_iff.mp none)

/-- Some blocks of a certificate, from `first` on. -/
def blocks (certificate : Bytes) (first count : Nat) : List Bytes :=
  (List.range' first count).map fun i => certificate.slice (i * blockLength) blockLength

theorem length_of_mem_blocks {first count : Nat}
    (inside : (first + count) * blockLength ≤ certificate.length) {data : Bytes}
    (member : data ∈ blocks certificate first count) : data.length = blockLength := by
  obtain ⟨i, among, rfl⟩ := List.mem_map.mp member
  have last : i + 1 ≤ first + count := by
    have bounds := List.mem_range'_1.mp among
    omega
  apply Bytes.length_slice
  calc
    i * blockLength + blockLength = (i + 1) * blockLength := (Nat.succ_mul i _).symm
    _ ≤ (first + count) * blockLength := Nat.mul_le_mul_right _ last
    _ ≤ certificate.length := inside

end Info

namespace Device

/-! ### Reading it -/

section

variable {σ : Type} [Transport σ]

/-- Blocks of the certificate are read one after the other, from `block` on. -/
inductive BlocksRead : (block : UInt8) → Device σ → List Bytes → Device σ → Prop
  | nil {block : UInt8} {device : Device σ} : BlocksRead block device [] device
  | cons {block : UInt8} {device between after : Device σ} {data : Bytes} {rest : List Bytes}
      (read : perform (onBus fun c => Link.getInfo c Info.Object.certificate.byte block) device =
        (.ok data, between))
      (later : BlocksRead (block + 1) between rest after) :
      BlocksRead block device (data :: rest) after

/-- Whole blocks that are read one after the other make up what is read. -/
theorem BlocksRead.joined {block : UInt8} {device after : Device σ} {blocks : List Bytes}
    (read : BlocksRead block device blocks after)
    (whole : ∀ data ∈ blocks, data.length = Info.blockLength) :
    perform (certificateBlocks blocks.length block) device = (.ok blocks.flatten, after) := by
  induction read with
  | nil => rfl
  | cons read later ih =>
    have size := whole _ (List.mem_cons_self ..)
    have rest := ih fun data member => whole data (List.mem_cons_of_mem _ member)
    rw [List.length_cons, certificateBlocks, perform_bind_ok read, if_neg (not_not.mpr size)]
    exact perform_bind_ok rest

end

section

variable [Primitives] {start device : Device Chip}

/-- On a wire without faults a block is read as it is. -/
theorem Reading.block (reading : Reading start device)
    (size : start.chip.certificate.length = Info.certificateLength)
    (clear : device.chip.wire.Clear) (tries : 0 < start.config.readMaxTries.toNat) {block : UInt8}
    (inside : block.toNat < 4) :
    ∃ after, perform (onBus fun c => Link.getInfo c Info.Object.certificate.byte block) device =
        (.ok (start.chip.certificate.slice (block.toNat * Info.blockLength) Info.blockLength),
          after) ∧
      Reading start after ∧ after.chip.wire.Clear := by
  have kept := keeps_onBus
    (fun c => Link.keeps_getInfo (c := c) Info.Object.certificate.byte block) device reading
  have certificate := reading.same Chip.certificate fun _ _ => rfl
  obtain ⟨bus, ⟨sound, -⟩, rfl⟩ := reading
  have room : block.toNat * Info.blockLength + Info.blockLength ≤
      bus.transport.certificate.length := by
    rw [show bus.transport.certificate = _ from certificate, size]
    simp only [Info.certificateLength, Info.blockLength]
    omega
  obtain ⟨follows, genuine, readable⟩ := leads_block (c := start.config) sound.toReady room
  obtain ⟨data, read, long⟩ := readable clear tries
  rw [perform_onBus] at kept ⊢
  refine ⟨_, Prod.ext ?_ rfl, kept, follows.clear clear⟩
  dsimp only
  rw [read, genuine data read long]
  exact congrArg (fun bytes => Except.ok (Bytes.slice bytes _ _)) certificate

/-- On a wire without faults block after block is read as it is. -/
theorem Reading.blocks (reading : Reading start device)
    (size : start.chip.certificate.length = Info.certificateLength)
    (clear : device.chip.wire.Clear) (tries : 0 < start.config.readMaxTries.toNat) (count : Nat)
    (block : UInt8) (inside : block.toNat + count ≤ 4) :
    ∃ after, BlocksRead block device (Info.blocks start.chip.certificate block.toNat count) after ∧
      Reading start after := by
  induction count generalizing block device with
  | zero => exact ⟨device, .nil, reading⟩
  | succ count ih =>
    have next : (block + 1).toNat = block.toNat + 1 := by
      rw [UInt8.toNat_add, UInt8.toNat_one]
      omega
    obtain ⟨between, read, reading', clear'⟩ := reading.block size clear tries
      (show block.toNat < 4 by omega)
    obtain ⟨after, later, reading''⟩ := ih reading' clear' (block + 1) (by omega)
    rw [next] at later
    exact ⟨after, .cons read later, reading''⟩

/-- The certificate of a chip that a run reaches, which carries the chip's key, is read
block by block. -/
theorem Reached.reads_certificate {allowed : Device Chip → Action → Prop}
    (reached : Reached allowed device) (faultless : device.chip.faults = Faults.none)
    (tries : 0 < device.config.readMaxTries.toNat) :
    ∃ after, BlocksRead 0 device (Info.blocks device.chip.certificate 0 4) after ∧
      perform certificate device = (.ok device.chip.certificate, after) := by
  have sound := reached.sound
  have size : device.chip.certificate.length = Info.certificateLength :=
    sound.bus.chip.length_certificate
  have clear := (Chip.faults_eq_none_iff.mp faultless).1
  obtain ⟨after, read, -⟩ := (Reading.refl sound).blocks size clear tries 4 0 (by decide)
  have joined : perform certificate device = _ := read.joined fun data member =>
    Info.length_of_mem_blocks (by rw [size]; decide) member
  obtain ⟨-, genuine, -⟩ := certificate_outcome sound
  rw [joined] at genuine
  refine ⟨after, read, ?_⟩
  rw [joined, genuine _ rfl]

/-- A certificate carries the 32 bytes behind the first mark as a key, if 32 bytes follow
any mark, and in all other cases none. Of a chip whose wire has no faults the host reads
the certificate block by block, and the key that this carries is the static key of the
chip, whatever its bytes are. -/
theorem certificate_carries_key :
    (∀ (certificate : Bytes) (key : Key), Info.staticKey certificate = .ok key ↔
      ∃ first, Info.FirstMark certificate first ∧
        key.val = certificate.slice (first + Info.keyMark.length) 32) ∧
    (∀ certificate : Bytes, (∃ key, Info.staticKey certificate = .ok key) ↔
      ∃ index, Info.KeyAt certificate index) ∧
    (∀ certificate : Bytes, (¬∃ index, Info.KeyAt certificate index) →
      Info.staticKey certificate = .error .noStaticKey) ∧
    (∀ key : Key, Info.staticKey (Chip.certificateOf key) = .ok key) ∧
    ∀ {allowed : Device Chip → Action → Prop} {device : Device Chip},
      Reached allowed device → device.chip.faults = Faults.none →
      0 < device.config.readMaxTries.toNat →
      device.chip.certificate.length = Info.certificateLength ∧
      Info.staticKey device.chip.certificate = .ok device.chip.publicKey ∧
      ∃ after, BlocksRead 0 device (Info.blocks device.chip.certificate 0 4) after ∧
        perform certificate device = (.ok device.chip.certificate, after) := by
  refine ⟨fun _ _ => Info.staticKey_eq_ok_iff, fun _ => Info.exists_staticKey_iff,
    fun _ => Info.staticKey_of_not_keyAt, Chip.staticKey_certificateOf, ?_⟩
  intro allowed device reached faultless tries
  have chip := reached.sound.bus.chip
  refine ⟨chip.length_certificate, ?_, reached.reads_certificate faultless tries⟩
  rw [chip.certified, Chip.staticKey_certificateOf]

end

/-- A mark with too few bytes behind it; a key behind the first of two marks; and the
certificate of a new chip. -/
theorem counting_certificate :
    Info.staticKey (Info.keyMark ++ List.replicate 31 0) = .error .noStaticKey ∧
      (∃ key : Key, key.val = List.replicate 32 0x65 ∧
        Info.staticKey (0x65 :: (Info.keyMark ++ List.replicate 32 0x65 ++ Info.keyMark)) =
          .ok key) ∧
      ∃ after, BlocksRead 0 counting (Info.blocks counting.chip.certificate 0 4) after ∧
        perform certificate counting = (.ok counting.chip.certificate, after) := by
  obtain ⟨keys, -, refused, -, reads⟩ := certificate_carries_key
  refine ⟨refused _ ?_, ⟨⟨List.replicate 32 0x65, rfl⟩, rfl, (keys _ _).mpr ⟨1, ?_⟩⟩,
    (reads (counting_reached fun _ _ => True) rfl (by decide)).2.2⟩
  · rintro ⟨index, -, behind⟩
    simp [Info.keyMark] at behind
  · decide

end Device

end SecureElement
