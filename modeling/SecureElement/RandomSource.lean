import SecureElement.Bytes

/-!
Sources of random bytes.

A source is a stream and a position in it: every draw takes the bytes that come
next, so what is drawn depends only on the stream and on how much was drawn
before. A source may be about to fail, in which case the next fallible draw
takes nothing.
-/

namespace SecureElement

/-- A stream of bytes, how many of them are used up, and the reason for which the
next fallible draw fails, if it does. -/
structure RandomSource where
  stream : Nat → UInt8
  position : Nat
  failure : Option String

namespace RandomSource

/-- The next `count` bytes, and the source after them. -/
def draw (source : RandomSource) (count : Nat) : Octets count × RandomSource :=
  (⟨(List.range count).map fun i => source.stream (source.position + i), by simp⟩,
    { source with position := source.position + count })

/-- The next `count` bytes, unless the source is about to fail; a failure happens
once. -/
def tryDraw (source : RandomSource) (count : Nat) : Except String (Octets count) × RandomSource :=
  match source.failure with
  | some reason => (.error reason, { source with failure := none })
  | none => let (bytes, source) := source.draw count; (.ok bytes, source)

/-- The source whose next fallible draw fails for `reason`. -/
def failNext (source : RandomSource) (reason : String) : RandomSource :=
  { source with failure := some reason }

/-! ### Reproducible streams -/

/-- An affine map of 64-bit words. -/
structure Affine where
  factor : UInt64
  summand : UInt64

/-- One map after the other. -/
def Affine.compose (outer inner : Affine) : Affine :=
  ⟨outer.factor * inner.factor, outer.factor * inner.summand + outer.summand⟩

/-- The map applied `count` times, for counts below 2^64. -/
def Affine.iterate (map : Affine) (count : Nat) : Affine :=
  (List.range 64).foldr
    (fun i power =>
      let squared := power.compose power
      if count.testBit i then squared.compose map else squared) ⟨1, 0⟩

/-- The step of the generator. -/
def generator : Affine := ⟨6364136223846793005, 1442695040888963407⟩

/-- The source of a seed: the seed is stepped once for each byte, and the byte is
the top of the word. -/
def seeded (seed : UInt64) : RandomSource where
  stream i :=
    let map := generator.iterate (i + 1)
    ((map.factor * seed + map.summand) >>> 56).toUInt8
  position := 0
  failure := none

end RandomSource

end SecureElement
