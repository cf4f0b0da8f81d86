import GlyphEffects.Number.Binary

/-! # Jitter

Numbers that look random but are fixed by a word of 64 bits.

* `scramble` is a finalizer of the kind that ends a step of a random number generator: each of its
  rounds can be undone, so different words stay different.
* `jitter` spreads a word of 32 bits over the numbers from -1 to 1.
-/

namespace GlyphEffects.Effect

open GlyphEffects.Number

/-- Mixes the bits of a word. -/
def scramble (z : UInt64) : UInt64 :=
  let z := z + 0x9e3779b97f4a7c15
  let z := (z ^^^ (z >>> 30)) * 0xbf58476d1ce4e5b9
  let z := (z ^^^ (z >>> 27)) * 0x94d049bb133111eb
  z ^^^ (z >>> 31)

/-- A number from -1 to 1 for a word of 32 bits. -/
def jitter (bits : UInt32) : Float32 := narrow (bits.toFloat / 4294967295 * 2 - 1)

end GlyphEffects.Effect
