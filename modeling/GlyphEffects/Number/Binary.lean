import GlyphEffects.Number.Rounding

/-! # Binary floating-point formats

A finite magnitude of a binary format is a whole multiple of the least positive one, and the bit
patterns of the magnitudes, read as numbers, are in the order of the magnitudes. So a format is
understood through two functions between bit patterns and exact fractions.

* `Format.units` decodes a bit pattern into multiples of the least positive magnitude.
* `Format.nearest` encodes a fraction: the nearest magnitude, a tie going to the even pattern.
* `narrow` rounds a double-precision number to single precision, and `ofCount` a count.
* `wholeWord` is the whole part of a number as a word of 64 bits.
-/

namespace GlyphEffects.Number

/-- The shape of a binary format: how many fraction bits it stores, and the `scale` for which
`2 ^ -scale` is its least positive magnitude. -/
structure Format where
  fraction : Nat
  scale : Nat
deriving DecidableEq

namespace Format

/-- Single precision: 32 bits, of which 23 store the fraction. -/
def single : Format := ⟨23, 149⟩

/-- Double precision: 64 bits, of which 52 store the fraction. -/
def double : Format := ⟨52, 1074⟩

/-- The bit pattern of infinity, which is the first one above all finite magnitudes. -/
def infinity (f : Format) : Nat := (2 * (f.scale - f.fraction + 2) - 1) * Nat.pow 2 f.fraction

/-- The magnitude with the bit pattern `bits`, in multiples of the least positive magnitude. -/
def units (f : Format) (bits : Nat) : Nat :=
  let normal := Nat.pow 2 f.fraction
  if bits < normal then bits else (bits % normal + normal) * Nat.pow 2 (bits / normal - 1)

/-- How far the last bit kept of `whole` lies above the least positive magnitude. -/
def shift (f : Format) (whole : Nat) : Nat := whole.log2 - f.fraction

/-- The bit pattern of the magnitude nearest to `n / d`, and infinity above the finite range. -/
def nearest (f : Format) (n d : Nat) : Nat :=
  let scaled := n * Nat.pow 2 f.scale
  let k := f.shift (scaled / d)
  min f.infinity (k * Nat.pow 2 f.fraction + divNearest scaled (d * Nat.pow 2 k))

example : single.infinity = 0x7F800000 := by decide
example : double.infinity = 0x7FF0000000000000 := by decide
example : double.nearest 1 10 = 0x3FB999999999999A := by decide +kernel
example : single.nearest 16777217 1 = 0x4B800000 := by decide +kernel

end Format

/-- The single-precision number nearest to a double-precision one; too large a number becomes an
infinity, and a number that is none stays none. -/
def narrow (x : Float) : Float32 :=
  if x.isNaN then Float32.ofBits 0x7FC00000
  else
    let bits := x.toBits.toNat
    let magnitude :=
      Format.single.nearest (Format.double.units (bits % Nat.pow 2 63)) (Nat.pow 2 1074)
    Float32.ofBits (UInt32.ofNat (bits / Nat.pow 2 63 * Nat.pow 2 31 + magnitude))

/-- The whole part of a number as a word. Numbers below zero, and what is no number, give the least
word, and numbers beyond the greatest word give that. -/
def wholeWord (x : Float) : UInt64 :=
  let bits := x.toBits.toNat
  if x.isNaN ∨ Nat.pow 2 63 ≤ bits then 0
  else UInt64.ofNat (min (Nat.pow 2 64 - 1) (Format.double.units bits / Nat.pow 2 1074))

def ofCount (n : Nat) : Float32 := (UInt64.ofNat n).toFloat32

end GlyphEffects.Number
