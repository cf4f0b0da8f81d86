import GlyphEffects.Number.Binary

/-! # Fixed-point text

A single-precision number is written with two decimals: its exact value is rounded to hundredths,
a half going to the even neighbour, and all digits of the whole part are written. The sign of a
negative number stays even where its digits are all zero.

* `hundredths` is that text.
-/

namespace GlyphEffects.Number

/-- The text of `n` hundredths. -/
def spellHundredths (n : Nat) : String :=
  (n / 100).repr ++ "." ++ (n / 10 % 10).repr ++ (n % 10).repr

/-- A number with two decimals. -/
def hundredths (x : Float32) : String :=
  if x.isNaN then "NaN"
  else
    let bits := x.toBits.toNat
    let magnitude := bits % Nat.pow 2 31
    (if bits < Nat.pow 2 31 then "" else "-") ++
      if magnitude = Format.single.infinity then "inf"
      else spellHundredths (divNearest (100 * Format.single.units magnitude) (Nat.pow 2 149))

end GlyphEffects.Number
